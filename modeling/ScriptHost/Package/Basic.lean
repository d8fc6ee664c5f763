import ScriptHost.Interpreter

/-!
# Packages

The files of a resource are read through a package, whose state is part of the machine's.
`readSource` reads a whole file as text: it asks for what is still missing until nothing is missing
or a read gives nothing, and closes the file in every case.

Sizes and counts are natural numbers here.  On the machine they are words, and what is read goes
into a buffer that is made as large as the file is told to be, before the first read.
-/

namespace ScriptHost

/-- The file operations of a package.  A read gives the bytes it delivered and their claimed
number. -/
structure Package (σ : Type) where
  fileExists : σ → String → Bool
  openFile : σ → String → Option FileHandle × σ
  fileSize : σ → FileHandle → Nat
  readChunk : σ → FileHandle → Nat → (List UInt8 × Nat) × σ
  closeFile : σ → FileHandle → σ

namespace Package

/-- A package of a part of the state. -/
def lift {σ τ : Type} (package : Package σ) (get : τ → σ) (set : τ → σ → τ) : Package τ where
  fileExists state path := package.fileExists (get state) path
  openFile state path :=
    let (file, part) := package.openFile (get state) path
    (file, set state part)
  fileSize state file := package.fileSize (get state) file
  readChunk state file room :=
    let (delivery, part) := package.readChunk (get state) file room
    (delivery, set state part)
  closeFile state file := set state (package.closeFile (get state) file)

/-- The first `count` of the bytes, filled up with zeros. -/
def padded (count : Nat) (bytes : List UInt8) : List UInt8 :=
  bytes.take count ++ List.replicate (count - bytes.length) 0

variable {σ : Type}

/-- Reads the `missing` bytes of an open file that follow those in `chunks`, which holds the latest
first.  Gives nothing when a read gives nothing first.

There is no buffer: what is read is put together at the end.  A read may claim any number of bytes.
The machine adds up in a word what has been claimed, so a package that claims more than there was
room for can make the sum too large for it; here no sum is too large. -/
def readMissing (package : Package σ) (file : FileHandle) (chunks : List (List UInt8))
    (missing : Nat) (m : Machine σ) : Option (List UInt8) × Machine σ :=
  if _h : missing = 0 then (some chunks.reverse.flatten, m)
  else
    let ((bytes, claimed), engine) := package.readChunk m.engine file missing
    let m := { m with engine }.record (.fileRead missing claimed)
    if _h' : claimed = 0 then (none, m)
    else
      readMissing package file (padded (min claimed missing) bytes :: chunks) (missing - claimed) m
termination_by missing
decreasing_by omega

/-- Reads a file as text.

The size that is told may be any number.  The machine can make no buffer of more than 2⁶³ - 1 bytes:
for a greater size the reading ends in a panic after the file was opened, before anything is read of
it and without its being closed.  Such sizes are read here like all others. -/
def readSource (package : Package σ) (path : String) (m : Machine σ) :
    Except SourceFault String × Machine σ :=
  match package.openFile m.engine path with
  | (none, engine) => (.error .notOpened, { m with engine }.record (.fileOpened path false))
  | (some file, engine) =>
    let m := { m with engine }.record (.fileOpened path true)
    let size := package.fileSize m.engine file
    let m := m.record (.fileSized size)
    let (content, m) := readMissing package file [] size m
    let m := { m with engine := package.closeFile m.engine file }.record (.fileClosed file)
    match content with
    | none => (.error .endedEarly, m)
    | some bytes =>
      match String.fromUTF8? ⟨bytes.toArray⟩ with
      | some text => (.ok text, m)
      | none => (.error .notUtf8, m)

end Package

end ScriptHost
