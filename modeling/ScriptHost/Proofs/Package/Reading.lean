import ScriptHost.Proofs.Resource.Compile

/-!
# Reading a source

A file is read by asking for what is missing until nothing is, and a package may deliver as little
at a time as it likes.  `readWhole_reads` is the protocol, which no package can upset: reads, no
more of them than the file has bytes, and after the last of them the file is closed.
`readWhole_delivered` is the content: of a file that is delivered piece by piece, the result depends
on the bytes and the size told, and not on the pieces.  `readSource_reads` and
`readSource_delivered` say both of a source that could be opened.
-/

namespace ScriptHost.Package

variable {σ : Type} {package : Package σ} {file : FileHandle}

/-! ## The reads -/

/-- Reads of an open file, each with its room and the number of bytes claimed, that lead from one
state of the package to another. -/
inductive Reads (package : Package σ) (file : FileHandle) : σ → List (Nat × Nat) → σ → Prop
  | none (engine : σ) : Reads package file engine [] engine
  | read {engine next last : σ} {room claimed : Nat} {bytes : List UInt8}
      {reads : List (Nat × Nat)}
      (first : package.readChunk engine file room = ((bytes, claimed), next))
      (rest : Reads package file next reads last) :
      Reads package file engine ((room, claimed) :: reads) last

/-- What the journal tells of reads. -/
def readEntries (reads : List (Nat × Nat)) : List Entry :=
  reads.map fun (room, claimed) => .fileRead room claimed

/-- Every read but the last makes less be missing, and the last ends the loop. -/
theorem readMissing_reads (package : Package σ) (file : FileHandle) (chunks : List (List UInt8))
    (missing : Nat) (m : Machine σ) :
    ∃ reads, Reads package file m.engine reads
        (package.readMissing file chunks missing m).2.engine ∧
      reads.length ≤ missing ∧
      (package.readMissing file chunks missing m).2.journal.toList
        = m.journal.toList ++ readEntries reads := by
  -- nothing is missing, a read claims nothing, or the loop goes on with less
  fun_induction package.readMissing file chunks missing m with
  | case1 chunks m => exact ⟨[], .none _, Nat.le_refl 0, (List.append_nil _).symm⟩
  | case2 chunks missing m h bytes engine hread m' =>
    refine ⟨[(missing, 0)], .read hread (.none _), Nat.pos_of_ne_zero h, ?_⟩
    exact Journal.toList_push _ _
  | case3 chunks missing m h bytes claimed engine hread m' h' ih =>
    obtain ⟨reads, hreads, hlength, hjournal⟩ := ih
    refine ⟨(missing, claimed) :: reads, .read hread hreads, ?_, ?_⟩
    · rw [List.length_cons]
      omega
    · rw [hjournal, Machine.journal_record, Journal.toList_push, List.append_assoc]
      rfl

/-- An open file is asked for its size, read at most as many times as it has bytes, and closed. -/
theorem readWhole_reads (package : Package σ) (file : FileHandle) (m : Machine σ) :
    ∃ reads last, Reads package file m.engine reads last ∧
      reads.length ≤ package.fileSize m.engine file ∧
      (package.readWhole file m).2.engine = package.closeFile last file ∧
      (package.readWhole file m).2.journal.toList
        = m.journal.toList ++ .fileSized (package.fileSize m.engine file) :: readEntries reads
          ++ [.fileClosed file] := by
  obtain ⟨reads, hreads, hlength, hjournal⟩ := package.readMissing_reads file []
    (package.fileSize m.engine file) (m.record (.fileSized (package.fileSize m.engine file)))
  refine ⟨reads, _, hreads, hlength, rfl, ?_⟩
  unfold readWhole
  simp only
  rw [Machine.journal_record, Journal.toList_push, hjournal, Machine.journal_record,
    Journal.toList_push, List.append_assoc m.journal.toList]
  rfl

/-! ## The content -/

/-- From this state on, reads deliver the bytes of `content` from the first to the last, as many at
a time as the package likes but no more than there is room for, and nothing only when all have been
delivered.  `Left` tells what is still to come. -/
def Delivers (package : Package σ) (file : FileHandle) (engine : σ) (content : List UInt8) : Prop :=
  ∃ Left : σ → List UInt8 → Prop, Left engine content ∧
    ∀ engine left room, Left engine left → 0 < room →
      ∃ bytes rest next, package.readChunk engine file room = ((bytes, bytes.length), next) ∧
        left = bytes ++ rest ∧ bytes.length ≤ room ∧ (bytes = [] → left = []) ∧ Left next rest

theorem Delivers.step {engine : σ} {content : List UInt8}
    (h : Delivers package file engine content) {room : Nat} (hroom : 0 < room) :
    ∃ bytes rest next, package.readChunk engine file room = ((bytes, bytes.length), next) ∧
      content = bytes ++ rest ∧ bytes.length ≤ room ∧ (bytes = [] → content = []) ∧
      Delivers package file next rest := by
  obtain ⟨Left, hleft, hstep⟩ := h
  obtain ⟨bytes, rest, next, hread, hcontent, hle, hend, hnext⟩ := hstep _ _ _ hleft hroom
  exact ⟨bytes, rest, next, hread, hcontent, hle, hend, Left, hnext, hstep⟩

/-- A chunk that fits is taken as it is. -/
theorem padded_eq_self {bytes : List UInt8} {room : Nat} (h : bytes.length ≤ room) :
    padded (min bytes.length room) bytes = bytes := by
  rw [padded, Nat.min_eq_left h, List.take_length, Nat.sub_self, List.replicate_zero,
    List.append_nil]

/-- The chunks so far and the first of the bytes that are still to come make up the file. -/
theorem Delivers.readMissing {content : List UInt8} {m : Machine σ}
    (h : Delivers package file m.engine content) (chunks : List (List UInt8)) (missing : Nat) :
    (package.readMissing file chunks missing m).1
      = if content.length < missing then none
        else some (chunks.reverse.flatten ++ content.take missing) := by
  -- by the number of missing bytes: a chunk may have any length, so that one step is not enough
  induction missing using Nat.strongRecOn generalizing content m chunks with
  | ind missing ih =>
    rw [Package.readMissing]
    by_cases hzero : missing = 0
    · rw [dif_pos hzero, hzero, if_neg (Nat.not_lt_zero _), List.take_zero, List.append_nil]
    · have hpos : 0 < missing := Nat.pos_of_ne_zero hzero
      obtain ⟨bytes, rest, next, hread, rfl, hle, hend, hnext⟩ := h.step hpos
      rw [dif_neg hzero, hread]
      simp only
      by_cases hnone : bytes.length = 0
      · -- nothing is delivered, so nothing is left
        have hempty : bytes ++ rest = [] := hend (List.length_eq_zero_iff.mp hnone)
        rw [dif_pos hnone, hempty, List.length_nil, if_pos hpos]
      · have hless : missing - bytes.length < missing := by omega
        have hlength : rest.length < missing - bytes.length
            ↔ (bytes ++ rest).length < missing := by
          rw [List.length_append]
          omega
        rw [dif_neg hnone, padded_eq_self hle, ih _ hless hnext, List.reverse_cons,
          List.flatten_append, List.flatten_singleton, List.append_assoc, List.take_append,
          List.take_of_length_le hle]
        simp only [hlength]

/-! ## The text -/

/-- The text of a file: of its first `size` bytes, if it has so many and they are UTF-8. -/
def sourceOf (content : List UInt8) (size : Nat) : Except SourceFault String :=
  if content.length < size then .error .endedEarly
  else
    match String.fromUTF8? ⟨(content.take size).toArray⟩ with
    | some text => .ok text
    | none => .error .notUtf8

theorem fromUTF8?_eq_some_iff {bytes : ByteArray} {text : String} :
    String.fromUTF8? bytes = some text ↔ text.toUTF8 = bytes := by
  unfold String.fromUTF8?
  constructor
  · intro h
    split at h
    · rw [← Option.some.inj h]
      rfl
    · cases h
  · rintro rfl
    have hvalid : text.toUTF8.IsValidUTF8 := text.isValidUTF8
    rw [dif_pos hvalid]
    rfl

/-- The text that is read is the one whose UTF-8 form the bytes are. -/
theorem sourceOf_eq_ok_iff {content : List UInt8} {size : Nat} {text : String} :
    sourceOf content size = .ok text
      ↔ size ≤ content.length ∧ text.toUTF8 = ⟨(content.take size).toArray⟩ := by
  rw [← fromUTF8?_eq_some_iff, ← Nat.not_lt, sourceOf]
  by_cases hshort : content.length < size
  · simp [hshort]
  · rw [if_neg hshort]
    cases String.fromUTF8? ⟨(content.take size).toArray⟩ <;> simp [hshort]

/-! ## The whole -/

theorem readSource_notOpened {path : String} {m : Machine σ} {engine : σ}
    (h : package.openFile m.engine path = (none, engine)) :
    package.readSource path m
      = (.error .notOpened, ({ m with engine } : Machine σ).record (.fileOpened path false)) := by
  rw [readSource, h]

/-- Making a text of the bytes does nothing to the machine. -/
theorem readSource_snd {path : String} {m : Machine σ} {engine : σ}
    (h : package.openFile m.engine path = (some file, engine)) :
    (package.readSource path m).2 = (package.readWhole file
      (({ m with engine } : Machine σ).record (.fileOpened path true))).2 := by
  rw [package.readSource_of_opened h]
  rcases package.readWhole file _ with ⟨_ | bytes, m'⟩
  · rfl
  · simp only
    split <;> rfl

/-- A file that could be opened is read and closed, once. -/
theorem readSource_reads {path : String} {m : Machine σ} {engine : σ}
    (h : package.openFile m.engine path = (some file, engine)) :
    ∃ reads last, Reads package file engine reads last ∧
      reads.length ≤ package.fileSize engine file ∧
      (package.readSource path m).2.engine = package.closeFile last file ∧
      m.journal.since (package.readSource path m).2.journal
        = .fileOpened path true :: .fileSized (package.fileSize engine file) :: readEntries reads
          ++ [.fileClosed file] := by
  obtain ⟨reads, last, hreads, hlength, hengine, hjournal⟩ := package.readWhole_reads file
    (({ m with engine } : Machine σ).record (.fileOpened path true))
  refine ⟨reads, last, hreads, hlength, ?_, ?_⟩
  · rw [readSource_snd h, hengine]
  · rw [readSource_snd h, Journal.since, hjournal, Machine.journal_record, Journal.toList_push,
      List.append_assoc, List.append_assoc, List.drop_left]
    rfl

/-- How the bytes were delivered cannot be told from the result. -/
theorem readSource_delivered {path : String} {m : Machine σ} {engine : σ} {content : List UInt8}
    (h : package.openFile m.engine path = (some file, engine))
    (hdelivers : Delivers package file engine content) :
    (package.readSource path m).1 = sourceOf content (package.fileSize engine file) := by
  have hread : (package.readWhole file
      (({ m with engine } : Machine σ).record (.fileOpened path true))).1
      = if content.length < package.fileSize engine file then none
        else some (content.take (package.fileSize engine file)) :=
    Delivers.readMissing hdelivers [] _
  rw [package.readSource_of_opened h, sourceOf]
  generalize package.readWhole file _ = whole at hread ⊢
  rcases whole with ⟨read, m'⟩
  obtain rfl : read = _ := hread
  by_cases hshort : content.length < package.fileSize engine file
  · rw [if_pos hshort, if_pos hshort]
  · rw [if_neg hshort, if_neg hshort]
    simp only
    cases String.fromUTF8? ⟨(content.take (package.fileSize engine file)).toArray⟩ <;> rfl

end ScriptHost.Package
