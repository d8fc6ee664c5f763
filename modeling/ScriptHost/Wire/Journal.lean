import ScriptHost.Journal
import ScriptHost.Wire.Argument

/-!
# Data form of the journal

The part of a journal that is shown to people: what is logged, what is given back, and what the
collaborators did.  References taken by the host, its own calls and the calls that it answers are
not shown, as the interpreter's reports tell of them.
-/

namespace ScriptHost

/-- A log line. -/
def Notice.toJson (notice : Notice) : Json :=
  .arr [.str "log", .str notice.level.name, .str notice.target, .str notice.message]

namespace Entry

/-- The entry as an array that begins with its kind, if it is shown. -/
def toJson? : Entry → Option Json
  | .logged notice => some notice.toJson
  | .released f => some (.arr [.str "fn-", .str f.label])
  | .typeRetained type => some (.arr [.str "type+", .str type.declaration])
  | .typeReleased type => some (.arr [.str "type-", .str type.declaration])
  | .fileOpened path found => some (.arr [.str "open", .str path, .bool found])
  | .fileSized size => some (.arr [.str "size", .int size])
  | .fileRead room claimed => some (.arr [.str "read", .int room, .int claimed])
  | .fileClosed file => some (.arr [.str "close", .int file.id.toNat])
  | .moduleDiscarded name => some (.arr [.str "discard", .str name])
  | .contextCreated => some (.arr [.str "context+"])
  | .contextReleased => some (.arr [.str "context-"])
  | .reported (.sectionParsed name) => some (.arr [.str "section", .str name])
  | .reported (.functionRan f args) =>
    some (.arr [.str "run", .str f.label, .arr (args.map Argument.toJson)])
  | .reported (.remark text) => some (.arr [.str "record", .str text])
  | .reported (.hostCalled name (some result)) =>
    some (.arr [.str "call", .str name, result.toJson])
  | .reported (.hostCalled name none) =>
    some (.arr [.str "call", .str name, .obj [("error", .str "UnknownNative")]])
  | .retained _ | .moduleBuilt _ | .called .. | .served .. => none

/-- Whether the entry is about a package file. -/
def isFileEntry : Entry → Bool
  | .fileOpened .. | .fileSized .. | .fileRead .. | .fileClosed .. => true
  | _ => false

/-- The label of the function that the entry gives back. -/
def releasedLabel? : Entry → Option String
  | .released f => some f.label
  | _ => none

/-- Whether the entry is shown. -/
def isShown (entry : Entry) : Bool :=
  entry.toJson?.isSome

end Entry

/-- Puts each run of adjacent releases in the order of their labels; `labels` holds those of the
run so far. -/
def sortReleases (labels : List String) : List Entry → List Json
  | [] => runOf labels
  | entry :: rest =>
    match entry.releasedLabel? with
    | some label => sortReleases (label :: labels) rest
    | none => runOf labels ++ entry.toJson?.toList ++ sortReleases [] rest
where
  runOf (labels : List String) : List Json :=
    (labels.mergeSort fun a b => decide (a ≤ b)).map fun label =>
      .arr [.str "fn-", .str label]

/-- What is shown of a list of entries.  Releases that follow each other have no order of their own
and are shown by label. -/
def traceOf (entries : List Entry) : Json :=
  .arr (sortReleases [] (entries.filter Entry.isShown))

end ScriptHost
