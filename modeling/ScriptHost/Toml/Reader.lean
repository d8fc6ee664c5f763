import ScriptHost.Toml.Lexical

/-!
# Reading TOML

A document is a list of lines, each empty, a header, or a key with its value; `Document.parse?`
gives the entries of its root table.  A header opens the table that the lines after it fill, and the
table is put into its place when the next header comes.
-/

namespace ScriptHost.Toml

/-! ## Values -/

mutual

/-- A value.  Arrays and tables in it take one unit of `depth` each; `fuel` bounds the number of
steps. -/
def value? : Nat → Nat → List Char → Option (Node × List Char)
  | 0, _, _ => none
  | fuel + 1, depth, cs =>
    match cs with
    | '[' :: rest =>
      if depth = 0 then none
      else (items? fuel (depth - 1) rest).map fun (items, rest) => (.array items, rest)
    | '\x7b' :: rest =>
      if depth = 0 then none
      else
        match skipBlanks rest with
        | '\x7d' :: rest => some (.inlineTable [], rest)
        | rest =>
          (members? fuel (depth - 1) [] rest).map fun (entries, rest) =>
            (.inlineTable entries, rest)
    | _ => scalar? cs

/-- The items of an array up to its bracket; a comma may follow the last. -/
def items? : Nat → Nat → List Char → Option (List Node × List Char)
  | 0, _, _ => none
  | fuel + 1, depth, cs =>
    match skipBlankLines cs.length cs with
    | ']' :: rest => some ([], rest)
    | cs =>
      match value? fuel depth cs with
      | none => none
      | some (item, rest) =>
        match skipBlankLines rest.length rest with
        | ']' :: rest => some ([item], rest)
        | ',' :: rest => (items? fuel depth rest).map fun (items, rest) => (item :: items, rest)
        | _ => none

/-- The members of a table in braces up to its brace; they stand on one line, and no comma follows
the last. -/
def members? : Nat → Nat → Entries → List Char → Option (Entries × List Char)
  | 0, _, _, _ => none
  | fuel + 1, depth, entries, cs =>
    match key? cs with
    | some ((path, key), '=' :: rest) =>
      match value? fuel depth (skipBlanks rest) with
      | none => none
      | some (node, rest) =>
        match entries.addEntry path key node, skipBlanks rest with
        | some entries, ',' :: rest => members? fuel depth entries rest
        | some entries, '\x7d' :: rest => some (entries, rest)
        | _, _ => none
    | _ => none

end

/-! ## Documents -/

/-- Where the table that is being filled belongs. -/
inductive Header where
  | root
  | table (path : List String) (key : String)
  | element (path : List String) (key : String)
deriving Repr

/-- A document being read: what is in its place, and the table being filled. -/
structure Draft where
  root : Entries := []
  header : Header := .root
  current : Entries := []
deriving Repr

namespace Draft

/-- Puts the table being filled into its place. -/
def finish? (draft : Draft) : Option Entries :=
  let filled : Node := .table false false draft.current
  match draft.header with
  | .root => some draft.current
  | .table path key =>
    Entries.changeAt false (fun _ inner => some (Entries.set inner key filled)) path false
      draft.root
  | .element path key =>
    Entries.changeAt false
      (fun _ inner =>
        match (Entries.get? inner key).getD (.tables []) with
        | .tables elements => some (Entries.set inner key (.tables (elements ++ [filled])))
        | _ => none)
      path false draft.root

/-- The entries of the table under a key, if a header may still open it: it is new, or was only
implied by the path of another header. -/
def openable? (entries : Entries) (key : String) : Option Entries :=
  match Entries.get? entries key with
  | none => some []
  | some (.table true false inner) => some inner
  | some _ => none

/-- The entries at the end of a path of existing tables. -/
def entriesAt? : List String → Entries → Option Entries
  | [], entries => some entries
  | key :: rest, entries =>
    match Entries.get? entries key with
    | none => entriesAt? rest []
    | some (.table _ _ inner) => entriesAt? rest inner
    | some (.tables elements) =>
      match elements.getLast? with
      | some (.table _ _ inner) => entriesAt? rest inner
      | _ => none
    | some _ => none

/-- Opens the table of a header. -/
def openTable? (draft : Draft) (path : List String) (key : String) : Option Draft := do
  let root ← draft.finish?
  let current ← openable? (← entriesAt? path root) key
  let root ←
    Entries.changeAt false (fun _ inner => some (Entries.erase inner key)) path false root
  some { root, header := .table path key, current }

/-- Opens the next element of an array of tables. -/
def openElement? (draft : Draft) (path : List String) (key : String) : Option Draft := do
  let root ← draft.finish?
  let root ←
    Entries.changeAt false
      (fun _ inner =>
        match (Entries.get? inner key).getD (.tables []) with
        | .tables elements => some (Entries.set inner key (.tables elements))
        | _ => none)
      path false root
  some { root, header := .element path key, current := [] }

end Draft

/-- Reads the lines of a document, one for each unit of `fuel`. -/
def lines? : Nat → Draft → List Char → Option Entries
  | 0, _, _ => none
  | fuel + 1, draft, cs =>
    match skipBlanks cs with
    | [] => draft.finish?
    | '#' :: rest => do lines? fuel draft (← lineEnd? (skipComment ('#' :: rest)))
    | '\n' :: rest => lines? fuel draft rest
    | '\r' :: rest => do lines? fuel draft (← newline? ('\r' :: rest))
    | '[' :: '[' :: rest => do
      match ← key? rest with
      | ((path, key), ']' :: ']' :: rest) =>
        let draft ← draft.openElement? path key
        lines? fuel draft (← lineTrailing? rest)
      | _ => none
    | '[' :: rest => do
      match ← key? rest with
      | ((path, key), ']' :: rest) =>
        let draft ← draft.openTable? path key
        lines? fuel draft (← lineTrailing? rest)
      | _ => none
    | cs => do
      match ← key? cs with
      | ((path, key), '=' :: rest) =>
        let rest := skipBlanks rest
        let (node, rest) ← value? (2 * rest.length + 2) nestingLimit rest
        let rest ← lineTrailing? rest
        lines? fuel { draft with current := ← draft.current.addEntry path key node } rest
      | _ => none

/-- The entries of the root table of a document, which may begin with a byte order mark. -/
def parse? (text : String) : Option Entries :=
  let cs := text.toList
  let cs :=
    match cs with
    | c :: rest => if c.toNat = 0xFEFF then rest else cs
    | [] => cs
  lines? (cs.length + 1) {} cs

end ScriptHost.Toml
