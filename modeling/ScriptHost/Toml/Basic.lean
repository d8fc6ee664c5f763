import ScriptHost.Number.Binary

/-!
# TOML documents

The tree of a TOML document.  A table remembers whether it was only implied by the path to another
table, and whether by a dotted key, since both decide what may still be added to it.
-/

namespace ScriptHost.Toml

inductive Node where
  | string (text : String)
  | integer (value : Int)
  | float (value : Number.Binary64)
  | boolean (value : Bool)
  /-- A date, a time or both, as written. -/
  | moment (text : String)
  | array (items : List Node)
  /-- A table in braces, which is complete. -/
  | inlineTable (entries : List (String × Node))
  | table (implicit dotted : Bool) (entries : List (String × Node))
  /-- An array of tables, each under a header of its own. -/
  | tables (elements : List Node)
deriving Repr, Inhabited

/-- The entries of a table by key. -/
abbrev Entries := List (String × Node)

namespace Entries

def get? (entries : Entries) (key : String) : Option Node :=
  (entries.find? fun (k, _) => k = key).map (·.2)

/-- Sets an entry, in place or else at the end. -/
def set (entries : Entries) (key : String) (node : Node) : Entries :=
  if (get? entries key).isSome then
    entries.map fun (k, old) => (k, if k = key then node else old)
  else entries ++ [(key, node)]

def erase (entries : Entries) (key : String) : Entries :=
  entries.filter fun (k, _) => k ≠ key

/-- Changes the entries of the table at the end of a path; tables that are missing on the way are
implied.  An array of tables is followed to its last element.  With `dotted`, the path is that of a
dotted key: it may not enter a table that has a header or braces of its own.  The change is told
whether the table comes from a dotted key. -/
def changeAt (dotted : Bool) (change : Bool → Entries → Option Entries) :
    List String → Bool → Entries → Option Entries
  | [], fromDotted, entries => change fromDotted entries
  | key :: rest, _, entries => do
    match (get? entries key).getD (.table true dotted []) with
    | .table implicit isDotted inner =>
      if dotted && !implicit then none
      else
        let inner ← changeAt dotted change rest isDotted inner
        some (set entries key (.table implicit isDotted inner))
    | .tables elements =>
      match elements.getLast? with
      | some (.table implicit isDotted inner) =>
        let inner ← changeAt dotted change rest isDotted inner
        some (set entries key (.tables (elements.dropLast ++ [.table implicit isDotted inner])))
      | _ => none
    | _ => none

/-- Adds an entry under a key with the dotted path before it.  A key is given once, and a table that
was implied otherwise is not extended by dotted keys. -/
def addEntry (entries : Entries) (path : List String) (key : String) (node : Node) :
    Option Entries :=
  changeAt true
    (fun fromDotted inner =>
      if fromDotted = path.isEmpty || (get? inner key).isSome then none
      else some (inner ++ [(key, node)]))
    path false entries

end Entries

end ScriptHost.Toml
