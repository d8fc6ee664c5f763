import ScriptHost.Config.Basic
import ScriptHost.Path.Basic
import ScriptHost.Toml.Reader
import ScriptHost.Toml.Writer

/-!
# Configurations as TOML

`Config.ofToml?` reads a configuration from the entries of a document and `Config.toToml` writes
one.  What is not given has its default, and unknown entries do not matter.
-/

namespace ScriptHost

namespace Toml.Entries

/-- An entry of a kind, or nothing if it is not given; of another kind it is refused. -/
def field? {α : Type} (entries : Entries) (key : String) (read : Node → Option α) :
    Option (Option α) :=
  match entries.get? key with
  | none => some none
  | some node => (read node).map some

end Toml.Entries

namespace Toml.Node

def truth? : Node → Option Bool
  | .boolean value => some value
  | _ => none

def text? : Node → Option String
  | .string text => some text
  | _ => none

end Toml.Node

namespace Config

/-- The configuration that a TOML document describes. -/
def ofToml? (text : String) : Option Config := do
  let entries ← Toml.parse? text
  let debug ← entries.field? "debug" Toml.Node.truth?
  let generateDocs ← entries.field? "generate_docs" Toml.Node.truth?
  let docsDir ← entries.field? "docs_dir" Toml.Node.text?
  let docsModule ← entries.field? "docs_module" Toml.Node.text?
  let standard : Config := {}
  return {
    debug := debug.getD standard.debug
    generateDocs := generateDocs.getD standard.generateDocs
    docsDir
    docsModule := docsModule.getD standard.docsModule }

/-- A configuration as a TOML document; a directory that is not set is left out. -/
def toToml (config : Config) : String :=
  let truth (value : Bool) : String := if value then "true" else "false"
  let entries : List (String × String) :=
    [("debug", truth config.debug), ("generate_docs", truth config.generateDocs)]
      ++ config.docsDir.toList.map (fun path => ("docs_dir", Toml.writeString path))
      ++ [("docs_module", Toml.writeString config.docsModule)]
  String.join (entries.map fun (key, value) => key ++ " = " ++ value ++ "\n")

/-- Whether two configurations mean the same: directories are compared as paths. -/
def agrees (first second : Config) : Bool :=
  first.debug = second.debug && first.generateDocs = second.generateDocs
    && first.docsDir.map Path.components = second.docsDir.map Path.components
    && first.docsModule = second.docsModule

end Config

end ScriptHost
