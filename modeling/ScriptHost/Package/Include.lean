import ScriptHost.Package.Basic
import ScriptHost.Path.Include

/-!
# Sources of includes
-/

namespace ScriptHost.Package

variable {σ : Type}

/-- The source that an include directive in a section means. -/
def includedSource (package : Package σ) (path sectionName : String) (m : Machine σ) :
    Except EngineError String × Machine σ :=
  let canonical := Path.includePath path sectionName
  let m := m.log (.including canonical sectionName)
  match package.readSource canonical m with
  | (.ok text, m) => (.ok text, m)
  | (.error fault, m) =>
    let cause := (StartError.readSource canonical fault).message
    (.error ⟨"Include", path ++ " (" ++ cause ++ ")"⟩, m)

end ScriptHost.Package
