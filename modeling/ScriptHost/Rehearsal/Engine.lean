import ScriptHost.Path.Include
import ScriptHost.Rehearsal.State

/-!
# The interpreter of a rehearsal

An interpreter whose scripts are lists of instructions.  A source text is read line by line: a line
names a program, another section to include, the entry point, an array type that is missing or
broken, or is a syntax error; any other line says nothing.
-/

namespace ScriptHost.Rehearsal

open State

/-! ## Registration -/

def registerCallbackType (state : State) (declaration : String) : Except EngineError Unit × State :=
  if state.rejected.contains (nameOfDeclaration declaration) then
    (.error ⟨"RegisterFuncdef", declaration⟩, state)
  else (.ok (), { state with callbackTypes := state.callbackTypes ++ [declaration] })

/-- A name is registered once. -/
def registerFunction (state : State) (declaration : String) (function : HostFunction) :
    Except EngineError Unit × State :=
  let name := nameOfDeclaration declaration
  if state.rejected.contains name || (state.hostFunction? name).isSome then
    (.error ⟨"RegisterGlobalFunction", declaration⟩, state)
  else (.ok (), { state with functions := state.functions ++ [(name, function)] })

/-! ## Building modules -/

def startModule (state : State) (name : String) : Except EngineError Unit × State :=
  if name.isEmpty then (.error ⟨"StartNewModule", "empty module name"⟩, state)
  else (.ok (), { state with draft := { name } })

def addSection (state : State) (sectionName source : String) : Except EngineError Unit × State :=
  if source.isEmpty then (.error ⟨"AddScriptSection", sectionName ++ " is empty"⟩, state)
  else (.ok (), { state with draft := { state.draft with sectionName, source } })

/-- What a line of source text says. -/
inductive Directive where
  | syntaxError
  | missingType (declaration : String)
  | brokenType (declaration : String)
  | entrypoint (name : String)
  | program (key : String)
  | inclusion (path : String)
  | nothing
deriving DecidableEq, Repr

/-- The text after a keyword and a space. -/
def afterKeyword? (keyword line : String) : Option String :=
  let key := keyword.toList ++ [' ']
  if key.isPrefixOf line.toList then some (String.ofList (line.toList.drop key.length)) else none

/-- Reads a line, which is not trimmed. -/
def Directive.ofLine (line : String) : Directive :=
  if line = "syntax error" then .syntaxError
  else
    ((afterKeyword? "no" line).map missingType
      <|> (afterKeyword? "broken" line).map brokenType
      <|> (afterKeyword? "entry" line).map entrypoint
      <|> (afterKeyword? "program" line).map program
      <|> (afterKeyword? "#include" line).map inclusion).getD .nothing

/-- The lines of a text, which newlines separate. -/
def lines (text : String) : List String :=
  text.splitOn "\n"

/-- Reads a section of source text and the sections it includes, and goes on with `next`.  Includes
are followed while there is `depth` left. -/
def readSection : Nat → String → String → State → (State → Compilation State) → Compilation State
  | 0, sectionName, _, state, _ =>
    .reported (.sectionParsed sectionName)
      (.failed state ⟨"Build", "includes too deep in " ++ sectionName⟩)
  | depth + 1, sectionName, source, state, next =>
    let readLine (line : String) (next : State → Compilation State) (state : State) :
        Compilation State :=
      match Directive.ofLine line with
      | .syntaxError => .failed state ⟨"Build", "syntax error in " ++ sectionName⟩
      | .missingType declaration =>
        next { state with
          draft := { state.draft with
            missingTypes := declaration :: state.draft.missingTypes } }
      | .brokenType declaration =>
        next { state with brokenTypes := declaration :: state.brokenTypes }
      | .entrypoint name =>
        next { state with draft := { state.draft with entrypoint := some name } }
      | .program key =>
        match state.program? key with
        | none => .failed state ⟨"Build", "unknown program " ++ key⟩
        | some functions =>
          next { state with
            draft := { state.draft with functions := state.draft.functions ++ functions } }
      | .inclusion path =>
        .requested state path sectionName fun state source =>
          match source with
          | .error error => .failed state error
          | .ok source => readSection depth (Path.includePath path sectionName) source state next
      | .nothing => next state
    .reported (.sectionParsed sectionName) ((lines source).foldr readLine next state)

/-- The module that a draft describes. -/
def Draft.module (draft : Draft) : ScriptModule where
  name := draft.name
  entrypoint? := do return (← findByName? draft.functions (← draft.entrypoint)).handle
  function? declaration :=
    (draft.functions.find? fun f => f.handle.declaration = declaration).map (·.handle)
  arrayType? declaration :=
    if draft.missingTypes.contains declaration then none else some ⟨declaration⟩

/-- How deep includes may be nested. -/
def includeDepth : Nat := 8

def build (state : State) : Compilation State :=
  readSection (includeDepth + 1) state.draft.sectionName state.draft.source state fun state =>
    .compiled state state.draft.module

/-! ## Running functions -/

def prepare (state : State) (context : ContextHandle) (function : FunctionHandle) :
    Except EngineError Unit × State :=
  if state.busy then (.error ⟨"Prepare", "context is busy"⟩, state)
  else
    match (state.function? function).bind fun (_, f) => f.refusal with
    | some reason => (.error ⟨"Prepare", reason⟩, state)
    | none => (.ok (), state.setContext context { function := some function })

/-- Binds an argument, unless the function refuses the one at its place. -/
def bindArgument (state : State) (context : ContextHandle) (index : Nat) (argument : Argument) :
    Except EngineError Unit × State :=
  let current := state.context context
  let refused :=
    (current.function.bind state.function?).bind fun (_, f) => f.refusedArgument
  if refused = some index then
    (.error ⟨"SetArg", "argument " ++ toString index ++ " refused"⟩, state)
  else (.ok (), state.setContext context { current with args := current.args ++ [argument] })

/-- An argument as the host function gets it. -/
def ScriptArgument.evaluate (functions : List ScriptFunction) (state : State) :
    ScriptArgument → HostArgument
  | .function name =>
    match findByName? functions name with
    | some f => .function f.handle
    | none => .object .null
  | .scalar value => .scalar value
  | .object value => .object value
  | .variable name => .scalar (.uint32 (state.variableValue name))

/-- Follows instructions in a context, `functions` being those of the program.  Past the last one
the function has finished. -/
def play (functions : List ScriptFunction) (context : ContextHandle) :
    List Instruction → State → ScriptRun State
  | [], state => .ended state (.ok .finished)
  | instruction :: rest, state =>
    match instruction with
    | .remark text => .reported (.remark text) (play functions context rest state)
    | .advance offset =>
      if state.clockMoves then .waited offset (play functions context rest state)
      else play functions context rest state
    | .setBusy busy => play functions context rest { state with busy }
    | .call name args userData saveAs =>
      match state.hostFunction? name with
      | none => .reported (.hostCalled name none) (play functions context rest state)
      | some function =>
        .called state function userData (args.map (·.evaluate functions state))
          fun state result =>
            .reported (.hostCalled name (some result))
              (play functions context rest (state.save saveAs result))
    | .return byte =>
      .ended (state.setContext context { state.context context with returnByte := byte })
        (.ok .finished)
    | .suspend => .ended state (.ok .suspended)
    | .abort => .ended state (.ok .aborted)
    | .fail reason => .ended state (.error ⟨"Execute", reason⟩)
    | .throw info => .ended state (.ok (.exception info))

def execute (state : State) (context : ContextHandle) : ScriptRun State :=
  let current := state.context context
  match current.function with
  | none => .ended state (.ok .finished)
  | some handle =>
    let count := (lookup? handle state.executions).getD 0
    let state := { state with executions := assign handle (count + 1) state.executions }
    .reported (.functionRan handle current.args)
      (match state.function? handle with
        | none => .ended state (.ok .finished)
        | some (functions, function) =>
          play functions context (function.runAfter count) state)

def createArray (state : State) (type : ArrayTypeHandle) (items : List Value) :
    Except EngineError ObjectRef × State :=
  if state.brokenTypes.contains type.declaration then
    (.error ⟨"CreateArray", type.declaration ++ " is broken"⟩, state)
  else (.ok (.script (.array type.declaration items)), state)

/-- The interpreter of a rehearsal. -/
def interpreter : Interpreter State where
  registerCallbackType := registerCallbackType
  registerFunction := registerFunction
  startModule := startModule
  addSection := addSection
  build := build
  discardModule state _ := state
  createContext state :=
    (⟨state.nextContext⟩, { state with nextContext := state.nextContext + 1 })
  releaseContext state context :=
    { state with contexts := state.contexts.filter fun (id, _) => id != context.id }
  prepare := prepare
  bindScalar state context index value := bindArgument state context index (.scalar value)
  bindObject state context index object := bindArgument state context index (.object object)
  execute := execute
  returnByte state context := (state.context context).returnByte
  createArray := createArray

end ScriptHost.Rehearsal
