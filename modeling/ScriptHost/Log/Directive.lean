import ScriptHost.Log.Threshold
import ScriptHost.Pattern.WellFormed
import ScriptHost.Text.Cut

/-!
# Log directives

A directive says up to which level the records of some targets pass.  It is written as a target, a
level, or a target and a level with an equals sign between them.  A span and a field in brackets
may follow the target.

White space around a directive does not count when its parts are looked for.  The places where they
are found are counted from the first character that counts, but the parts are cut out at these
places of the text as it stands.  So white space in front moves each part to the left, and a part
can come to begin or end inside a character.
-/

namespace ScriptHost

/-- Why a log filter cannot be read. -/
inductive LogFilterFault where
  | malformed
  /-- A part begins or ends inside a character. -/
  | splitCharacter
deriving DecidableEq, Repr

/-- A field that a directive asks for. -/
structure LogField where
  name : String
  /-- The pattern of its value. -/
  value : Option String := none
deriving DecidableEq, Repr

namespace LogField

/-- Whether a text is a decimal number without a sign. -/
def isDecimal (cs : List Char) : Bool :=
  let whole := cs.takeWhile Char.isDigit
  let rest := cs.drop whole.length
  let fraction :=
    match rest with
    | '.' :: rest => rest.takeWhile Char.isDigit
    | _ => []
  let rest :=
    match rest with
    | '.' :: rest => rest.drop fraction.length
    | _ => rest
  let exponent :=
    match rest with
    | [] => true
    | e :: '+' :: digits => (e = 'e' || e = 'E') && !digits.isEmpty && digits.all Char.isDigit
    | e :: '-' :: digits => (e = 'e' || e = 'E') && !digits.isEmpty && digits.all Char.isDigit
    | e :: digits => (e = 'e' || e = 'E') && !digits.isEmpty && digits.all Char.isDigit
  (!whole.isEmpty || !fraction.isEmpty) && exponent

/-- Whether a text is a number with a plus sign in front, which no pattern begins with. -/
def isPositive : List Char → Bool
  | '+' :: cs =>
    isDecimal cs
      || ["inf", "infinity", "nan"].contains (String.ofList (cs.map Char.toLower))
  | _ => false

/-- Reads a field: a name, and perhaps a value after an equals sign.  What follows a second equals
sign does not count. -/
def parse? (text : List Char) : Option LogField :=
  let name := text.takeWhile (· ≠ '=')
  match text.drop name.length with
  | [] => if name.isEmpty then none else some { name := String.ofList name }
  | _ :: rest =>
    let value := rest.takeWhile (· ≠ '=')
    if isPositive value || Pattern.isWellFormed value then
      some { name := String.ofList name, value := some (String.ofList value) }
    else none

end LogField

/-- A directive about the records of some targets. -/
structure LogDirective where
  /-- How the targets begin. -/
  target : String := ""
  /-- The span that the records must be in. -/
  span : Option String := none
  /-- A field that the records must have. -/
  field : Option LogField := none
  threshold : Threshold := .upTo .trace
deriving DecidableEq, Repr

namespace LogDirective

/-- Whether the directive speaks of the records of a target.  No record is in a span, every record
has a message and no other field, and values are looked at in spans only. -/
def speaksOf (directive : LogDirective) (target : String) : Bool :=
  directive.target.toList.isPrefixOf target.toList && directive.span = none
    && (directive.field = none || directive.field = some { name := "message" })

/-- Longer targets are more specific; between equal ones, a directive about a field is. -/
def specificity (directive : LogDirective) : Nat :=
  2 * directive.target.utf8ByteSize + (if directive.field.isSome then 1 else 0)

/-- Whether a character may begin a target. -/
def mayBegin (c : Char) : Bool :=
  c = '-' || c = ':' || c = '_' || Text.isAlphanumeric c

/-- Cuts out the part of a text between two places. -/
def part (text : List Char) (first last : Nat) : Except LogFilterFault (List Char) :=
  match Text.between? first last text with
  | some cs => .ok cs
  | none => .error .splitCharacter

def require {α : Type} (result : Option α) : Except LogFilterFault α :=
  match result with
  | some a => .ok a
  | none => .error .malformed

/-- Reads the threshold that begins at a place; without one, everything passes. -/
def readThreshold (text : List Char) (place : Nat) : Except LogFilterFault Threshold := do
  let written ← part text place (Text.byteLength text)
  if written.isEmpty then return .upTo .trace else require (Threshold.parse? written)

/-- Reads what follows the bracket after a span; `rest` begins at the place. -/
def readAfterSpan (directive : LogDirective) (text : List Char) (place : Nat) :
    List Char → Except LogFilterFault LogDirective
  | [] => .ok directive
  | '=' :: _ => do return { directive with threshold := ← readThreshold text (place + 1) }
  | _ => .error .malformed

/-- Reads a span, a field or both; `rest` begins at the place, behind the bracket before them. -/
def readSpan (directive : LogDirective) (text : List Char) (place : Nat) (rest : List Char) :
    Except LogFilterFault LogDirective := do
  let name := rest.takeWhile fun c => c ≠ ']' && c ≠ '\x7b'
  let nameEnd := place + Text.byteLength name
  match rest.drop name.length with
  | ']' :: rest =>
    let span ← part text place nameEnd
    readAfterSpan { directive with span := some (String.ofList span) } text (nameEnd + 1) rest
  | '\x7b' :: rest =>
    let span ← part text place nameEnd
    let inner := rest.takeWhile (· ≠ '\x7d')
    let innerEnd := nameEnd + 1 + Text.byteLength inner
    match rest.drop inner.length with
    | '\x7d' :: rest =>
      let field ← require (LogField.parse? (← part text (nameEnd + 1) innerEnd))
      let span := if span.isEmpty then none else some (String.ofList span)
      match rest with
      | ']' :: rest =>
        readAfterSpan { directive with span, field := some field } text (innerEnd + 2) rest
      | _ => .error .malformed
    | _ => .error .malformed
  | _ => .error .malformed

/-- Reads a directive. -/
def parse (text : List Char) : Except LogFilterFault LogDirective := do
  let inner := Text.trimmed text
  match inner with
  | [] => .error .malformed
  | '[' :: rest => readSpan {} text 1 rest
  | c :: _ =>
    if mayBegin c then
      let head := inner.takeWhile fun c => c ≠ '=' && c ≠ '['
      let headEnd := Text.byteLength head
      match inner.drop head.length with
      | [] =>
        match Threshold.parse? text with
        | some threshold => return { threshold }
        | none => return { target := String.ofList text }
      | '=' :: _ =>
        let target ← part text 0 headEnd
        let threshold ← readThreshold text (headEnd + 1)
        return { target := String.ofList target, threshold }
      | _ :: rest =>
        let target ← part text 0 headEnd
        readSpan { target := String.ofList target } text (headEnd + 1) rest
    else .error .malformed

end LogDirective

end ScriptHost
