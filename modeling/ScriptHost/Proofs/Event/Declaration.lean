import Mathlib.Data.List.Nodup
import ScriptHost.Proofs.Event.Gate

/-!
# Declarations of callbacks

A script compiles its callback against the declaration of a callback type, and marshaling checks
arguments against the parameters of the descriptor.  The declaration tells all of these: what is
returned ends at the first blank, the name at the parenthesis, each type at a blank and each
parameter at a comma.

* `ParameterType.declaration_injective`: no two types have the same text, though the texts of some
  begin with those of others.
* `Parameter.listDeclaration_inj`: lists of parameters have the same text only if they are the same.
* `EventDescriptor.callbackDeclaration_eq_iff`: descriptors with the same declaration agree in all
  that it is made from, so that what is marshaled for one passes for the other.
-/

namespace ScriptHost

/-! ## Marks in texts -/

section Marks

variable {α : Type} {mark : α}

/-- Equal texts are equal up to the first mark and after it. -/
theorem append_mark_inj {front back front' back' : List α} (h : mark ∉ front)
    (h' : mark ∉ front') :
    front ++ mark :: back = front' ++ mark :: back' ↔ front = front' ∧ back = back' := by
  constructor
  · intro heq
    induction front generalizing front' with
    | nil =>
      cases front' with
      | nil => exact ⟨rfl, (List.cons.inj heq).2⟩
      | cons first rest =>
        -- the longer front would begin with the mark
        rw [(List.cons.inj heq).1] at h'
        exact absurd List.mem_cons_self h'
    | cons first rest ih =>
      cases front' with
      | nil =>
        rw [← (List.cons.inj heq).1] at h
        exact absurd List.mem_cons_self h
      | cons first' rest' =>
        obtain ⟨rfl, hrest⟩ := List.cons.inj heq
        obtain ⟨rfl, rfl⟩ := ih (List.not_mem_of_not_mem_cons h)
          (List.not_mem_of_not_mem_cons h') hrest
        exact ⟨rfl, rfl⟩
  · rintro ⟨rfl, rfl⟩
    rfl

theorem intercalate_cons_ne_nil {between piece : List α} (h : piece ≠ [])
    (pieces : List (List α)) : between.intercalate (piece :: pieces) ≠ [] := by
  cases pieces with
  | nil => simpa using h
  | cons next pieces => simp [List.intercalate_cons_cons, h]

/-- A text with a mark in it is not a single piece without one. -/
theorem intercalate_cons_cons_ne {rest piece next single : List α} (h : mark ∉ single)
    (pieces : List (List α)) :
    (mark :: rest).intercalate (piece :: next :: pieces) ≠ single := by
  rintro rfl
  simp [List.intercalate_cons_cons] at h

/-- Pieces without a mark are told by what they make when the mark, and what goes with it, stands
between them. -/
theorem intercalate_mark_inj {rest : List α} {pieces pieces' : List (List α)}
    (h : ∀ piece ∈ pieces, piece ≠ [] ∧ mark ∉ piece)
    (h' : ∀ piece ∈ pieces', piece ≠ [] ∧ mark ∉ piece)
    (heq : (mark :: rest).intercalate pieces = (mark :: rest).intercalate pieces') :
    pieces = pieces' := by
  induction pieces generalizing pieces' with
  | nil =>
    cases pieces' with
    | nil => rfl
    | cons piece' tail' =>
      exact absurd heq.symm (intercalate_cons_ne_nil (h' piece' List.mem_cons_self).1 tail')
  | cons piece tail ih =>
    obtain ⟨⟨hpiece, hmark⟩, htail⟩ := List.forall_mem_cons.mp h
    cases pieces' with
    | nil => exact absurd heq (intercalate_cons_ne_nil hpiece tail)
    | cons piece' tail' =>
      obtain ⟨⟨-, hmark'⟩, htail'⟩ := List.forall_mem_cons.mp h'
      -- both texts go on after the first piece, or neither does
      cases tail with
      | nil =>
        rw [List.intercalate_singleton] at heq
        cases tail' with
        | nil => rw [heq, List.intercalate_singleton]
        | cons next' tail' => exact absurd heq.symm (intercalate_cons_cons_ne hmark tail')
      | cons next tail =>
        cases tail' with
        | nil =>
          rw [List.intercalate_singleton] at heq
          exact absurd heq (intercalate_cons_cons_ne hmark' tail)
        | cons next' tail' =>
          rw [List.intercalate_cons_cons, List.intercalate_cons_cons, List.append_assoc,
            List.append_assoc, List.cons_append, List.cons_append] at heq
          obtain ⟨rfl, hrest⟩ := (append_mark_inj hmark hmark').mp heq
          rw [ih htail htail' (List.append_cancel_left hrest)]

end Marks

/-! ## Types -/

namespace ParameterType

/-- Every type once. -/
def all : List ParameterType :=
  ScalarType.all.map scalar ++ string :: vector3 :: EntityKind.all.map entity
    ++ ArrayKind.all.map array

theorem mem_all (type : ParameterType) : type ∈ all := by
  cases type with
  | scalar type => cases type <;> decide
  | string => decide
  | vector3 => decide
  | entity kind => cases kind <;> decide
  | array kind => cases kind <;> decide

theorem declarations_nodup : (all.map (·.declaration)).Nodup := by decide

theorem declarations_unmarked :
    ∀ type ∈ all, ' ' ∉ type.declaration.toList ∧ ',' ∉ type.declaration.toList := by decide

theorem declaration_injective : Function.Injective declaration := by
  intro type other h
  exact List.inj_on_of_nodup_map declarations_nodup type.mem_all other.mem_all h

end ParameterType

/-! ## Parameters -/

namespace Parameter

theorem toList_declaration (parameter : Parameter) :
    parameter.declaration.toList
      = parameter.type.declaration.toList ++ ' ' :: parameter.name.toList := by
  simp [declaration]

/-- The first blank of a parameter is the one before its name, whatever the name is. -/
theorem declaration_inj {parameter other : Parameter}
    (h : parameter.declaration = other.declaration) : parameter = other := by
  have hblank := (ParameterType.declarations_unmarked _ parameter.type.mem_all).1
  have hblank' := (ParameterType.declarations_unmarked _ other.type.mem_all).1
  have htext := congrArg String.toList h
  rw [toList_declaration, toList_declaration] at htext
  obtain ⟨htype, hname⟩ := (append_mark_inj hblank hblank').mp htext
  rcases parameter with ⟨type, name⟩
  rcases other with ⟨type', name'⟩
  obtain rfl : type = type' := ParameterType.declaration_injective (String.toList_inj.mp htype)
  obtain rfl : name = name' := String.toList_inj.mp hname
  rfl

theorem declaration_unmarked {parameter : Parameter} (h : ',' ∉ parameter.name.toList) :
    parameter.declaration.toList ≠ [] ∧ ',' ∉ parameter.declaration.toList := by
  have htype := (ParameterType.declarations_unmarked _ parameter.type.mem_all).2
  rw [toList_declaration]
  simp [htype, h]

theorem toList_listDeclaration (parameters : List Parameter) :
    (listDeclaration parameters).toList
      = [',', ' '].intercalate (parameters.map (·.declaration.toList)) := by
  rw [listDeclaration, String.toList_intercalate, List.map_map]
  rfl

/-- A list of parameters is told by its declaration if no name has a comma. -/
theorem listDeclaration_inj {parameters others : List Parameter}
    (h : ∀ p ∈ parameters, ',' ∉ p.name.toList) (h' : ∀ p ∈ others, ',' ∉ p.name.toList)
    (heq : listDeclaration parameters = listDeclaration others) : parameters = others := by
  have htext := congrArg String.toList heq
  rw [toList_listDeclaration, toList_listDeclaration] at htext
  have hpieces : parameters.map (·.declaration.toList) = others.map (·.declaration.toList) := by
    refine intercalate_mark_inj ?_ ?_ htext
    · exact List.forall_mem_map.mpr fun p hp => declaration_unmarked (h p hp)
    · exact List.forall_mem_map.mpr fun p hp => declaration_unmarked (h' p hp)
  refine List.map_injective_iff.mpr ?_ hpieces
  intro parameter other hsame
  exact declaration_inj (String.toList_inj.mp hsame)

/-- A name with a comma can pass for two parameters. -/
example : listDeclaration [⟨.scalar .int32, "a, int b"⟩]
    = listDeclaration [⟨.scalar .int32, "a"⟩, ⟨.scalar .int32, "b"⟩] := by decide

end Parameter

/-! ## Callback types -/

namespace EventType

theorem mem_all (type : EventType) : type ∈ all := by
  cases type <;> decide

theorem names_nodup : (all.map name).Nodup := by decide

theorem names_unmarked : ∀ type ∈ all, '(' ∉ type.name.toList := by decide

theorem name_injective : Function.Injective name := by
  intro type other h
  exact List.inj_on_of_nodup_map names_nodup type.mem_all other.mem_all h

end EventType

namespace EventDescriptor

/-- What stands before the name of a callback type. -/
def returnText : Option ReturnType → String
  | some type => type.declaration
  | none => "void"

theorem returnText_unmarked (returns : Option ReturnType) :
    ' ' ∉ (returnText returns).toList := by
  rcases returns with _ | ⟨⟨⟩⟩ <;> decide

theorem returnText_injective : Function.Injective returnText := by
  rintro (_ | ⟨⟨⟩⟩) (_ | ⟨⟨⟩⟩) h
  · rfl
  · exact absurd h (by decide)
  · exact absurd h (by decide)
  · rfl

theorem toList_callbackDeclaration (d : EventDescriptor) :
    d.callbackDeclaration.toList = (returnText d.returns).toList ++ ' ' ::
      ((d.type.name.toList ++ "Callback".toList) ++ '(' ::
        ((Parameter.listDeclaration d.parameters).toList ++ [')'])) := by
  cases hreturns : d.returns <;>
    simp [callbackDeclaration, callbackName, returnText, hreturns]

variable {d e : EventDescriptor}

theorem callbackName_unmarked (d : EventDescriptor) :
    '(' ∉ d.type.name.toList ++ "Callback".toList := by
  have hname := EventType.names_unmarked _ d.type.mem_all
  have hsuffix : '(' ∉ "Callback".toList := by decide
  rw [List.mem_append, not_or]
  exact ⟨hname, hsuffix⟩

/-- The declaration is taken apart from the left. -/
theorem signature_eq_of_declaration (hd : ∀ p ∈ d.parameters, ',' ∉ p.name.toList)
    (he : ∀ p ∈ e.parameters, ',' ∉ p.name.toList)
    (h : d.callbackDeclaration = e.callbackDeclaration) :
    d.type = e.type ∧ d.returns = e.returns ∧ d.parameters = e.parameters := by
  have htext := congrArg String.toList h
  rw [toList_callbackDeclaration, toList_callbackDeclaration] at htext
  obtain ⟨hreturned, hafterReturn⟩ :=
    (append_mark_inj (returnText_unmarked _) (returnText_unmarked _)).mp htext
  obtain ⟨hcallback, hafterName⟩ :=
    (append_mark_inj d.callbackName_unmarked e.callbackName_unmarked).mp hafterReturn
  have hname : d.type.name = e.type.name :=
    String.toList_inj.mp (List.append_cancel_right hcallback)
  -- a parenthesis within a name does no harm, as the one that closes the list is the last
  have hlist : Parameter.listDeclaration d.parameters = Parameter.listDeclaration e.parameters :=
    String.toList_inj.mp (List.append_cancel_right hafterName)
  exact ⟨EventType.name_injective hname, returnText_injective (String.toList_inj.mp hreturned),
    Parameter.listDeclaration_inj hd he hlist⟩

/-- What marshaling lets through passes for the parameters. -/
theorem passes_of_marshal {σ : Type} {interpreter : Interpreter σ} {event : HostEvent}
    {types : ArrayTypes} {m : Machine σ} {args : List Argument}
    (h : (d.marshal interpreter event types m).1 = .ok args) :
    List.Forall₂ Passes args d.parameters := by
  have hverdict := checkArguments_verdict d.type d.parameters
    ((d.marshaling event).run interpreter types m).1
  have hchecked : checkArguments d.type d.parameters
      ((d.marshaling event).run interpreter types m).1 = .ok args := h
  rw [hchecked] at hverdict
  cases hverdict with
  | passed hpassed => exact hpassed

/-- Two descriptors have the same declaration exactly if they are for the same category and have the
same return type and the same parameters, with their types and names and in their order.  So
arguments that are marshaled for the one pass for a callback that is compiled against the
declaration of the other.  Of the names it matters only that they are without commas, as identifiers
are. -/
theorem callbackDeclaration_eq_iff (hd : ∀ p ∈ d.parameters, ',' ∉ p.name.toList)
    (he : ∀ p ∈ e.parameters, ',' ∉ p.name.toList) :
    (d.callbackDeclaration = e.callbackDeclaration ↔
      d.type = e.type ∧ d.returns = e.returns ∧ d.parameters = e.parameters) ∧
    (d.callbackDeclaration = e.callbackDeclaration →
      ∀ {σ : Type} (interpreter : Interpreter σ) event types m args,
        (d.marshal interpreter event types m).1 = .ok args →
          List.Forall₂ Passes args e.parameters) := by
  refine ⟨⟨signature_eq_of_declaration hd he, ?_⟩, ?_⟩
  · rintro ⟨htype, hreturns, hparameters⟩
    rw [callbackDeclaration, callbackDeclaration, callbackName, callbackName, htype, hreturns,
      hparameters]
  · intro h σ interpreter event types m args hmarshal
    obtain ⟨-, -, hparameters⟩ := signature_eq_of_declaration hd he h
    rw [← hparameters]
    exact passes_of_marshal hmarshal

end EventDescriptor

namespace Sample

/-- A descriptor with a parameter type whose text begins with that of another. -/
def seatChange : EventDescriptor :=
  { type := .playerChangeVehicleSeat, returns := some .bool,
    parameters := [⟨.entity .player, "player"⟩, ⟨.scalar .int8, "seat"⟩],
    marshaling := fun _ => .done [.object .null, .scalar (.int8 3)] }

/-- The same with that other type. -/
def wideSeatChange : EventDescriptor :=
  { seatChange with parameters := [⟨.entity .player, "player"⟩, ⟨.scalar .int32, "seat"⟩] }

/-- The same declaration with a marshaling of its own. -/
def silentSeatChange : EventDescriptor :=
  { seatChange with marshaling := fun _ => .done [] }

/-- A seat of another width makes another declaration.  With the same declaration, what is marshaled
for one descriptor passes for the other. -/
theorem callbackDeclaration_seatChange :
    (⟨.scalar .int8, "seat"⟩ : Parameter) ∈ seatChange.parameters ∧
      (∀ p ∈ seatChange.parameters, ',' ∉ p.name.toList) ∧
      (∀ p ∈ wideSeatChange.parameters, ',' ∉ p.name.toList) ∧
      seatChange.callbackDeclaration ≠ wideSeatChange.callbackDeclaration ∧
      seatChange.callbackDeclaration
        = "bool PlayerChangeVehicleSeatCallback(IPlayer@ player, int8 seat)" ∧
      List.Forall₂ Passes [.object .null, .scalar (.int8 3)] silentSeatChange.parameters := by
  have hnames : ∀ p ∈ seatChange.parameters, ',' ∉ p.name.toList := by decide
  have hwide : ∀ p ∈ wideSeatChange.parameters, ',' ∉ p.name.toList := by decide
  obtain ⟨hsame, -⟩ := EventDescriptor.callbackDeclaration_eq_iff hnames hwide
  obtain ⟨-, hpasses⟩ := @EventDescriptor.callbackDeclaration_eq_iff seatChange silentSeatChange
    hnames hnames
  refine ⟨by decide, hnames, hwide, ?_, by decide, ?_⟩
  · intro heq
    exact absurd (hsame.mp heq).2.2 (by decide)
  · exact hpasses rfl Sample.interpreter .tick {} machine _ rfl

end Sample

end ScriptHost
