import ScriptHost.Proofs.Event.Payload
import ScriptHost.Proofs.Resource.CustomEvents

/-!
# Marshaling is exact

The builtin descriptors read each payload field by field, and the parameters are declared field by
field as well, apart from each other.  `Builtin.marshal_exact` says that they agree:

* marshaling gives arguments exactly if every entity has the kind that its parameter asks for;
* the arguments are the fields, one for each parameter and in that order (`Sent`);
* no two events of a category have the same arguments, as long as arrays can be made.
-/

namespace ScriptHost

variable {σ : Type} {interpreter : Interpreter σ}

/-! ## Fields as arguments -/

/-- A field is the argument that is handed to a script, if marshaling goes from the machine `m` to
`m'`. -/
inductive Sent (interpreter : Interpreter σ) (types : ArrayTypes) (m m' : Machine σ) :
    PayloadField → Argument → Prop where
  | entity (entity : Entity) :
      Sent interpreter types m m' (.entity entity) (.object (.entity entity))
  | noEntity : Sent interpreter types m m' (.entity none) (.object .null)
  | text (text : String) : Sent interpreter types m m' (.text text) (.object (.string text))
  | vector (vector : Vector3) :
      Sent interpreter types m m' (.vector vector) (.object (.vector3 vector))
  | scalar (value : Scalar) : Sent interpreter types m m' (.scalar value) (.scalar value)
  | array {texts : List String} {type : ArrayTypeHandle} {object : ScriptObject}
      (resolved : types.string = some type)
      (made : interpreter.createArray m.engine type (texts.map .string)
        = (.ok (.script object), m'.engine)) :
      Sent interpreter types m m' (.texts texts) (.object (.script object))
  | unresolved {texts : List String} (h : types.string = none) :
      Sent interpreter types m m' (.texts texts) (.object .null)
  | failed {texts : List String} {type : ArrayTypeHandle} {cause : EngineError}
      (resolved : types.string = some type)
      (notMade : interpreter.createArray m.engine type (texts.map .string)
        = (.error cause, m'.engine)) :
      Sent interpreter types m m' (.texts texts) (.object .null)

namespace Sent

variable {types : ArrayTypes} {m m' : Machine σ}

theorem optionalEntity (entity : Option Entity) :
    Sent interpreter types m m' (.entity entity) (Builtin.optionalEntityArg entity) := by
  cases entity with
  | none => exact noEntity
  | some entity => exact .entity entity

/-- Texts are handed over as the array made of them, or as null. -/
theorem create (harrays : ∀ type, types.string = some type → interpreter.MakesArrays type)
    (texts : List String) (m : Machine σ) :
    Sent interpreter types m (types.create interpreter .string (texts.map .string) m).2
      (.texts texts) (.object (types.create interpreter .string (texts.map .string) m).1) := by
  unfold ArrayTypes.create
  cases htype : types.string with
  | none =>
    simp only [ArrayTypes.get?, htype]
    exact unresolved htype
  | some type =>
    simp only [ArrayTypes.get?, htype]
    rcases hmade : interpreter.createArray m.engine type (texts.map .string)
      with ⟨cause | array, engine⟩
    · exact failed htype hmade
    · obtain ⟨object, rfl⟩ := harrays type htype _ _ _ (congrArg Prod.fst hmade)
      exact array htype hmade

/-- Only an entity can be handed over to a parameter of its type that it does not fit. -/
theorem fits_of_ne_entity {field : PayloadField} {argument : Argument} {type : ParameterType}
    (h : Sent interpreter types m m' field argument) (hsuits : Builtin.Suits field type)
    (hfield : ∀ entity, field ≠ .entity (some entity)) : argument.fits type = true := by
  cases h with
  | entity entity => exact absurd rfl (hfield entity)
  | scalar value =>
    cases type with
    | scalar type =>
      obtain rfl : type = value.type := hsuits
      simp [Argument.fits]
    | _ => cases hsuits
  | _ =>
    cases type with
    | string | vector3 | entity | array => first | rfl | cases hsuits
    | scalar => cases hsuits

/-- What a field is handed over as fits a parameter of its type, up to the kind of an entity. -/
theorem fits_iff {field : PayloadField} {argument : Argument} {type : ParameterType}
    (h : Sent interpreter types m m' field argument) (hsuits : Builtin.Suits field type) :
    argument.fits type = true ↔ Builtin.KindFits field type := by
  by_cases hfield : ∃ entity, field = .entity (some entity)
  · obtain ⟨entity, rfl⟩ := hfield
    cases h
    cases type with
    | entity kind =>
      have hfits : (Argument.object (.entity entity)).fits (.entity kind) = true
          ↔ kind = .object ∨ entity.kind = kind := by
        simp [Argument.fits, ObjectRef.fits]
      rw [hfits]
      constructor
      · rintro (rfl | hkind) other kind' hother htype hnarrow
        · cases htype
          simp [Builtin.narrowKinds] at hnarrow
        · cases htype
          cases hother
          exact hkind
      · intro hkind
        exact hsuits.imp_right fun hnarrow => hkind entity kind rfl rfl hnarrow
    | _ => cases hsuits
  · have hnone : ∀ entity, field ≠ .entity (some entity) := fun entity e => hfield ⟨entity, e⟩
    refine iff_of_true (h.fits_of_ne_entity hsuits hnone) ?_
    intro entity kind e
    exact absurd e (hnone entity)

end Sent

/-! ## Marshaling -/

/-- An interpreter whose arrays of a type can be made of any texts, and read again. -/
def Interpreter.KeepsTexts (interpreter : Interpreter σ) (read : σ → ScriptObject → List Value)
    (type : ArrayTypeHandle) : Prop :=
  ∀ engine (texts : List String), ∃ object engine',
    interpreter.createArray engine type (texts.map .string) = (.ok (.script object), engine') ∧
      read engine' object = texts.map .string

/-- Arguments that a script cannot tell apart: two arrays with the same items, or the same. -/
def ReadAlike (read read' : ScriptObject → List Value) : Argument → Argument → Prop
  | .object (.script object), .object (.script other) => read object = read' other
  | argument, other => argument = other

/-- The field that a script reads off an argument. -/
def Argument.readBack (read : ScriptObject → List Value) : Argument → PayloadField
  | .scalar value => .scalar value
  | .object .null => .entity none
  | .object (.string text) => .text text
  | .object (.entity entity) => .entity entity
  | .object (.vector3 vector) => .vector vector
  | .object (.script array) => .texts ((read array).filterMap Value.asString?)

theorem ReadAlike.readBack_eq {read read' : ScriptObject → List Value}
    {argument other : Argument} (h : ReadAlike read read' argument other) :
    argument.readBack read = other.readBack read' := by
  unfold ReadAlike at h
  split at h
  · exact congrArg (fun items => PayloadField.texts (items.filterMap Value.asString?)) h
  · next hscripts =>
    rw [← h] at hscripts ⊢
    match argument with
    | .object (.script object) => exact absurd rfl (hscripts object object rfl)
    | .scalar _ | .object .null | .object (.string _) | .object (.entity _)
    | .object (.vector3 _) => rfl

/-- If arrays can be made, a script reads off the field that was sent. -/
theorem Sent.readBack_eq {read : σ → ScriptObject → List Value} {types : ArrayTypes}
    {type : ArrayTypeHandle} (htype : types.string = some type)
    (hkeeps : interpreter.KeepsTexts read type) {m m' : Machine σ} {field : PayloadField}
    {argument : Argument} (h : Sent interpreter types m m' field argument) :
    argument.readBack (read m'.engine) = field := by
  cases h with
  | entity | noEntity | text | vector | scalar => rfl
  | unresolved hnone =>
    rw [hnone] at htype
    cases htype
  | array hsome hmade =>
    obtain rfl := Option.some.inj (htype.symm.trans hsome)
    obtain ⟨object, engine', hkept, hread⟩ := hkeeps m.engine _
    rw [hkept] at hmade
    obtain ⟨hobject, rfl⟩ := Prod.mk.inj hmade
    cases hobject
    have htexts (texts : List String) :
        (texts.map Value.string).filterMap Value.asString? = texts := by
      simp [Function.comp_def, Value.asString?]
    rw [Argument.readBack, hread, htexts]
  | failed hsome hfailed =>
    obtain rfl := Option.some.inj (htype.symm.trans hsome)
    obtain ⟨object, engine', hkept, -⟩ := hkeeps m.engine _
    cases hfailed.symm.trans hkept

theorem Sent.map_readBack_eq {read : σ → ScriptObject → List Value} {types : ArrayTypes}
    {type : ArrayTypeHandle} (htype : types.string = some type)
    (hkeeps : interpreter.KeepsTexts read type) {m m' : Machine σ}
    {fields : List (String × PayloadField)} {args : List Argument}
    (h : List.Forall₂ (fun field => Sent interpreter types m m' field.2) fields args) :
    args.map (Argument.readBack (read m'.engine)) = fields.map (·.2) := by
  induction h with
  | nil => rfl
  | cons hfirst _ ih => rw [List.map_cons, List.map_cons, hfirst.readBack_eq htype hkeeps, ih]

theorem ReadAlike.map_readBack_eq {read read' : ScriptObject → List Value}
    {args args' : List Argument} (h : List.Forall₂ (ReadAlike read read') args args') :
    args.map (Argument.readBack read) = args'.map (Argument.readBack read') := by
  induction h with
  | nil => rfl
  | cons hfirst _ ih => rw [List.map_cons, List.map_cons, hfirst.readBack_eq, ih]

namespace Builtin

variable {types : ArrayTypes}

theorem lookup?_registry (type : EventType) : registry.lookup? type = descriptor? type := by
  cases type <;> rfl

theorem payload_sent (harrays : ∀ type, types.string = some type → interpreter.MakesArrays type)
    {event : HostEvent} {parameters : List Parameter}
    (h : parameters? event.type = some parameters) (m : Machine σ) :
    List.Forall₂
      (fun field => Sent interpreter types m ((payloadMarshaling event).run interpreter types m).2
        field.2)
      event.fields ((payloadMarshaling event).run interpreter types m).1 := by
  cases event with
  | playerConnect player => exact .cons (.entity _) .nil
  | playerDisconnect player reason => exact .cons (.entity _) (.cons (.text _) .nil)
  | playerDamage victim attacker healthDamage armourDamage weapon =>
    exact .cons (.entity _) (.cons (.optionalEntity _)
      (.cons (.scalar _) (.cons (.scalar _) (.cons (.scalar _) .nil))))
  | playerDeath victim killer weapon =>
    exact .cons (.entity _) (.cons (.optionalEntity _) (.cons (.scalar _) .nil))
  | playerEnterVehicle player vehicle seat | playerLeaveVehicle player vehicle seat =>
    exact .cons (.entity _) (.cons (.entity _) (.cons (.scalar _) .nil))
  | playerChangeVehicleSeat player vehicle oldSeat newSeat =>
    exact .cons (.entity _) (.cons (.entity _) (.cons (.scalar _) (.cons (.scalar _) .nil)))
  | consoleCommand name args => exact .cons (.text _) (.cons (.create harrays args m) .nil)
  | colshapeEvent colshape entity entered =>
    exact .cons (.entity _) (.cons (.entity _) (.cons (.scalar _) .nil))
  | weaponDamage source target weapon damage offset bodyPart =>
    exact .cons (.entity _) (.cons (.entity _) (.cons (.scalar _)
      (.cons (.scalar _) (.cons (.vector _) (.cons (.scalar _) .nil)))))
  | explosion source explosionType position fx target =>
    exact .cons (.entity _) (.cons (.scalar _) (.cons (.vector _)
      (.cons (.scalar _) (.cons (.optionalEntity _) .nil))))
  | removeEntity entity => exact .cons (.entity _) .nil
  | resourceStart resource | resourceStop resource => exact .cons (.text _) .nil
  | localScriptEvent | remoteScriptEvent | tick => cases h

theorem parameters?_of_lookup? {type : EventType} {descriptor : EventDescriptor}
    (hlookup : registry.lookup? type = some descriptor) :
    parameters? type = some descriptor.parameters := by
  rw [lookup?_registry, descriptor?] at hlookup
  obtain ⟨parameters, hparameters, rfl⟩ := Option.map_eq_some_iff.mp hlookup
  exact hparameters

/-- The builtin descriptor of an event's category checks what the payload is marshaled into. -/
theorem marshal_eq {event : HostEvent} {descriptor : EventDescriptor}
    (hlookup : registry.lookup? event.type = some descriptor) (m : Machine σ) :
    descriptor.marshal interpreter event types m
      = (checkArguments descriptor.type descriptor.parameters
          ((payloadMarshaling event).run interpreter types m).1,
        ((payloadMarshaling event).run interpreter types m).2) := by
  rw [lookup?_registry, descriptor?] at hlookup
  obtain ⟨parameters, -, rfl⟩ := Option.map_eq_some_iff.mp hlookup
  have hfamily : event.type ∈ family event.type := by
    cases event.type <;> decide
  simp only [EventDescriptor.marshal, marshalingFor, if_pos hfamily]

/-- What the check lets pass is what it was given. -/
theorem eq_of_checkArguments {type : EventType} {parameters : List Parameter}
    {args passed : List Argument} (h : checkArguments type parameters args = .ok passed) :
    passed = args := by
  unfold checkArguments at h
  split at h
  · cases h
  · split at h
    · cases h
    · exact (Except.ok.inj h).symm

theorem argumentsFit_iff {fields : List (String × PayloadField)} {args : List Argument}
    {parameters : List Parameter} {m m' : Machine σ}
    (hsent : List.Forall₂ (fun field => Sent interpreter types m m' field.2) fields args)
    (hdeclared : List.Forall₂ Declares fields parameters) :
    ArgumentsFit args parameters
      ↔ ∀ field parameter, (field, parameter) ∈ fields.zip parameters →
          KindFits field.2 parameter.type := by
  induction hsent generalizing parameters with
  | nil =>
    cases hdeclared
    exact iff_of_true .nil (by simp)
  | cons hfirst hrest ih =>
    cases hdeclared with
    | cons hdeclares hdeclared =>
      rw [ArgumentsFit, List.forall₂_cons, ← ArgumentsFit, ih hdeclared,
        hfirst.fits_iff hdeclares.suits]
      simp [or_imp, forall_and]

/-- Arguments that fit are passed on, with the machine that the array of command arguments left. -/
theorem marshal_eq_ok_iff {event : HostEvent} {descriptor : EventDescriptor}
    (hlookup : registry.lookup? event.type = some descriptor) {m m' : Machine σ}
    {args : List Argument} :
    descriptor.marshal interpreter event types m = (.ok args, m')
      ↔ (payloadMarshaling event).run interpreter types m = (args, m') ∧
        ArgumentsFit args descriptor.parameters := by
  rw [marshal_eq hlookup m, Prod.mk.injEq, ← checkArguments_eq_ok_iff]
  constructor
  · rintro ⟨hchecked, hm'⟩
    have hargs := eq_of_checkArguments hchecked
    refine ⟨Prod.ext hargs.symm hm', ?_⟩
    rwa [← hargs] at hchecked
  · rintro ⟨hrun, hchecked⟩
    rw [hrun]
    exact ⟨hchecked, rfl⟩

theorem marshals_iff {event : HostEvent} {descriptor : EventDescriptor}
    (hlookup : registry.lookup? event.type = some descriptor) (m : Machine σ) :
    (∃ args, (descriptor.marshal interpreter event types m).1 = .ok args)
      ↔ ArgumentsFit ((payloadMarshaling event).run interpreter types m).1
          descriptor.parameters := by
  constructor
  · rintro ⟨args, hargs⟩
    obtain ⟨hrun, hfit⟩ := (marshal_eq_ok_iff hlookup).mp (Prod.ext hargs rfl)
    rwa [hrun]
  · intro hfit
    have hargs := (marshal_eq_ok_iff hlookup).mpr ⟨rfl, hfit⟩
    exact ⟨_, congrArg Prod.fst hargs⟩

theorem fields_sent (harrays : ∀ type, types.string = some type → interpreter.MakesArrays type)
    {event : HostEvent} {descriptor : EventDescriptor}
    (hlookup : registry.lookup? event.type = some descriptor) {m m' : Machine σ}
    {args : List Argument} (h : descriptor.marshal interpreter event types m = (.ok args, m')) :
    List.Forall₂ (fun field => Sent interpreter types m m' field.2) event.fields args := by
  obtain ⟨hrun, -⟩ := (marshal_eq_ok_iff hlookup).mp h
  have hsent := payload_sent harrays (parameters?_of_lookup? hlookup) m
  rwa [hrun] at hsent

/-- The payload of an event whose category has a builtin descriptor is marshaled exactly.  Its
fields are declared as the parameters, in their order.  Marshaling gives arguments if and only if
every entity has the kind that its parameter asks for; they are the fields then, each in its place,
and fit the parameters.  If arrays of strings can be made and read, then events of one category
whose arguments read alike are the same. -/
theorem marshal_exact {event : HostEvent} {descriptor : EventDescriptor}
    (hlookup : registry.lookup? event.type = some descriptor)
    (harrays : ∀ type, types.string = some type → interpreter.MakesArrays type) :
    List.Forall₂ Declares event.fields descriptor.parameters ∧
    (∀ m,
      (∃ args, (descriptor.marshal interpreter event types m).1 = .ok args)
        ↔ ∀ field parameter, (field, parameter) ∈ event.fields.zip descriptor.parameters →
            KindFits field.2 parameter.type) ∧
    (∀ m m' args, descriptor.marshal interpreter event types m = (.ok args, m') →
      List.Forall₂ (fun field => Sent interpreter types m m' field.2) event.fields args ∧
        ArgumentsFit args descriptor.parameters) ∧
    ∀ read type, types.string = some type → interpreter.KeepsTexts read type →
      ∀ other, other.type = event.type → ∀ m₁ m₁' m₂ m₂' args args',
        descriptor.marshal interpreter event types m₁ = (.ok args, m₁') →
        descriptor.marshal interpreter other types m₂ = (.ok args', m₂') →
        List.Forall₂ (ReadAlike (read m₁'.engine) (read m₂'.engine)) args args' →
        event = other := by
  have hparameters := parameters?_of_lookup? hlookup
  have hdeclared := fields_declared hparameters
  refine ⟨hdeclared, ?_, ?_, ?_⟩
  · intro m
    rw [marshals_iff hlookup, argumentsFit_iff (payload_sent harrays hparameters m) hdeclared]
  · intro m m' args hargs
    exact ⟨fields_sent harrays hlookup hargs, ((marshal_eq_ok_iff hlookup).mp hargs).2⟩
  · intro read type htype hkeeps other hother m₁ m₁' m₂ m₂' args args' hargs hargs' halike
    have hfields := Sent.map_readBack_eq htype hkeeps (fields_sent harrays hlookup hargs)
    rw [← hother] at hlookup
    have hfields' := Sent.map_readBack_eq htype hkeeps (fields_sent harrays hlookup hargs')
    have hread := ReadAlike.map_readBack_eq halike
    rw [hfields, hfields'] at hread
    exact HostEvent.eq_of_fields_eq hother hread

/-- A command is handed over with its arguments, and no other command is handed over alike. -/
theorem marshal_exact_command :
    let types : ArrayTypes := { string := some ⟨"array<string>"⟩ }
    let items : Unit → ScriptObject → List Value := fun _ object =>
      match object with
      | .array _ items => items
      | .opaqueObject _ => []
    let give : HostEvent := .consoleCommand "give" ["rifle", "20"]
    ∃ descriptor, registry.lookup? give.type = some descriptor ∧
      ∀ m : Machine Unit, ∃ args m',
        descriptor.marshal Sample.waving give types m = (.ok args, m') ∧
        List.Forall₂ (fun field => Sent Sample.waving types m m' field.2) give.fields args ∧
        ∀ name texts n n' args',
          descriptor.marshal Sample.waving (.consoleCommand name texts) types n = (.ok args', n') →
          List.Forall₂ (ReadAlike (items m'.engine) (items n'.engine)) args args' →
          give = .consoleCommand name texts := by
  intro types items give
  obtain ⟨descriptor, hlookup⟩ : ∃ descriptor, registry.lookup? give.type = some descriptor :=
    ⟨_, rfl⟩
  have hkeeps : Sample.waving.KeepsTexts items ⟨"array<string>"⟩ := fun engine texts =>
    ⟨.array "array<string>" (texts.map .string), engine, rfl, rfl⟩
  obtain ⟨-, hmarshals, hsent, hinjective⟩ :=
    @marshal_exact Unit Sample.waving types give descriptor hlookup
      fun type _ => Sample.waving_makesArrays type
  refine ⟨descriptor, hlookup, fun m => ?_⟩
  have hkinds : ∀ field parameter, (field, parameter) ∈ give.fields.zip descriptor.parameters →
      KindFits field.2 parameter.type := by
    intro field parameter hmem entity kind hentity
    have hfield : field ∈ give.fields := (List.of_mem_zip hmem).1
    simp only [give, HostEvent.fields, List.mem_cons, List.not_mem_nil, or_false] at hfield
    rcases hfield with rfl | rfl <;> cases hentity
  obtain ⟨args, hargs⟩ := (hmarshals m).mpr hkinds
  refine ⟨args, _, Prod.ext hargs rfl, (hsent m _ args (Prod.ext hargs rfl)).1, ?_⟩
  intro name texts n n' args' hargs' halike
  exact hinjective items _ rfl hkeeps _ rfl m _ n n' args args' (Prod.ext hargs rfl) hargs' halike

end Builtin

end ScriptHost
