import Mathlib.Data.Finset.Card
import Mathlib.Data.List.Sort
import ScriptHost.Event.Registry

/-!
# Registries as tables

Descriptors are registered one at a time, and a call that is rejected changes nothing
(`EventRegistry.registerAll`).  Whatever the calls were, the registry is the table of the first
descriptor of each category (`EventRegistry.Table`).  A table is determined by what it holds, so the
order of the calls shows in it only where two of them name one category.
-/

namespace ScriptHost

/-! ## Descriptors by number -/

theorem EventType.discriminant_injective : Function.Injective EventType.discriminant := by
  intro type other h
  cases type <;> cases other <;> first | rfl | exact absurd h (by decide)

namespace EventDescriptor

/-- The descriptor has the lesser number. -/
def Precedes (descriptor other : EventDescriptor) : Prop :=
  descriptor.type.discriminant < other.type.discriminant

instance (descriptor other : EventDescriptor) : Decidable (descriptor.Precedes other) :=
  inferInstanceAs (Decidable (_ < _))

variable {d e f : EventDescriptor}

theorem Precedes.trans (h : d.Precedes e) (h' : e.Precedes f) : d.Precedes f :=
  UInt16.lt_trans h h'

theorem Precedes.type_ne (h : d.Precedes e) : d.type ≠ e.type := by
  intro htype
  rw [Precedes, htype] at h
  exact UInt16.lt_irrefl _ h

instance : Std.Irrefl Precedes :=
  ⟨fun _ h => h.type_ne rfl⟩

instance : Std.Antisymm Precedes :=
  ⟨fun _ _ h h' => absurd rfl (h.trans h').type_ne⟩

/-- Of two descriptors of different categories, one has the lesser number. -/
theorem precedes_or_precedes (h : d.type ≠ e.type) : d.Precedes e ∨ e.Precedes d := by
  rcases UInt16.lt_or_lt_of_ne fun hnumber => h (EventType.discriminant_injective hnumber)
    with h | h
  · exact .inl h
  · exact .inr h

/-- The comparison by number, as a sort of descriptors asks for it. -/
def byNumber (descriptor other : EventDescriptor) : Bool :=
  descriptor.type.discriminant ≤ other.type.discriminant

theorem byNumber_trans (d e f : EventDescriptor) (h : d.byNumber e) (h' : e.byNumber f) :
    d.byNumber f := by
  simp only [byNumber, decide_eq_true_eq] at h h' ⊢
  exact UInt16.le_trans h h'

theorem byNumber_total (d e : EventDescriptor) : d.byNumber e || e.byNumber d := by
  simpa [byNumber] using UInt16.le_total _ _

end EventDescriptor

namespace EventRegistry

/-! ## What one insertion does -/

theorem mem_insertByNumber {d descriptor : EventDescriptor} {descriptors : List EventDescriptor} :
    d ∈ insertByNumber descriptor descriptors ↔ d = descriptor ∨ d ∈ descriptors := by
  induction descriptors with
  | nil => simp [insertByNumber]
  | cons first rest ih =>
    rw [insertByNumber]
    split
    · exact List.mem_cons
    · rw [List.mem_cons, ih, List.mem_cons]
      exact or_left_comm

/-- A descriptor of a new category takes its place between the others. -/
theorem ascending_insertByNumber {descriptor : EventDescriptor} {descriptors : List EventDescriptor}
    (h : descriptors.Pairwise EventDescriptor.Precedes) (hnew : ∀ d ∈ descriptors, d.type ≠ descriptor.type) :
    (insertByNumber descriptor descriptors).Pairwise EventDescriptor.Precedes := by
  induction descriptors with
  | nil => exact List.pairwise_singleton _ _
  | cons first rest ih =>
    obtain ⟨hfirst, hrest⟩ := List.pairwise_cons.mp h
    rw [insertByNumber]
    split
    · next hless =>
      refine List.pairwise_cons.mpr ⟨fun d hd => ?_, h⟩
      rcases List.mem_cons.mp hd with rfl | hd
      · exact hless
      · exact EventDescriptor.Precedes.trans hless (hfirst d hd)
    · next hless =>
      have hgreater : first.Precedes descriptor :=
        (EventDescriptor.precedes_or_precedes (hnew first List.mem_cons_self)).resolve_right hless
      refine List.pairwise_cons.mpr
        ⟨fun d hd => ?_, ih hrest fun d hd => hnew d (List.mem_cons_of_mem _ hd)⟩
      rcases mem_insertByNumber.mp hd with rfl | hd
      · exact hgreater
      · exact hfirst d hd

/-! ## Calls -/

/-- The first of the calls that registers a descriptor of the category. -/
def firstOf? (calls : List EventDescriptor) (type : EventType) : Option EventDescriptor :=
  calls.find? fun d => d.type = type

theorem type_of_firstOf? {calls : List EventDescriptor} {type : EventType} {d : EventDescriptor}
    (h : firstOf? calls type = some d) : d.type = type := by
  simpa using List.find?_some h

theorem firstOf?_eq_none_iff {calls : List EventDescriptor} {type : EventType} :
    firstOf? calls type = none ↔ ∀ c ∈ calls, c.type ≠ type := by
  simp [firstOf?]

theorem firstOf?_concat (calls : List EventDescriptor) (descriptor : EventDescriptor)
    (type : EventType) :
    firstOf? (calls ++ [descriptor]) type
      = (firstOf? calls type).or (if descriptor.type = type then some descriptor else none) := by
  by_cases h : descriptor.type = type <;> simp [firstOf?, List.find?_append, h]

/-- Where no category occurs twice, every call is the first of its category. -/
theorem firstOf?_eq_some_iff_of_nodup {calls : List EventDescriptor}
    (h : (calls.map (·.type)).Nodup) {d : EventDescriptor} :
    firstOf? calls d.type = some d ↔ d ∈ calls := by
  refine ⟨List.mem_of_find?_eq_some, fun hd => ?_⟩
  cases hfirst : firstOf? calls d.type with
  | none => exact absurd rfl (firstOf?_eq_none_iff.mp hfirst d hd)
  | some first =>
    rw [List.inj_on_of_nodup_map h (List.mem_of_find?_eq_some hfirst) hd (type_of_firstOf? hfirst)]

/-- The registry after a call: a descriptor that is rejected changes nothing. -/
def attempt (registry : EventRegistry) (descriptor : EventDescriptor) : EventRegistry :=
  match registry.register descriptor with
  | .ok registry => registry
  | .error _ => registry

/-- The registry after calls with these descriptors, none being registered before. -/
def registerAll (calls : List EventDescriptor) : EventRegistry :=
  calls.foldl attempt {}

theorem registerAll_concat (calls : List EventDescriptor) (descriptor : EventDescriptor) :
    registerAll (calls ++ [descriptor]) = (registerAll calls).attempt descriptor := by
  rw [registerAll, List.foldl_append]
  rfl

/-! ## Tables of first descriptors -/

/-- An order in which a table that holds the first descriptor of each category can list what it
holds: each descriptor once. -/
structure Enumerates (order calls : List EventDescriptor) : Prop where
  once : (order.map (·.type)).Nodup
  mem_iff : ∀ d, d ∈ order ↔ firstOf? calls d.type = some d

theorem Enumerates.mem_types {order calls : List EventDescriptor} (h : Enumerates order calls)
    (type : EventType) : type ∈ order.map (·.type) ↔ type ∈ calls.map (·.type) := by
  rw [List.mem_map, List.mem_map]
  constructor
  · rintro ⟨d, hd, rfl⟩
    exact ⟨d, List.mem_of_find?_eq_some ((h.mem_iff d).mp hd), rfl⟩
  · rintro ⟨c, hc, rfl⟩
    cases hfirst : firstOf? calls c.type with
    | none => exact absurd rfl (firstOf?_eq_none_iff.mp hfirst c hc)
    | some d =>
      have htype := type_of_firstOf? hfirst
      exact ⟨d, (h.mem_iff d).mpr (htype ▸ hfirst), htype⟩

/-- The registry holds the first descriptor of each category that the calls name, by ascending
number. -/
structure Table (registry : EventRegistry) (calls : List EventDescriptor) : Prop where
  ascending : registry.descriptors.Pairwise EventDescriptor.Precedes
  mem_iff : ∀ d, d ∈ registry.descriptors ↔ firstOf? calls d.type = some d

namespace Table

variable {registry : EventRegistry} {calls : List EventDescriptor}

theorem types_nodup (h : Table registry calls) : (registry.descriptors.map (·.type)).Nodup :=
  List.pairwise_map.mpr (h.ascending.imp (·.type_ne))

theorem enumerates (h : Table registry calls) : Enumerates registry.descriptors calls :=
  ⟨h.types_nodup, h.mem_iff⟩

theorem lookup?_eq (h : Table registry calls) (type : EventType) :
    registry.lookup? type = firstOf? calls type := by
  ext d
  constructor
  · intro hfound
    have hlisted : firstOf? registry.descriptors type = some d := hfound
    obtain rfl := type_of_firstOf? hlisted
    exact (h.mem_iff d).mp (List.mem_of_find?_eq_some hfound)
  · intro hfirst
    obtain rfl := type_of_firstOf? hfirst
    exact (firstOf?_eq_some_iff_of_nodup h.types_nodup).mpr ((h.mem_iff d).mpr hfirst)

theorem register_eq (h : Table registry calls) (descriptor : EventDescriptor) :
    registry.register descriptor =
      if ∃ c ∈ calls, c.type = descriptor.type then .error (.duplicate descriptor.type)
      else .ok ⟨insertByNumber descriptor registry.descriptors⟩ := by
  have hsome : (registry.lookup? descriptor.type).isSome
      ↔ ∃ c ∈ calls, c.type = descriptor.type := by
    rw [h.lookup?_eq, Option.isSome_iff_ne_none, Ne, firstOf?_eq_none_iff]
    simp
  rw [register]
  simp only [hsome]

theorem size_eq (h : Table registry calls) :
    registry.size = (calls.map (·.type)).toFinset.card := by
  have htypes : (registry.descriptors.map (·.type)).toFinset = (calls.map (·.type)).toFinset := by
    ext type
    rw [List.mem_toFinset, List.mem_toFinset, h.enumerates.mem_types]
  rw [← htypes, List.toFinset_card_of_nodup h.types_nodup, List.length_map, size]

/-- In whatever order the descriptors are listed, sorting them by number gives those of the
registry. -/
theorem mergeSort_eq (h : Table registry calls) {order : List EventDescriptor}
    (horder : Enumerates order calls) :
    order.mergeSort EventDescriptor.byNumber = registry.descriptors := by
  have hsorted : (order.mergeSort EventDescriptor.byNumber).Pairwise EventDescriptor.Precedes := by
    have hle := List.pairwise_mergeSort EventDescriptor.byNumber_trans
      EventDescriptor.byNumber_total order
    have hne : (order.mergeSort EventDescriptor.byNumber).Pairwise fun d e => d.type ≠ e.type :=
      List.pairwise_map.mp (((List.mergeSort_perm order EventDescriptor.byNumber).map _).nodup_iff.mpr horder.once)
    refine (hle.and hne).imp fun {d e} ⟨hnumber, htype⟩ => ?_
    refine (EventDescriptor.precedes_or_precedes htype).resolve_right fun hless => ?_
    exact UInt16.not_lt.mpr (of_decide_eq_true hnumber) hless
  refine List.Pairwise.eq_of_mem_iff hsorted h.ascending fun d => ?_
  rw [List.mem_mergeSort, horder.mem_iff, h.mem_iff]

/-- Two tables of the same first descriptors are the same. -/
theorem unique {other : EventRegistry} {calls' : List EventDescriptor} (h : Table registry calls)
    (h' : Table other calls') (hfirst : ∀ type, firstOf? calls type = firstOf? calls' type) :
    registry = other := by
  have hdescriptors : registry.descriptors = other.descriptors :=
    List.Pairwise.eq_of_mem_iff h.ascending h'.ascending fun d => by
      rw [h.mem_iff, h'.mem_iff, hfirst]
  cases registry
  cases other
  exact congrArg EventRegistry.mk hdescriptors

/-- A call that is rejected leaves the table, and one that is accepted adds to it. -/
theorem attempt (h : Table registry calls) (descriptor : EventDescriptor) :
    Table (registry.attempt descriptor) (calls ++ [descriptor]) := by
  rw [EventRegistry.attempt, h.register_eq]
  split_ifs with hold
  · -- the category has a first call already
    obtain ⟨c, hc, htype⟩ := hold
    refine ⟨h.ascending, fun d => ?_⟩
    rw [h.mem_iff, firstOf?_concat]
    cases hfirst : firstOf? calls d.type with
    | some first => rfl
    | none =>
      have hother : descriptor.type ≠ d.type :=
        fun e => firstOf?_eq_none_iff.mp hfirst c hc (htype.trans e)
      rw [if_neg hother]
      rfl
  · have hnew : ∀ c ∈ calls, c.type ≠ descriptor.type := fun c hc e => hold ⟨c, hc, e⟩
    have hfresh : ∀ d ∈ registry.descriptors, d.type ≠ descriptor.type := fun d hd =>
      hnew d (List.mem_of_find?_eq_some ((h.mem_iff d).mp hd))
    refine ⟨ascending_insertByNumber h.ascending hfresh, fun d => ?_⟩
    rw [mem_insertByNumber, h.mem_iff, firstOf?_concat]
    by_cases htype : descriptor.type = d.type
    · have hnone : firstOf? calls d.type = none := firstOf?_eq_none_iff.mpr (htype ▸ hnew)
      rw [hnone, if_pos htype]
      simp [eq_comm]
    · have hne : d ≠ descriptor := fun e => htype (e ▸ rfl)
      rw [if_neg htype, Option.or_none]
      simp [hne]

end Table

/-- Whatever the calls, the registry is the table of their first descriptors. -/
theorem table_registerAll (calls : List EventDescriptor) : Table (registerAll calls) calls := by
  induction calls using List.reverseRecOn with
  | nil => exact ⟨.nil, fun d => by simp [registerAll, firstOf?]⟩
  | append_singleton calls descriptor ih =>
    rw [registerAll_concat]
    exact ih.attempt descriptor

/-- The order of calls for different categories does not show in the registry. -/
theorem registerAll_perm {calls calls' : List EventDescriptor} (h : calls.Perm calls')
    (htypes : (calls.map (·.type)).Nodup) : registerAll calls = registerAll calls' := by
  have htypes' : (calls'.map (·.type)).Nodup := (h.map (·.type)).nodup_iff.mp htypes
  refine (table_registerAll calls).unique (table_registerAll calls') fun type => ?_
  ext d
  constructor
  · intro hfirst
    obtain rfl := type_of_firstOf? hfirst
    rw [firstOf?_eq_some_iff_of_nodup htypes] at hfirst
    exact (firstOf?_eq_some_iff_of_nodup htypes').mpr (h.mem_iff.mp hfirst)
  · intro hfirst
    obtain rfl := type_of_firstOf? hfirst
    rw [firstOf?_eq_some_iff_of_nodup htypes'] at hfirst
    exact (firstOf?_eq_some_iff_of_nodup htypes).mpr (h.mem_iff.mpr hfirst)

end EventRegistry

end ScriptHost
