import Mathlib.Data.List.Basic
import NavPolicy.Json.Schema
import NavPolicy.Proofs.Json.Distinct

/-!
# What a schema admits

A schema admits a document if it finds no violation in it.  Where the document stands decides
nothing, so that a record is admitted if its members are, each by its own schema, and if the
members are there that must be.
-/

namespace NavPolicy.Json.Schema

/-! ## What a schema finds -/

theorem violationsAt_record_of_ne {path required : List String} {nullable : Bool}
    {known : List (String × Schema)} {rest : Option Schema} {v : Value}
    (h : ∀ ms, v ≠ .object ms) :
    violationsAt path (.record nullable required known rest) v =
      if (orNull nullable .object).isMet v then []
      else [(path, .unmet (orNull nullable .object) v)] := by
  cases v with
  | object ms => exact absurd rfl (h ms)
  | _ => rw [violationsAt]; exact h

theorem violationsAt_list_of_ne {path : List String} {nullable : Bool} {items : Schema} {v : Value}
    (h : ∀ vs, v ≠ .array vs) :
    violationsAt path (.list nullable items) v =
      if (orNull nullable .array).isMet v then []
      else [(path, .unmet (orNull nullable .array) v)] := by
  cases v with
  | array vs => exact absurd rfl (h vs)
  | _ => rw [violationsAt]; exact h

theorem violationsAt_uri_of_ne {path : List String} {v : Value} (h : ∀ s, v ≠ .string s) :
    violationsAt path (.plain .uri) v = [(path, .unmet (.types [.string]) v)] := by
  cases v with
  | string s => exact absurd rfl (h s)
  | _ => rw [violationsAt]; exact h

mutual

/-- Where a document stands decides nothing but the keys in front of what is found in it. -/
theorem violationsAt_append (path above : List String) : ∀ (s : Schema) (v : Value),
    violationsAt (path ++ above) s v =
      (violationsAt path s v).map fun found => (found.1 ++ above, found.2)
  | .plain .uri, v => by
    by_cases hstring : ∃ s, v = .string s
    · obtain ⟨s, rfl⟩ := hstring
      simp only [violationsAt]
      split <;> rfl
    · have hne : ∀ s, v ≠ .string s := fun s hs => hstring ⟨s, hs⟩
      rw [violationsAt_uri_of_ne hne, violationsAt_uri_of_ne hne]
      rfl
  | .plain (.types allowed), v => by
    simp only [violationsAt]
    split <;> rfl
  | .plain (.choice names), v => by
    simp only [violationsAt]
    split <;> rfl
  | .record nullable required known rest, v => by
    by_cases hobject : ∃ members, v = .object members
    · obtain ⟨members, rfl⟩ := hobject
      simp only [violationsAt, List.map_append, List.map_map]
      rw [knownViolations_append path above members known,
        restViolations_append path above (known.map Prod.fst) members rest]
      rfl
    · have hne : ∀ members, v ≠ .object members := fun members h => hobject ⟨members, h⟩
      rw [violationsAt_record_of_ne hne, violationsAt_record_of_ne hne]
      split <;> rfl
  | .list nullable items, v => by
    by_cases harray : ∃ vs, v = .array vs
    · obtain ⟨vs, rfl⟩ := harray
      simp only [violationsAt, List.map_flatMap]
      refine List.flatMap_congr fun (i, v) _ => ?_
      exact violationsAt_append (toString i :: path) above items v
    · have hne : ∀ vs, v ≠ .array vs := fun vs h => harray ⟨vs, h⟩
      rw [violationsAt_list_of_ne hne, violationsAt_list_of_ne hne]
      split <;> rfl

theorem knownViolations_append (path above : List String) (members : Members) : ∀ known,
    knownViolations (path ++ above) members known =
      (knownViolations path members known).map fun found => (found.1 ++ above, found.2)
  | [] => by simp [knownViolations]
  | (name, s) :: known => by
    simp only [knownViolations, List.map_append]
    rw [knownViolations_append path above members known]
    cases Ordered.get? members name with
    | none => rfl
    | some v => exact congrArg (· ++ _) (violationsAt_append (name :: path) above s v)

theorem restViolations_append (path above names : List String) (members : Members) : ∀ rest,
    restViolations (path ++ above) names members rest =
      (restViolations path names members rest).map fun found => (found.1 ++ above, found.2)
  | none => by simp [restViolations]
  | some s => by
    simp only [restViolations, List.map_flatMap]
    refine List.flatMap_congr fun (name, v) _ => ?_
    exact violationsAt_append (name :: path) above s v

end

/-! ## What a schema finds nothing in -/

def Admits (s : Schema) (v : Value) : Prop := s.violationsAt [] v = []

/-- Nothing is found in a value exactly if the schema admits it. -/
theorem violationsAt_eq_nil_iff {path : List String} {s : Schema} {v : Value} :
    s.violationsAt path v = [] ↔ s.Admits v := by
  have h := violationsAt_append [] path s v
  rw [List.nil_append] at h
  rw [h, List.map_eq_nil_iff, Admits]

/-- A value is admitted if it has one of the types. -/
theorem admits_types_iff {allowed : List TypeName} {v : Value} :
    (Schema.plain (.types allowed)).Admits v ↔ ∃ t ∈ allowed, t.admits v = true := by
  simp [Admits, violationsAt, Demand.isMet]

theorem admits_choice_iff {names : List String} {v : Value} :
    (Schema.plain (.choice names)).Admits v ↔ v = .null ∨ ∃ s ∈ names, v = .string s := by
  cases v <;> simp [Admits, violationsAt, Demand.isMet]

theorem admits_uri_iff {v : Value} :
    (Schema.plain .uri).Admits v ↔ ∃ s, v = .string s ∧ Uri.isAbsolute s.toList = true := by
  by_cases hstring : ∃ s, v = .string s
  · obtain ⟨s, rfl⟩ := hstring
    rw [Admits, violationsAt, Demand.isMet]
    cases h : Uri.isAbsolute s.toList <;> simp [h]
  · have hne : ∀ s, v ≠ .string s := fun s hs => hstring ⟨s, hs⟩
    rw [Admits, violationsAt_uri_of_ne hne]
    simp [hne]

theorem isMet_orNull_iff {nullable : Bool} {t : TypeName} {v : Value} :
    (orNull nullable t).isMet v = true ↔ nullable = true ∧ v = .null ∨ t.admits v = true := by
  have hnull : TypeName.null.admits v = true ↔ v = .null := by
    cases v <;> simp [TypeName.admits]
  cases nullable <;> simp [orNull, Demand.isMet, hnull, or_comm]

/-- A list is admitted if each item is, or `null` where that may stand for it. -/
theorem admits_list_iff {nullable : Bool} {item : Schema} {v : Value} :
    (Schema.list nullable item).Admits v ↔
      nullable = true ∧ v = .null ∨ ∃ vs, v = .array vs ∧ ∀ w ∈ vs, item.Admits w := by
  by_cases harray : ∃ vs, v = .array vs
  · obtain ⟨vs, rfl⟩ := harray
    rw [Admits, violationsAt, List.mapIdx_eq_zipIdx_map, List.flatMap_map, List.flatMap_eq_nil_iff]
    simp only [violationsAt_eq_nil_iff, reduceCtorEq, and_false, false_or, Value.array.injEq,
      exists_eq_left']
    constructor
    · intro h w hw
      obtain ⟨i, hi, rfl⟩ := List.getElem_of_mem hw
      exact h (vs[i], i) (List.mk_mem_zipIdx_iff_getElem?.2 (List.getElem?_eq_getElem hi))
    · exact fun h w hw => h w.1 (List.fst_mem_of_mem_zipIdx hw)
  · have hne : ∀ vs, v ≠ .array vs := fun vs h => harray ⟨vs, h⟩
    have hother : TypeName.array.admits v ≠ true := by
      cases v with
      | array vs => exact absurd rfl (hne vs)
      | _ => simp [TypeName.admits]
    rw [Admits, violationsAt_list_of_ne hne]
    simp [isMet_orNull_iff, hne, hother]

/-- An object is admitted if it has what is required and each member is admitted by its schema. -/
theorem admits_object_iff {nullable : Bool} {required : List String}
    {known : List (String × Schema)} {rest : Option Schema} {ms : Members} :
    (Schema.record nullable required known rest).Admits (.object ms) ↔
      (∀ name ∈ required, (Ordered.get? ms name).isSome) ∧
        (∀ k ∈ known, ∀ w ∈ Ordered.get? ms k.1, k.2.Admits w) ∧
        ∀ s ∈ rest, ∀ m ∈ ms, m.1 ∉ Ordered.names known → s.Admits m.2 := by
  have hknown : knownViolations [] ms known = [] ↔
      ∀ k ∈ known, ∀ w ∈ Ordered.get? ms k.1, k.2.Admits w := by
    induction known with
    | nil => simp [knownViolations]
    | cons k known ih =>
        rw [knownViolations, List.append_eq_nil_iff, List.forall_mem_cons, ih]
        cases Ordered.get? ms k.1 with
        | none => simp
        | some w => simp [violationsAt_eq_nil_iff]
  have hrest : restViolations [] (known.map Prod.fst) ms rest = [] ↔
      ∀ s ∈ rest, ∀ m ∈ ms, m.1 ∉ Ordered.names known → s.Admits m.2 := by
    cases rest with
    | none => simp [restViolations]
    | some s => simp [restViolations, violationsAt_eq_nil_iff, Ordered.names]
  rw [Admits, violationsAt, List.append_eq_nil_iff, List.append_eq_nil_iff, hknown, hrest,
    and_assoc]
  simp [Option.isSome_iff_ne_none]

/-- A record is an object, or `null` where that may stand for it. -/
theorem admits_record_iff {nullable : Bool} {required : List String}
    {known : List (String × Schema)} {rest : Option Schema} {v : Value} :
    (Schema.record nullable required known rest).Admits v ↔
      nullable = true ∧ v = .null ∨ ∃ ms, v = .object ms ∧
        (Schema.record nullable required known rest).Admits (.object ms) := by
  by_cases hobject : ∃ ms, v = .object ms
  · obtain ⟨ms, rfl⟩ := hobject
    simp
  · have hne : ∀ ms, v ≠ .object ms := fun ms h => hobject ⟨ms, h⟩
    have hother : TypeName.object.admits v ≠ true := by
      cases v with
      | object ms => exact absurd rfl (hne ms)
      | _ => simp [TypeName.admits]
    rw [Admits, violationsAt_record_of_ne hne]
    simp [isMet_orNull_iff, hne, hother]

end NavPolicy.Json.Schema
