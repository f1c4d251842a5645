import Mathlib.Data.List.Forall2
import NavPolicy.Json.Decode
import NavPolicy.Proofs.Json.Admission

/-!
# Reading what was checked

A schema and a reader are two descriptions of one form of documents.  They agree if the documents
that the schema admits are those that hold something of the form, and if the reader gives what a
document holds.
-/

namespace NavPolicy.Json

/-! ## Values -/

/-- A schema admits the documents that hold something, and `null` where that is allowed, and a
reader gives what they hold. -/
structure Schema.Reads {α : Type} (s : Schema) (nullable : Bool) (decode : Decoder α)
    (holds : Value → α → Prop) : Prop where
  admits_iff : ∀ {v}, v.Distinct → (s.Admits v ↔ nullable = true ∧ v = .null ∨ ∃ a, holds v a)
  decode_eq : ∀ {v a}, v.Distinct → holds v a → decode v = .ok a
  ne_null : ∀ {v a}, holds v a → v ≠ .null

/-- An object that holds entries by name, in the order of its members. -/
def HoldsEntries {α : Type} (holds : Value → α → Prop) (v : Value) (entries : Ordered α) : Prop :=
  ∃ ms, v = .object ms ∧ List.Forall₂ (fun m e => m.1 = e.1 ∧ holds m.2 e.2) ms entries

/-- An object whose members hold a record. -/
def HoldsRecord {R : Type} (heldIn : R → Members → Prop) (v : Value) (r : R) : Prop :=
  ∃ ms, v = .object ms ∧ heldIn r ms

theorem TypeName.string_admits_iff {v : Value} :
    TypeName.string.admits v = true ↔ ∃ s, v = .string s := by
  cases v <;> simp [TypeName.admits]

theorem TypeName.null_admits_iff {v : Value} : TypeName.null.admits v = true ↔ v = .null := by
  cases v <;> simp [TypeName.admits]

namespace Schema

variable {α : Type} {s : Schema} {decode : Decoder α} {holds : Value → α → Prop}

theorem reads_string :
    (Schema.plain (.types [.string])).Reads false decodeString fun v s => v = .string s where
  admits_iff _ := by simp [admits_types_iff, TypeName.string_admits_iff]
  decode_eq _ h := h ▸ rfl
  ne_null h := by simp [h]

theorem reads_optionalString :
    (Schema.plain (.types [.string, .null])).Reads true decodeString fun v s => v = .string s where
  admits_iff _ := by
    simp [admits_types_iff, TypeName.string_admits_iff, TypeName.null_admits_iff, or_comm]
  decode_eq _ h := h ▸ rfl
  ne_null h := by simp [h]

/-- An absolute identifier is read as its text. -/
theorem reads_uri :
    (Schema.plain .uri).Reads false decodeString fun v s =>
      v = .string s ∧ Uri.isAbsolute s.toList = true where
  admits_iff _ := by simp [admits_uri_iff]
  decode_eq _ h := h.1 ▸ rfl
  ne_null h := by simp [h.1]

private theorem decodeItems_strings (ss : List String) :
    decodeItems decodeString (ss.map Value.string) = .ok ss := by
  induction ss with
  | nil => rfl
  | cons s ss ih =>
      rw [List.map_cons, decodeItems, decodeString, ih]
      rfl

/-- A list of strings is read as it is written. -/
theorem reads_strings (nullable : Bool) :
    (Schema.list nullable (.plain (.types [.string]))).Reads nullable (decodeList decodeString)
      fun v ss => v = .ofStrings ss where
  admits_iff {v} _ := by
    have hitems : ∀ vs : List Value, (∀ w ∈ vs, ∃ s, w = .string s) ↔
        ∃ ss : List String, vs = ss.map Value.string := by
      intro vs
      induction vs with
      | nil => simp
      | cons w vs ih =>
          rw [List.forall_mem_cons, ih]
          constructor
          · rintro ⟨⟨s, rfl⟩, ss, rfl⟩
            exact ⟨s :: ss, rfl⟩
          · rintro ⟨ss, h⟩
            cases ss with
            | nil => cases h
            | cons s ss =>
                obtain ⟨rfl, rfl⟩ := List.cons.inj h
                exact ⟨⟨s, rfl⟩, ss, rfl⟩
    rw [admits_list_iff]
    simp only [admits_types_iff, List.mem_singleton, exists_eq_left, TypeName.string_admits_iff,
      hitems]
    refine or_congr_right ⟨?_, ?_⟩
    · rintro ⟨_, rfl, ss, rfl⟩
      exact ⟨ss, rfl⟩
    · rintro ⟨ss, rfl⟩
      exact ⟨_, rfl, ss, rfl⟩
  decode_eq {v ss} _ h := by
    rw [h]
    exact decodeItems_strings ss
  ne_null h := by simp [h, Value.ofStrings]

private theorem exists_forall₂_entries {ms : Members} :
    (∃ entries : Ordered α, List.Forall₂ (fun m e => m.1 = e.1 ∧ holds m.2 e.2) ms entries) ↔
      ∀ m ∈ ms, ∃ a, holds m.2 a := by
  induction ms with
  | nil => simp
  | cons m ms ih =>
      rw [List.forall_mem_cons, ← ih]
      constructor
      · rintro ⟨_, hentries⟩
        cases hentries with
        | cons h hentries => exact ⟨⟨_, h.2⟩, _, hentries⟩
      · rintro ⟨⟨a, ha⟩, entries, hentries⟩
        exact ⟨(m.1, a) :: entries, .cons ⟨rfl, ha⟩ hentries⟩

private theorem Reads.decodeEntries_eq (h : s.Reads false decode holds) {ms : Members}
    (hms : ∀ m ∈ ms, m.2.Distinct) {entries : Ordered α}
    (hentries : List.Forall₂ (fun m e => m.1 = e.1 ∧ holds m.2 e.2) ms entries) :
    decodeEntries decode ms = .ok entries := by
  induction hentries with
  | nil => rfl
  | cons hhead _ ih =>
      rw [List.forall_mem_cons] at hms
      rw [decodeEntries, h.decode_eq hms.1 hhead.2, ih hms.2, hhead.1]
      rfl

/-- A map is read if each of its entries is. -/
theorem reads_entries (nullable : Bool) (h : s.Reads false decode holds) :
    (Schema.record nullable [] [] (some s)).Reads nullable (decodeMap decode)
      (HoldsEntries holds) where
  admits_iff {v} hv := by
    rw [admits_record_iff]
    refine or_congr_right ?_
    have hmembers : ∀ ms, v = .object ms →
        ((Schema.record nullable [] [] (some s)).Admits (.object ms) ↔
          ∃ entries : Ordered α,
            List.Forall₂ (fun m e => m.1 = e.1 ∧ holds m.2 e.2) ms entries) := by
      rintro ms rfl
      cases hv with
      | object _ hms =>
          rw [exists_forall₂_entries, admits_object_iff]
          simp only [List.not_mem_nil, false_implies, implies_true, true_and, Option.mem_some_iff,
            forall_eq', Ordered.names, List.map_nil, not_false_eq_true, true_implies]
          refine forall₂_congr fun m hm => ?_
          simp [h.admits_iff (hms m hm)]
    constructor
    · rintro ⟨ms, hobject, hms⟩
      obtain ⟨entries, hentries⟩ := (hmembers ms hobject).1 hms
      exact ⟨entries, ms, hobject, hentries⟩
    · rintro ⟨entries, ms, hobject, hentries⟩
      exact ⟨ms, hobject, (hmembers ms hobject).2 ⟨entries, hentries⟩⟩
  decode_eq {v entries} hv := by
    rintro ⟨ms, rfl, hentries⟩
    cases hv with
    | object _ hms => exact h.decodeEntries_eq hms hentries
  ne_null := by
    rintro _ _ ⟨ms, rfl, -⟩
    simp

end Schema

/-! ## Members -/

/-- What an object gives where nothing need be given: `null` is nothing. -/
def given : Option Value → Option Value
  | some .null => none
  | found => found

theorem given_of_ne {v : Value} (h : v ≠ .null) : given (some v) = some v := by
  cases v with
  | null => exact absurd rfl h
  | _ => rfl

theorem eq_some_of_given {o : Option Value} {v : Value} (h : given o = some v) : o = some v := by
  unfold given at h
  split at h
  · cases h
  · exact h

/-- What becomes of a field that an object gives, or does not give. -/
def ReadsAs {γ : Type} (decode : Decoder γ) (blank : γ) : Option Value → γ → Prop
  | none, a => a = blank
  | some v, a => decode v = .ok a

/-- A schema and a reader agree on a member of an object, which may have to be there. -/
structure Schema.ReadsMember {γ : Type} (s : Schema) (required : Bool) (decode : Decoder γ)
    (blank : γ) (holds : Option Value → γ → Prop) : Prop where
  admits_iff : ∀ {o : Option Value}, (∀ v ∈ o, v.Distinct) →
    ((required = true → o.isSome) ∧ (∀ v ∈ o, s.Admits v) ↔ ∃ a, holds o a)
  readsAs : ∀ {o : Option Value} {a}, (∀ v ∈ o, v.Distinct) → holds o a → ReadsAs decode blank o a

section Members

variable {α γ : Type} {s : Schema} {decode : Decoder α} {holds : Value → α → Prop}

/-- A field is read in one way only. -/
theorem ReadsAs.unique {decode : Decoder γ} {blank a b : γ} {o : Option Value}
    (ha : ReadsAs decode blank o a) (hb : ReadsAs decode blank o b) : a = b := by
  cases o with
  | none => exact Eq.trans ha (Eq.symm hb)
  | some v => exact Except.ok.inj (Eq.trans (Eq.symm ha) hb)

/-- A field is read into every record that lacks it. -/
theorem ReadsAs.exists_read {R : Type} {decode : Decoder γ} {blank a : γ} {o : Option Value}
    (h : ReadsAs decode blank o a) (set : R → γ → R) :
    ∀ v ∈ o, ∀ r, ∃ r', (decode v).map (set r) = .ok r' := by
  rintro v rfl r
  exact exists_map_eq_ok.2 ⟨a, h⟩

/-- What stands in a document without doubled names is such a document again. -/
theorem Value.Distinct.of_get? {ms : Members} (h : (Value.object ms).Distinct) (name : String) :
    ∀ v ∈ Ordered.get? ms name, v.Distinct := by
  intro v hv
  cases h with
  | object _ hms => exact hms _ (Ordered.mem_of_get? hv)

theorem rel_eq_iff {f : α → Value} {o : Option Value} {x : Option α} :
    Option.Rel (fun v a => v = f a) o x ↔ o = x.map f := by
  constructor
  · intro h
    cases h with
    | none => rfl
    | some h => exact congrArg some h
  · rintro rfl
    cases x with
    | none => exact .none
    | some a => exact .some rfl

/-- A member that must be there is read from what is there. -/
theorem Schema.Reads.required (h : s.Reads false decode holds) (blank : α) :
    s.ReadsMember true decode blank fun o a => ∃ v, o = some v ∧ holds v a where
  admits_iff {o} ho := by
    cases o with
    | none => simp
    | some v => simp [h.admits_iff (ho v rfl)]
  readsAs {o a} ho := by
    rintro ⟨v, rfl, hv⟩
    exact h.decode_eq (ho v rfl) hv

private theorem decodeOption_of_ne {v : Value} (h : v ≠ .null) :
    decodeOption decode v = (decode v).map some := by
  cases v with
  | null => exact absurd rfl h
  | _ => rfl

/-- A member that may be missing is read as nothing then. -/
theorem Schema.Reads.optional (h : s.Reads true decode holds) :
    s.ReadsMember false (decodeOption decode) none fun o x => Option.Rel holds (given o) x where
  admits_iff {o} ho := by
    cases o with
    | none => simpa using ⟨none, Option.Rel.none⟩
    | some v =>
        simp only [Bool.false_eq_true, false_implies, true_and, Option.mem_some_iff, forall_eq',
          h.admits_iff (ho v rfl)]
        by_cases hnull : v = .null
        · subst hnull
          simpa using ⟨none, Option.Rel.none⟩
        · rw [given_of_ne hnull]
          constructor
          · rintro (hv | ⟨a, ha⟩)
            · exact absurd hv hnull
            · exact ⟨some a, .some ha⟩
          · rintro ⟨_, hx⟩
            cases hx with
            | some ha => exact Or.inr ⟨_, ha⟩
  readsAs {o x} ho hx := by
    cases o with
    | none =>
        cases hx
        rfl
    | some v =>
        by_cases hnull : v = .null
        · subst hnull
          cases hx
          rfl
        · rw [given_of_ne hnull] at hx
          cases hx with
          | some ha =>
              rw [ReadsAs, decodeOption_of_ne hnull, h.decode_eq (ho v rfl) ha]
              rfl

end Members

/-! ## What distinct documents hold -/

section Distinct

variable {α : Type} {holds : Value → α → Prop} {v : Value} {entries : Ordered α}

/-- Entries that were read have distinct names. -/
theorem HoldsEntries.nodup_names (h : HoldsEntries holds v entries) (hv : v.Distinct) :
    (Ordered.names entries).Nodup := by
  obtain ⟨ms, rfl, hentries⟩ := h
  have hnames : Ordered.names ms = Ordered.names entries := by
    clear hv
    induction hentries with
    | nil => rfl
    | cons hhead _ ih => exact congrArg₂ List.cons hhead.1 ih
  cases hv with
  | object hms _ => exact hnames ▸ hms

/-- What is found among the entries was found among the members. -/
theorem HoldsEntries.exists_of_mem (h : HoldsEntries holds v entries) (hv : v.Distinct)
    {e : String × α} (he : e ∈ entries) : ∃ w, w.Distinct ∧ holds w e.2 := by
  obtain ⟨ms, rfl, hentries⟩ := h
  cases hv with
  | object hnames hms =>
      clear hnames
      induction hentries with
      | nil => cases he
      | cons hhead _ ih =>
          rw [List.forall_mem_cons] at hms
          rcases List.mem_cons.1 he with rfl | he
          · exact ⟨_, hms.1, hhead.2⟩
          · exact ih he hms.2

theorem exists_of_rel_given {ms : Members} (hms : (Value.object ms).Distinct) {name : String}
    {x : Option α} (h : Option.Rel holds (given (Ordered.get? ms name)) x) {a : α} (ha : a ∈ x) :
    ∃ w, w.Distinct ∧ holds w a := by
  cases ha
  cases hgiven : given (Ordered.get? ms name) with
  | none =>
      rw [hgiven] at h
      cases h
  | some w =>
      rw [hgiven] at h
      cases h with
      | some hw => exact ⟨w, hms.of_get? name w (eq_some_of_given hgiven), hw⟩

end Distinct

end NavPolicy.Json
