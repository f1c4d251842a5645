import NavPolicy.Proofs.Json.Reading

/-!
# Records that were checked are read

A record is read from the members of an object in whatever order they come, each into the field
of its name.  So what a record was read as can be told field by field, from the member with the
field's name alone.
-/

namespace NavPolicy.Json

namespace RecordForm

variable {R γ : Type} {form : RecordForm R} {ms : Members}

/-- A member is passed over if no field has its name, and is read by such a field else. -/
theorem readMembers_cons_cases {name : String} {v : Value} {rest : Members} {r r' : R}
    (h : form.readMembers ((name, v) :: rest) r = .ok r') :
    ((form.fields.find? fun f => f.name == name) = none ∧ form.readMembers rest r = .ok r') ∨
      ∃ f ∈ form.fields, f.name = name ∧ ∃ next, f.read v r = .ok next ∧
        form.readMembers rest next = .ok r' := by
  rw [readMembers] at h
  split at h
  · rename_i hfind
    exact Or.inl ⟨hfind, h⟩
  · rename_i f hfind
    have hname : f.name = name := by simpa using List.find?_some hfind
    split at h
    · cases h
    · rename_i next hread
      exact Or.inr ⟨f, List.mem_of_find?_eq_some hfind, hname, next, hread, h⟩

/-- What every field keeps, all members keep. -/
theorem readMembers_keeps {P : R → Prop} {members : Members}
    (hfield : ∀ f ∈ form.fields, ∀ v, (f.name, v) ∈ members → ∀ r r', P r →
      f.read v r = .ok r' → P r')
    {r r' : R} (hr : P r) (h : form.readMembers members r = .ok r') : P r' := by
  induction members generalizing r with
  | nil =>
      cases h
      exact hr
  | cons m rest ih =>
      obtain ⟨name, v⟩ := m
      have hrest : ∀ f ∈ form.fields, ∀ v, (f.name, v) ∈ rest → ∀ r r', P r →
          f.read v r = .ok r' → P r' := fun f hf v hv =>
        hfield f hf v (List.mem_cons_of_mem _ hv)
      rcases readMembers_cons_cases h with ⟨-, h⟩ | ⟨f, hf, rfl, next, hread, h⟩
      · exact ih hrest hr h
      · have hnext : P next := hfield f hf v List.mem_cons_self r next hr hread
        exact ih hrest hnext h

/-- What the field of a name establishes and the others keep holds once the name was read. -/
theorem readMembers_establishes {P : R → Prop} (name : String) {members : Members}
    (hset : ∀ f ∈ form.fields, f.name = name → ∀ v, (name, v) ∈ members → ∀ r r',
      f.read v r = .ok r' → P r')
    (hkeep : ∀ f ∈ form.fields, f.name ≠ name → ∀ v r r', P r → f.read v r = .ok r' → P r')
    (hknown : (form.fields.find? fun f => f.name == name).isSome)
    (hmem : name ∈ Ordered.names members) {r r' : R}
    (h : form.readMembers members r = .ok r') : P r' := by
  induction members generalizing r with
  | nil => cases hmem
  | cons m rest ih =>
      obtain ⟨given, v⟩ := m
      have hrest : ∀ f ∈ form.fields, f.name = name → ∀ v, (name, v) ∈ rest → ∀ r r',
          f.read v r = .ok r' → P r' := fun f hf hname v hv =>
        hset f hf hname v (List.mem_cons_of_mem _ hv)
      by_cases hgiven : given = name
      · subst hgiven
        rcases readMembers_cons_cases h with ⟨hnone, -⟩ | ⟨f, hf, hname, next, hread, h⟩
        · rw [hnone] at hknown
          cases hknown
        · have hnext : P next := hset f hf hname v List.mem_cons_self r next hread
          refine readMembers_keeps (fun f hf v hv r r' hr hread => ?_) hnext h
          by_cases hsame : f.name = given
          · exact hrest f hf hsame v (hsame ▸ hv) r r' hread
          · exact hkeep f hf hsame v r r' hr hread
      · have hmem : name ∈ Ordered.names rest := by
          simpa [Ordered.names, Ne.symm hgiven] using hmem
        rcases readMembers_cons_cases h with ⟨-, h⟩ | ⟨f, -, -, next, -, h⟩
        · exact ih hrest hmem h
        · exact ih hrest hmem h

/-- A component of a record that is read from the member with a name, and from no other. -/
structure Component (form : RecordForm R) (name : String) (get : R → γ) (decode : Decoder γ) :
    Prop where
  known : (form.fields.find? fun f => f.name == name).isSome
  read : ∀ f ∈ form.fields, f.name = name → ∀ v r r', f.read v r = .ok r' → decode v = .ok (get r')
  keep : ∀ f ∈ form.fields, f.name ≠ name → ∀ v r r', f.read v r = .ok r' → get r' = get r

/-- Whatever the order of the members, a field is read from the member with its name. -/
theorem Component.readsAs {name : String} {get : R → γ} {decode : Decoder γ}
    (hget : form.Component name get decode) (hnames : (Ordered.names ms).Nodup) {r r' : R}
    (h : form.readMembers ms r = .ok r') :
    ReadsAs decode (get r) (Ordered.get? ms name) (get r') := by
  cases hmem : Ordered.get? ms name with
  | none =>
      refine readMembers_keeps (P := fun r' => get r' = get r) (fun f hf v hv r₁ r₂ hr hread => ?_)
        rfl h
      have hne : f.name ≠ name := by
        rintro rfl
        rw [Ordered.get?_of_mem hnames hv] at hmem
        cases hmem
      exact (hget.keep f hf hne v r₁ r₂ hread).trans hr
  | some v =>
      refine readMembers_establishes (P := fun r' => decode v = .ok (get r')) name ?_ ?_ hget.known
        (Ordered.mem_names_of_get? hmem) h
      · intro f hf hname w hw r₁ r₂ hread
        rw [Ordered.get?_of_mem hnames hw] at hmem
        cases hmem
        exact hget.read f hf hname v r₁ r₂ hread
      · intro f hf hname w r₁ r₂ hr hread
        rw [hget.keep f hf hname w r₁ r₂ hread]
        exact hr

private theorem exists_readMembers
    (h : ∀ f ∈ form.fields, ∀ v, (f.name, v) ∈ ms → ∀ r, ∃ r', f.read v r = .ok r') (r : R) :
    ∃ r', form.readMembers ms r = .ok r' := by
  induction ms generalizing r with
  | nil => exact ⟨r, rfl⟩
  | cons m rest ih =>
      obtain ⟨name, v⟩ := m
      have ih := ih fun f hf v hv => h f hf v (List.mem_cons_of_mem _ hv)
      rw [readMembers]
      split
      · exact ih r
      · rename_i f hfind
        have hname : f.name = name := by simpa using List.find?_some hfind
        subst hname
        obtain ⟨next, hnext⟩ := h f (List.mem_of_find?_eq_some hfind) v List.mem_cons_self r
        rw [hnext]
        exact ih next

/-- A record is read from an object if all its members are read and none is missing. -/
theorem decode_eq {r : R} (hnames : (Ordered.names ms).Nodup)
    (hread : ∀ f ∈ form.fields, ∀ v ∈ Ordered.get? ms f.name, ∀ r, ∃ r', f.read v r = .ok r')
    (hrequired : ∀ f ∈ form.fields, f.required = true → (Ordered.get? ms f.name).isSome)
    (hext : ∀ r', form.readMembers ms form.blank = .ok r' → r' = r) :
    form.decode (.object ms) = .ok r := by
  obtain ⟨r', hr'⟩ := exists_readMembers
    (fun f hf v hv => hread f hf v (Ordered.get?_of_mem hnames hv)) form.blank
  have hall :
      (form.fields.find? fun f => f.required && (Ordered.get? ms f.name).isNone) = none := by
    rw [List.find?_eq_none]
    intro f hf hmissing
    rw [Bool.and_eq_true, Option.isNone_iff_eq_none] at hmissing
    have hpresent := hrequired f hf hmissing.1
    rw [hmissing.2] at hpresent
    cases hpresent
  simp only [decode, hr', hall, hext r' hr']

end RecordForm

/-- The schema and the reader of a record agree if they agree on the members of an object. -/
theorem Schema.reads_record {R : Type} {form : RecordForm R} {heldIn : R → Members → Prop}
    {required : List String} {known : List (String × Schema)} (nullable : Bool)
    (hadmits : ∀ {ms}, (Value.object ms).Distinct →
      ((Schema.record nullable required known none).Admits (.object ms) ↔ ∃ r, heldIn r ms))
    (hdecode : ∀ {ms r}, (Value.object ms).Distinct → heldIn r ms →
      form.decode (.object ms) = .ok r) :
    (Schema.record nullable required known none).Reads nullable form.decode
      (HoldsRecord heldIn) where
  admits_iff {v} hv := by
    rw [admits_record_iff]
    refine or_congr_right ⟨?_, ?_⟩
    · rintro ⟨ms, rfl, hms⟩
      obtain ⟨r, hr⟩ := (hadmits hv).1 hms
      exact ⟨r, ms, rfl, hr⟩
    · rintro ⟨r, ms, rfl, hr⟩
      exact ⟨ms, rfl, (hadmits hv).2 ⟨r, hr⟩⟩
  decode_eq {v r} hv := by
    rintro ⟨ms, rfl, hr⟩
    exact hdecode hv hr
  ne_null := by
    rintro _ _ ⟨ms, rfl, -⟩
    simp

end NavPolicy.Json
