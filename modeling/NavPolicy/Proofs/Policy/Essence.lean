import NavPolicy.Proofs.Policy.Content

/-!
# What counts in a policy document

A policy does not depend on members that no field has the name of, nor on whether an optional
member is `null` or not there at all.  The essence of a document is what is left without these.
Every document that passes the check is read, and documents of the same essence are read as the
same policy.
-/

namespace NavPolicy

open NavPolicy.Json

/-! ## Essences -/

/-- The fields of a record that an object gives, in the order of the record. -/
def selected (fields : List (String × (Value → Value))) : Value → Value
  | .object ms => .object (fields.filterMap fun f =>
      (given (Ordered.get? ms f.1)).map fun v => (f.1, f.2 v))
  | v => v

/-- The entries of an object with something else in the place of each value. -/
def mapEntries (f : Value → Value) : Value → Value
  | .object ms => .object (ms.map fun m => (m.1, f m.2))
  | v => v

def DomRules.essence : Value → Value :=
  selected [("hide", id), ("disableAnchorsTo", id), ("script", id)]

def FilterMode.essence : Value → Value :=
  selected [("blockUrls", id), ("hideSelectors", id), ("scriptlets", id)]

def Destination.essence : Value → Value :=
  selected [("start", id), ("allow", id), ("block", id), ("dom", DomRules.essence),
    ("filterModes", mapEntries FilterMode.essence), ("quickActions", id)]

/-- What counts in a policy. -/
def Policy.essence : Value → Value :=
  selected [("version", id), ("filterModeDefault", id),
    ("destinations", mapEntries Destination.essence)]

private theorem get?_filterMap {fields : List (String × (Value → Value))}
    (hnames : (Ordered.names fields).Nodup) (found : String → Option Value)
    {f : String × (Value → Value)} (hf : f ∈ fields) :
    Ordered.get? (fields.filterMap fun f => (found f.1).map fun v => (f.1, f.2 v)) f.1 =
      (found f.1).map f.2 := by
  induction fields with
  | nil => cases hf
  | cons e rest ih =>
      simp only [Ordered.names, List.map_cons, List.nodup_cons] at hnames
      rcases List.mem_cons.1 hf with rfl | hf
      · cases hfound : found f.1 with
        | some v => simp [hfound, Ordered.get?_cons]
        | none =>
            rw [List.filterMap_cons_none (by simp [hfound])]
            rw [Option.map_none, Ordered.get?_eq_none_iff]
            intro hmem
            obtain ⟨m, hm, hname⟩ := List.mem_map.1 hmem
            obtain ⟨e, he, hem⟩ := List.mem_filterMap.1 hm
            obtain ⟨v, -, rfl⟩ := Option.map_eq_some_iff.1 hem
            exact hnames.1 (List.mem_map.2 ⟨e, he, hname⟩)
      · have hne : e.1 ≠ f.1 := by
          intro hname
          exact hnames.1 (List.mem_map.2 ⟨f, hf, hname.symm⟩)
        rw [← ih hnames.2 hf]
        cases hfound : found e.1 with
        | none => rw [List.filterMap_cons_none (by simp [hfound])]
        | some v => simp [hfound, Ordered.get?_cons, hne]

/-- Objects of one essence give the same in every field. -/
theorem exists_of_selected_eq {fields : List (String × (Value → Value))}
    (hnames : (Ordered.names fields).Nodup) {ms : Members} {v : Value}
    (h : selected fields v = selected fields (.object ms)) :
    ∃ ms', v = .object ms' ∧ ∀ f ∈ fields,
      (given (Ordered.get? ms' f.1)).map f.2 = (given (Ordered.get? ms f.1)).map f.2 := by
  cases v with
  | object ms' =>
      refine ⟨ms', rfl, fun f hf => ?_⟩
      have hget := get?_filterMap hnames (fun name => given (Ordered.get? ms' name)) hf
      rw [← hget, Value.object.inj h]
      exact get?_filterMap hnames (fun name => given (Ordered.get? ms name)) hf
  | _ => simp [selected] at h

section Holds

variable {α : Type} {holds : Value → α → Prop} {f : Value → Value}

theorem Json.HoldsEntries.of_mapEntries (hholds : ∀ v w a, holds v a → f w = f v → holds w a)
    (v w : Value) (entries : Ordered α) (h : HoldsEntries holds v entries)
    (heq : mapEntries f w = mapEntries f v) : HoldsEntries holds w entries := by
  obtain ⟨ms, rfl, hentries⟩ := h
  cases w with
  | object ms' =>
      refine ⟨ms', rfl, ?_⟩
      replace heq := Value.object.inj heq
      induction hentries generalizing ms' with
      | nil =>
          rw [List.map_eq_nil_iff.1 heq]
          exact .nil
      | cons hhead _ ih =>
          cases ms' with
          | nil => cases heq
          | cons m ms' =>
              obtain ⟨hm, htail⟩ := List.cons.inj heq
              obtain ⟨hname, hvalue⟩ := Prod.mk.inj hm
              exact .cons ⟨hname.trans hhead.1, hholds _ _ _ hhead.2 hvalue⟩ (ih ms' htail)
  | _ => simp [mapEntries] at heq

theorem rel_of_map_eq (hholds : ∀ v w a, holds v a → f w = f v → holds w a)
    {o o' : Option Value} {x : Option α} (h : Option.Rel holds o x) (heq : o'.map f = o.map f) :
    Option.Rel holds o' x := by
  cases h with
  | none =>
      rw [Option.map_eq_none_iff.1 heq]
      exact .none
  | some ha =>
      obtain ⟨w, rfl, hw⟩ := Option.map_eq_some_iff.1 heq
      exact .some (hholds _ _ _ ha hw)

end Holds

/-- A member that is there and not `null` is there as well where the same is given. -/
theorem eq_some_of_given_eq {o o' : Option Value} {v : Value} (h : given o' = given o)
    (ho : o = some v) (hv : v ≠ .null) : o' = some v := by
  rw [ho, given_of_ne hv] at h
  exact eq_some_of_given h

/-! ## What is held depends on the essence alone -/

private theorem DomRules.holds_of_essence (v w : Value) (r : DomRules) (h : HoldsRecord HeldIn v r)
    (heq : essence w = essence v) : HoldsRecord HeldIn w r := by
  obtain ⟨ms, rfl, h⟩ := h
  obtain ⟨ms', rfl, hfields⟩ := exists_of_selected_eq (by decide) heq
  simp only [List.forall_mem_cons, Option.map_id, id_eq] at hfields
  obtain ⟨hhide, hanchors, hscript, -⟩ := hfields
  exact ⟨ms', rfl, hhide ▸ h.hide, hanchors ▸ h.disableAnchorsTo, hscript ▸ h.script⟩

theorem FilterMode.holds_of_essence (v w : Value) (m : FilterMode) (h : HoldsRecord HeldIn v m)
    (heq : essence w = essence v) : HoldsRecord HeldIn w m := by
  obtain ⟨ms, rfl, h⟩ := h
  obtain ⟨ms', rfl, hfields⟩ := exists_of_selected_eq (by decide) heq
  simp only [List.forall_mem_cons, Option.map_id, id_eq] at hfields
  obtain ⟨hblock, hhide, hscripts, -⟩ := hfields
  exact ⟨ms', rfl, hblock ▸ h.blockUrls, hhide ▸ h.hideSelectors, hscripts ▸ h.scriptlets⟩

private theorem Destination.holds_of_essence (v w : Value) (d : Destination)
    (h : HoldsRecord HeldIn v d) (heq : essence w = essence v) : HoldsRecord HeldIn w d := by
  obtain ⟨ms, rfl, h⟩ := h
  obtain ⟨ms', rfl, hfields⟩ := exists_of_selected_eq (by decide) heq
  simp only [List.forall_mem_cons, Option.map_id, id_eq] at hfields
  obtain ⟨hstart, hallow, hblock, hdom, hmodes, hactions, -⟩ := hfields
  refine ⟨ms', rfl, ?_⟩
  exact {
    start := eq_some_of_given_eq hstart h.start (by simp)
    absolute := h.absolute
    allow := eq_some_of_given_eq hallow h.allow (by simp [Value.ofStrings])
    block := eq_some_of_given_eq hblock h.block (by simp [Value.ofStrings])
    dom := rel_of_map_eq DomRules.holds_of_essence h.dom hdom
    filterModes :=
      rel_of_map_eq (HoldsEntries.of_mapEntries FilterMode.holds_of_essence) h.filterModes hmodes
    quickActions := hactions ▸ h.quickActions }

private theorem Policy.holds_of_essence {v w : Value} {p : Policy} (h : HoldsRecord HeldIn v p)
    (heq : essence w = essence v) : HoldsRecord HeldIn w p := by
  obtain ⟨ms, rfl, h⟩ := h
  obtain ⟨ms', rfl, hfields⟩ := exists_of_selected_eq (by decide) heq
  simp only [List.forall_mem_cons, Option.map_id, id_eq] at hfields
  obtain ⟨hversion, hdefault, hdestinations, -⟩ := hfields
  obtain ⟨v, hv, hentries⟩ := h.destinations
  have hnull : v ≠ .null := (Schema.reads_entries false Destination.reads).ne_null hentries
  rw [hv, given_of_ne hnull] at hdestinations
  obtain ⟨w, hw, hessence⟩ := Option.map_eq_some_iff.1 hdestinations
  refine ⟨ms', rfl, ?_⟩
  exact {
    version := eq_some_of_given_eq hversion h.version (by simp)
    filterModeDefault := hdefault.trans h.filterModeDefault
    destinations := ⟨w, eq_some_of_given hw,
      HoldsEntries.of_mapEntries Destination.holds_of_essence _ _ _ hentries hessence⟩ }

/-! ## Reading -/

namespace Policy

variable {doc : Value}

/-- A document in which nothing is wrong is read, as the policy that its members hold, and a
document of the same essence is read as the same policy. -/
theorem exists_ofDocument_eq_ok (hdistinct : doc.Distinct) (h : check doc = []) :
    ∃ p, form.decode doc = .ok p ∧ ofDocument doc = .ok p ∧ HoldsRecord HeldIn doc p ∧
      ∀ doc', doc'.Distinct → essence doc' = essence doc → ofDocument doc' = .ok p := by
  obtain ⟨p, hp⟩ := (check_eq_nil_iff_holds hdistinct).1 h
  refine ⟨p, reads.decode_eq hdistinct hp, ofDocument_of_holds hdistinct hp, hp, ?_⟩
  intro doc' hdistinct' hessence
  exact ofDocument_of_holds hdistinct' (holds_of_essence hp hessence)

def wordyDocument : Value :=
  .object [("note", .number (.natural 1)),
    ("destinations", .object [("a/b", .object [("allow", .array [.string "/*", .string "/"]),
      ("dom", .null), ("block", .array []), ("start", .string "https://a.example/"),
      ("filterModes", .object [
        ("late", .object [("blockUrls", .null), ("color", .bool true)])])])]),
    ("filterModeDefault", .null), ("version", .string "1")]

/-- What counts in that document, with the fields in another order. -/
def terseDocument : Value :=
  .object [("version", .string "1"),
    ("destinations", .object [("a/b", .object [("start", .string "https://a.example/"),
      ("allow", .array [.string "/*", .string "/"]), ("block", .array []),
      ("filterModes", .object [("late", .object [])])])])]

/-- Members that do not count and fields in another order make no difference. -/
theorem wordyDocument_read_as_terse :
    wordyDocument.Distinct ∧ check wordyDocument = [] ∧ terseDocument.Distinct ∧
      essence terseDocument = essence wordyDocument ∧
      ∃ p, ofDocument wordyDocument = .ok p ∧ ofDocument terseDocument = .ok p := by
  have hwordy : wordyDocument.Distinct := by decide
  have hterse : terseDocument.Distinct := by decide
  have hcheck : check wordyDocument = [] := check_eq_nil_iff.2 (by decide +kernel)
  obtain ⟨p, -, hp, -, hsame⟩ := exists_ofDocument_eq_ok hwordy hcheck
  exact ⟨hwordy, hcheck, hterse, rfl, p, hp, hsame terseDocument hterse rfl⟩

end Policy

end NavPolicy
