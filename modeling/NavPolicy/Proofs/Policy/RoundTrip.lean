import NavPolicy.Policy.Printer
import NavPolicy.Proofs.Json.RoundTrip
import NavPolicy.Proofs.Policy.Essence

/-!
# Writing a policy and reading it again

A policy that was read from a document is written to a text from which the same policy is read,
so that writing it is a normal form.  What the text relies on is that no name comes twice and that
every start is an absolute identifier, which is so in every policy that was read.
-/

namespace NavPolicy

open NavPolicy.Json

/-! ## Written members -/

section Members

variable {α : Type} {write : α → Value} {holds : Value → α → Prop}

/-- Members in front hide those behind. -/
theorem get?_append (ms ms' : Members) (name : String) :
    Ordered.get? (ms ++ ms') name = (Ordered.get? ms name).or (Ordered.get? ms' name) := by
  simp [Ordered.get?, List.find?_append, Option.map_or]

theorem get?_optionalMember (name other : String) (a : Option α) :
    Ordered.get? (optionalMember name write a) other =
      if name = other then a.map write else none := by
  cases a with
  | none => simp [optionalMember]
  | some a => simp [optionalMember, Ordered.get?_cons]

theorem given_map (hwrite : ∀ a, write a ≠ .null) (a : Option α) :
    given (a.map write) = a.map write := by
  cases a with
  | none => rfl
  | some a => exact given_of_ne (hwrite a)

/-- What is written for something that may not be set holds it. -/
theorem rel_given_map (hwrite : ∀ a, write a ≠ .null) {a : Option α}
    (h : ∀ b ∈ a, holds (write b) b) : Option.Rel holds (given (a.map write)) a := by
  rw [given_map hwrite]
  cases a with
  | none => exact .none
  | some b => exact .some (h b rfl)

theorem forall_mem_optionalMember {P : String × Value → Prop} {name : String} {a : Option α} :
    (∀ m ∈ optionalMember name write a, P m) ↔ ∀ b ∈ a, P (name, write b) := by
  cases a with
  | none => simp [optionalMember]
  | some b => simp [optionalMember]

theorem holdsEntries_writeEntries {entries : Ordered α} (h : ∀ e ∈ entries, holds (write e.2) e.2) :
    HoldsEntries holds (writeEntries write entries) entries := by
  refine ⟨_, rfl, ?_⟩
  rw [List.forall₂_map_left_iff, List.forall₂_same]
  exact fun e he => ⟨rfl, h e he⟩

/-- A list of strings is read back wherever it stands. -/
theorem legible_ofStrings (depth : Nat) (ss : List String) :
    (Value.ofStrings ss).Legible (depth + 1) := by
  refine .array fun v hv => ?_
  obtain ⟨s, -, rfl⟩ := List.mem_map.1 hv
  exact .string _ s

/-- Entries are read back if each of them is and no name comes twice. -/
theorem legible_writeEntries {depth : Nat} {entries : Ordered α}
    (hnames : (Ordered.names entries).Nodup) (h : ∀ e ∈ entries, (write e.2).Legible depth) :
    (writeEntries write entries).Legible (depth + 1) := by
  refine .object ?_ fun m hm => ?_
  · rw [Ordered.names, List.map_map]
    exact hnames
  · obtain ⟨e, he, rfl⟩ := List.mem_map.1 hm
    exact h e he

end Members

/-! ## Written records -/

theorem DomRules.holds_toDocument (r : DomRules) : HoldsRecord HeldIn r.toDocument r := by
  refine ⟨_, rfl, ?_⟩
  exact {
    hide := by simp [Ordered.get?_cons, given, Value.ofStrings]
    disableAnchorsTo := by simp [Ordered.get?_cons, given, Value.ofStrings]
    script := by simp [Ordered.get?_cons, get?_optionalMember, given_map] }

theorem DomRules.legible_toDocument (depth : Nat) (r : DomRules) :
    r.toDocument.Legible (depth + 2) := by
  refine .object ?_ ?_
  · cases r.script <;> simp [Ordered.names, optionalMember]
  · simp only [List.forall_mem_append, List.forall_mem_cons, forall_mem_optionalMember]
    exact ⟨⟨legible_ofStrings depth _, legible_ofStrings depth _, by simp⟩, fun s _ => .string _ s⟩

theorem FilterMode.holds_toDocument (m : FilterMode) : HoldsRecord HeldIn m.toDocument m := by
  refine ⟨_, rfl, ?_⟩
  exact {
    blockUrls := by simp [Ordered.get?_cons, given, Value.ofStrings]
    hideSelectors := by simp [Ordered.get?_cons, given, Value.ofStrings]
    scriptlets := by simp [Ordered.get?_cons, given, Value.ofStrings] }

theorem FilterMode.legible_toDocument (depth : Nat) (m : FilterMode) :
    m.toDocument.Legible (depth + 2) := by
  refine .object (by simp [Ordered.names]) ?_
  simp only [List.forall_mem_cons]
  exact ⟨legible_ofStrings depth _, legible_ofStrings depth _, legible_ofStrings depth _, by simp⟩

/-- A destination that starts at an absolute identifier and names nothing twice. -/
structure Destination.WellFormed (d : Destination) : Prop where
  absolute : Uri.isAbsolute d.start.toList = true
  modes : ∀ modes ∈ d.filterModes, (Ordered.names modes).Nodup
  actions : ∀ actions ∈ d.quickActions, (Ordered.names actions).Nodup

private theorem DomRules.toDocument_ne_null (r : DomRules) : r.toDocument ≠ .null := by
  simp [toDocument]

private theorem writeEntries_ne_null {α : Type} {write : α → Value} (entries : Ordered α) :
    writeEntries write entries ≠ .null := by
  simp [writeEntries]

private theorem Destination.holds_toDocument {d : Destination} (h : d.WellFormed) :
    HoldsRecord HeldIn d.toDocument d := by
  refine ⟨_, rfl, ?_⟩
  exact {
    start := by simp [Ordered.get?_cons]
    absolute := h.absolute
    allow := by simp [Ordered.get?_cons]
    block := by simp [Ordered.get?_cons]
    dom := by
      simpa [get?_append, Ordered.get?_cons, get?_optionalMember] using
        rel_given_map DomRules.toDocument_ne_null fun r _ => r.holds_toDocument
    filterModes := by
      simpa [get?_append, Ordered.get?_cons, get?_optionalMember] using
        rel_given_map writeEntries_ne_null fun _ _ =>
          holdsEntries_writeEntries fun e _ => e.2.holds_toDocument
    quickActions := by
      simpa [get?_append, Ordered.get?_cons, get?_optionalMember] using
        rel_given_map writeEntries_ne_null fun _ _ => holdsEntries_writeEntries fun _ _ => rfl }

private theorem Destination.legible_toDocument (depth : Nat) {d : Destination} (h : d.WellFormed) :
    d.toDocument.Legible (depth + 4) := by
  refine .object ?_ ?_
  · cases d.dom <;> cases d.filterModes <;> cases d.quickActions <;>
      simp [Ordered.names, optionalMember]
  · simp only [List.forall_mem_append, List.forall_mem_cons, forall_mem_optionalMember]
    refine ⟨⟨⟨⟨.string _ _, legible_ofStrings _ _, legible_ofStrings _ _, by simp⟩, ?_⟩, ?_⟩, ?_⟩
    · exact fun r _ => r.legible_toDocument (depth + 1)
    · intro modes hmodes
      exact legible_writeEntries (h.modes modes hmodes) fun e _ => e.2.legible_toDocument depth
    · intro actions hactions
      exact legible_writeEntries (h.actions actions hactions) fun e _ => .string _ e.2

structure Policy.WellFormed (p : Policy) : Prop where
  ids : p.ids.Nodup
  destinations : ∀ e ∈ p.destinations, e.2.WellFormed

private theorem Policy.holds_toDocument {p : Policy} (h : p.WellFormed) :
    HoldsRecord HeldIn p.toDocument p := by
  refine ⟨_, rfl, ?_⟩
  exact {
    version := by simp [Ordered.get?_cons]
    filterModeDefault := by
      simp [get?_append, Ordered.get?_cons, get?_optionalMember, given_map]
    destinations := by
      refine ⟨writeEntries Destination.toDocument p.destinations, ?_, ?_⟩
      · simp [get?_append, Ordered.get?_cons, get?_optionalMember]
      · exact holdsEntries_writeEntries fun e he =>
          Destination.holds_toDocument (h.destinations e he) }

theorem Policy.legible_toDocument {p : Policy} (h : p.WellFormed) : p.toDocument.Legible 6 := by
  refine .object ?_ ?_
  · cases p.filterModeDefault <;> simp [Ordered.names, optionalMember]
  · simp only [List.forall_mem_append, List.forall_mem_cons, forall_mem_optionalMember]
    refine ⟨⟨⟨.string _ _, by simp⟩, fun l _ => .string _ _⟩, ?_, by simp⟩
    exact legible_writeEntries h.ids fun e he =>
      Destination.legible_toDocument 0 (h.destinations e he)

/-- A well-formed policy is read back from its text. -/
theorem Policy.ofText_text {p : Policy} (h : p.WellFormed) : ofText p.text = .ok p := by
  have hlegible := legible_toDocument h
  have hread : Value.ofText p.text = .ok p.toDocument :=
    Value.ofText_compact hlegible (by decide)
  rw [ofText, hread]
  exact ofDocument_of_holds hlegible.distinct (holds_toDocument h)

/-! ## Policies that were read -/

private theorem Destination.wellFormed_of_holds {v : Value} {d : Destination} (hv : v.Distinct)
    (h : HoldsRecord HeldIn v d) : d.WellFormed := by
  obtain ⟨ms, rfl, h⟩ := h
  exact {
    absolute := h.absolute
    modes := by
      intro modes hmodes
      obtain ⟨w, hw, hentries⟩ := exists_of_rel_given hv h.filterModes hmodes
      exact hentries.nodup_names hw
    actions := by
      intro actions hactions
      obtain ⟨w, hw, hentries⟩ := exists_of_rel_given hv h.quickActions hactions
      exact hentries.nodup_names hw }

private theorem Policy.wellFormed_of_holds {v : Value} {p : Policy} (hv : v.Distinct)
    (h : HoldsRecord HeldIn v p) : p.WellFormed := by
  obtain ⟨ms, rfl, h⟩ := h
  obtain ⟨w, hw, hentries⟩ := h.destinations
  have hdistinct := hv.of_get? "destinations" w hw
  exact {
    ids := hentries.nodup_names hdistinct
    destinations := by
      intro e he
      obtain ⟨w, hw, hd⟩ := hentries.exists_of_mem hdistinct he
      exact Destination.wellFormed_of_holds hw hd }

/-- A policy that was read is read again from its text, and is written as the same text then. -/
theorem Policy.ofText_text_of_ofDocument {doc : Value} {p : Policy} (hdistinct : doc.Distinct)
    (h : ofDocument doc = .ok p) :
    ofText p.text = .ok p ∧ ∀ q, ofText p.text = .ok q → q.text = p.text := by
  have hread : ofText p.text = .ok p :=
    ofText_text (wellFormed_of_holds hdistinct (holds_of_ofDocument hdistinct h))
  refine ⟨hread, fun q hq => ?_⟩
  rw [hread] at hq
  cases hq
  rfl

/-- A document with signs that a text escapes, and with parts that are empty and parts that are
not there. -/
def exoticDocument : Value :=
  .object [
    ("destinations", .object [
      ("", .object [("start", .string "urn:a"), ("allow", .array [.string "\"\\\x01\n\x7fé😀"]),
        ("block", .array []), ("dom", .object []), ("filterModes", .null),
        ("quickActions", .object [])])]),
    ("version", .string "\t")]

def exoticPolicy : Policy where
  version := "\t"
  destinations := [("", {
    start := "urn:a"
    allow := ["\"\\\x01\n\x7fé😀"]
    block := []
    dom := some {}
    quickActions := some [] })]

/-- A policy with signs that have to be escaped is read back from its text. -/
theorem exoticPolicy_round_trip :
    exoticDocument.Distinct ∧ Policy.ofDocument exoticDocument = .ok exoticPolicy ∧
      Policy.ofText exoticPolicy.text = .ok exoticPolicy := by
  have hdistinct : exoticDocument.Distinct := by decide
  have hread : Policy.ofDocument exoticDocument = .ok exoticPolicy :=
    Policy.ofDocument_eq_ok.2 ⟨by decide +kernel, rfl⟩
  exact ⟨hdistinct, hread, (Policy.ofText_text_of_ofDocument hdistinct hread).1⟩

end NavPolicy
