import NavPolicy.Json.Parser
import NavPolicy.Proofs.Success

/-!
# Documents without repeated names

A text may give a member twice, but the document that is read from it does not: the later
value takes the place of the earlier one.  `Value.Distinct` says so of a whole document, and
holds of everything that is read.
-/

namespace NavPolicy.Json

namespace Ordered

variable {α : Type}

private theorem mem_insert {name : String} {a : α} {entries : Ordered α} {e : String × α}
    (h : e ∈ insert name a entries) : e = (name, a) ∨ e ∈ entries := by
  induction entries with
  | nil => simpa [insert] using h
  | cons d rest ih =>
      rw [insert] at h
      split at h
      · rcases List.mem_cons.1 h with rfl | h
        · exact Or.inl rfl
        · exact Or.inr (List.mem_cons_of_mem _ h)
      · rcases List.mem_cons.1 h with rfl | h
        · exact Or.inr List.mem_cons_self
        · rcases ih h with h | h
          · exact Or.inl h
          · exact Or.inr (List.mem_cons_of_mem _ h)

private theorem nodup_names_insert {name : String} {a : α} {entries : Ordered α}
    (h : (names entries).Nodup) : (names (insert name a entries)).Nodup := by
  rw [names_insert]
  split
  · exact h
  · rename_i hnew
    rw [List.nodup_append]
    refine ⟨h, List.nodup_cons.2 ⟨List.not_mem_nil, List.nodup_nil⟩, ?_⟩
    intro x hx y hy hxy
    rw [List.mem_singleton.1 hy] at hxy
    exact hnew (hxy ▸ hx)

theorem ofList_spec (entries : List (String × α)) :
    (names (ofList entries)).Nodup ∧ ∀ e ∈ ofList entries, e ∈ entries := by
  have hfold : ∀ (more : List (String × α)) (found : Ordered α), (names found).Nodup →
      (names (more.foldl (fun found e => insert e.1 e.2 found) found)).Nodup ∧
        ∀ e ∈ more.foldl (fun found e => insert e.1 e.2 found) found, e ∈ found ∨ e ∈ more := by
    intro more
    induction more with
    | nil => exact fun found h => ⟨h, fun e he => Or.inl he⟩
    | cons d more ih =>
        intro found h
        obtain ⟨hnodup, hmem⟩ := ih (insert d.1 d.2 found) (nodup_names_insert h)
        refine ⟨hnodup, fun e he => ?_⟩
        rcases hmem e he with he | he
        · rcases mem_insert he with rfl | he
          · exact Or.inr List.mem_cons_self
          · exact Or.inl he
        · exact Or.inr (List.mem_cons_of_mem _ he)
  obtain ⟨hnodup, hmem⟩ := hfold entries [] List.nodup_nil
  refine ⟨hnodup, fun e he => ?_⟩
  simpa using hmem e he

/-- Where no name comes twice, every entry is found under its name. -/
theorem get?_of_mem {entries : Ordered α} (hnames : (names entries).Nodup) {name : String} {a : α}
    (h : (name, a) ∈ entries) : get? entries name = some a := by
  induction entries with
  | nil => cases h
  | cons e rest ih =>
      simp only [names, List.map_cons, List.nodup_cons] at hnames
      rw [get?_cons]
      rcases List.mem_cons.1 h with rfl | h
      · simp
      · have hne : e.1 ≠ name := by
          rintro rfl
          exact hnames.1 (List.mem_map.2 ⟨_, h, rfl⟩)
        rw [if_neg hne]
        exact ih hnames.2 h

theorem mem_of_get? {entries : Ordered α} {name : String} {a : α}
    (h : get? entries name = some a) : (name, a) ∈ entries := by
  obtain ⟨e, he, rfl⟩ := Option.map_eq_some_iff.1 h
  have hname : e.1 = name := by simpa using List.find?_some he
  subst hname
  exact List.mem_of_find?_eq_some he

theorem mem_names_of_get? {entries : Ordered α} {name : String} {a : α}
    (h : get? entries name = some a) : name ∈ names entries :=
  List.mem_map.2 ⟨_, mem_of_get? h, rfl⟩

/-- An entry is missing exactly if its name is. -/
theorem get?_eq_none_iff {entries : Ordered α} {name : String} :
    get? entries name = none ↔ name ∉ names entries := by
  rw [get?, Option.map_eq_none_iff, List.find?_eq_none, names, List.mem_map]
  simp only [beq_iff_eq, not_exists, not_and]

private theorem insert_of_notMem {e : String × α} {found : Ordered α} (he : e.1 ∉ names found) :
    insert e.1 e.2 found = found ++ [e] := by
  induction found with
  | nil => rfl
  | cons d found ih =>
      simp only [names, List.map_cons, List.mem_cons, not_or] at he
      rw [insert, if_neg (by simpa using Ne.symm he.1), ih he.2, List.cons_append]

private theorem foldl_insert {more found : Ordered α} (h : (names (found ++ more)).Nodup) :
    more.foldl (fun found e => insert e.1 e.2 found) found = found ++ more := by
  induction more generalizing found with
  | nil => exact (List.append_nil found).symm
  | cons e more ih =>
      have hnew : e.1 ∉ names found := by
        intro hmem
        rw [names, List.map_append, List.nodup_append] at h
        exact h.2.2 e.1 hmem e.1 List.mem_cons_self rfl
      have happend : found ++ e :: more = found ++ [e] ++ more := by simp
      rw [happend] at h ⊢
      rw [List.foldl_cons, insert_of_notMem hnew, ih h]

/-- Where no name comes twice, setting the entries one by one gives them back. -/
theorem ofList_eq_self {entries : List (String × α)} (h : (names entries).Nodup) :
    ofList entries = entries :=
  foldl_insert h

end Ordered

/-- A document in which no object gives a name twice. -/
inductive Value.Distinct : Value → Prop where
  | null : Distinct .null
  | bool (b) : Distinct (.bool b)
  | number (n) : Distinct (.number n)
  | string (s) : Distinct (.string s)
  | array {items : List Value} (hitems : ∀ v ∈ items, Distinct v) : Distinct (.array items)
  | object {members : Members} (hnames : (Ordered.names members).Nodup)
      (hmembers : ∀ m ∈ members, Distinct m.2) : Distinct (.object members)

namespace Value

mutual

def isDistinct : Value → Bool
  | array items => areDistinct items
  | object members => decide (members.map Prod.fst).Nodup && membersAreDistinct members
  | _ => true

def areDistinct : List Value → Bool
  | [] => true
  | v :: rest => isDistinct v && areDistinct rest

def membersAreDistinct : List (String × Value) → Bool
  | [] => true
  | (_, v) :: rest => isDistinct v && membersAreDistinct rest

end

mutual

theorem isDistinct_iff : ∀ v : Value, v.isDistinct = true ↔ v.Distinct
  | null => iff_of_true rfl .null
  | bool b => iff_of_true rfl (.bool b)
  | number n => iff_of_true rfl (.number n)
  | string s => iff_of_true rfl (.string s)
  | array items => by
    rw [isDistinct, areDistinct_iff items]
    constructor
    · exact .array
    · intro h
      cases h with
      | array hitems => exact hitems
  | object members => by
    rw [isDistinct, Bool.and_eq_true, decide_eq_true_iff, membersAreDistinct_iff members]
    constructor
    · exact fun h => .object h.1 h.2
    · intro h
      cases h with
      | object hnames hmembers => exact ⟨hnames, hmembers⟩

theorem areDistinct_iff : ∀ items : List Value,
    areDistinct items = true ↔ ∀ v ∈ items, v.Distinct
  | [] => by simp [areDistinct]
  | v :: rest => by
    rw [areDistinct, Bool.and_eq_true, isDistinct_iff v, areDistinct_iff rest, List.forall_mem_cons]

theorem membersAreDistinct_iff : ∀ members : List (String × Value),
    membersAreDistinct members = true ↔ ∀ m ∈ members, m.2.Distinct
  | [] => by simp [membersAreDistinct]
  | (_, v) :: rest => by
    rw [membersAreDistinct, Bool.and_eq_true, isDistinct_iff v, membersAreDistinct_iff rest,
      List.forall_mem_cons]

end

instance (v : Value) : Decidable v.Distinct := decidable_of_iff _ (isDistinct_iff v)

end Value

namespace Cursor

private theorem forall_mem_items {α : Type} {item : Cursor → Read α} {P : α → Prop}
    (hitem : ∀ cur v cur', item cur = .ok (v, cur') → P v) {fuel : Nat} {found vs : List α}
    {cur cur' : Cursor} (hfound : ∀ v ∈ found, P v)
    (h : items item fuel found cur = .ok (vs, cur')) : ∀ v ∈ vs, P v := by
  induction fuel generalizing found cur with
  | zero => cases h
  | succ fuel ih =>
      rw [items] at h
      split at h
      · cases h
      · cases h
        intro v hv
        exact hfound v (List.mem_reverse.1 hv)
      · split at h
        · cases h
        · rename_i v next hv
          exact ih (List.forall_mem_cons.2 ⟨hitem _ _ _ hv, hfound⟩) h

theorem forall_mem_members {α : Type} {strings : Nat} {item : Cursor → Read α} {P : α → Prop}
    (hitem : ∀ cur v cur', item cur = .ok (v, cur') → P v) {fuel : Nat}
    {found ms : List (String × α)} {cur cur' : Cursor} (hfound : ∀ m ∈ found, P m.2)
    (h : members strings item fuel found cur = .ok (ms, cur')) : ∀ m ∈ ms, P m.2 := by
  induction fuel generalizing found cur with
  | zero => cases h
  | succ fuel ih =>
      rw [members] at h
      split at h
      · cases h
      · cases h
        intro m hm
        exact hfound m (List.mem_reverse.1 hm)
      · split at h
        · cases h
        · split at h
          · cases h
          · split at h
            · cases h
            · rename_i v next hv
              exact ih (List.forall_mem_cons.2 ⟨hitem _ _ _ hv, hfound⟩) h

private theorem distinct_scalar {fuel : Nat} {cur cur' : Cursor} {c : Char} {v : Value}
    (h : scalar fuel cur c = .ok (v, cur')) : v.Distinct := by
  unfold scalar at h
  split at h
  · obtain ⟨_, -, h⟩ := map_eq_ok.1 h
    cases h
    exact .null
  · obtain ⟨_, -, h⟩ := map_eq_ok.1 h
    cases h
    exact .bool _
  · obtain ⟨_, -, h⟩ := map_eq_ok.1 h
    cases h
    exact .bool _
  · obtain ⟨_, -, h⟩ := map_eq_ok.1 h
    cases h
    exact .number _
  · obtain ⟨_, -, h⟩ := map_eq_ok.1 h
    cases h
    exact .string _
  · split at h
    · obtain ⟨_, -, h⟩ := map_eq_ok.1 h
      cases h
      exact .number _
    · cases h

private theorem distinct_value {fuel depth : Nat} {cur cur' : Cursor} {v : Value}
    (h : value fuel depth cur = .ok (v, cur')) : v.Distinct := by
  induction depth generalizing cur cur' v with
  | zero =>
      unfold value at h
      simp only at h
      split at h
      · cases h
      · cases h
      · cases h
      · exact distinct_scalar h
  | succ depth ih =>
      rw [value] at h
      simp only at h
      split at h
      · cases h
      · obtain ⟨⟨vs, next⟩, hvs, h⟩ := map_eq_ok.1 h
        cases h
        exact .array (forall_mem_items (fun _ _ _ hv => ih hv) (by simp) hvs)
      · obtain ⟨⟨ms, next⟩, hms, h⟩ := map_eq_ok.1 h
        cases h
        obtain ⟨hnames, hmem⟩ := Ordered.ofList_spec ms
        have hmembers := forall_mem_members (P := Value.Distinct) (fun _ _ _ hv => ih hv)
          (by simp) hms
        exact .object hnames fun m hm => hmembers m (hmem m hm)
      · exact distinct_scalar h

end Cursor

/-- A document that is read from a text gives no name twice. -/
theorem Value.distinct_of_ofText {text : String} {doc : Value} (h : ofText text = .ok doc) :
    doc.Distinct := by
  unfold ofText ofChars Cursor.finish at h
  split at h
  · cases h
  · rename_i v cur hread
    simp only at h
    split at h
    · cases h
      exact Cursor.distinct_value hread
    · cases h

end NavPolicy.Json
