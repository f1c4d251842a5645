import NavPolicy.Proofs.Json.Places

/-!
# Document order

The nodes of a document, listed from its beginning to its end, come each in front of the nodes
below it.  A path that leads to a node leads to a number in that list, and the positions of two
paths compare as these numbers do.
-/

namespace NavPolicy.Json

namespace Value

/-- The documents right below a document. -/
def children : Value → List Value
  | .array items => items
  | .object members => members.map Prod.snd
  | _ => []

mutual

/-- The nodes of a document in document order: the document itself, and then the nodes of its
items or members, one after the other. -/
def nodes : Value → List Value
  | .array items => .array items :: itemNodes items
  | .object members => .object members :: memberNodes members
  | v => [v]

def itemNodes : List Value → List Value
  | [] => []
  | v :: rest => nodes v ++ itemNodes rest

def memberNodes : List (String × Value) → List Value
  | [] => []
  | (_, v) :: rest => nodes v ++ memberNodes rest

end

/-- The keys lead from a document to the node with a number in the list of its nodes.  A name
leads to the first member that has it, and an index to its item. -/
inductive Leads : Value → List String → Nat → Prop where
  | here (v : Value) : Leads v [] 0
  | member {before after : Members} {key : String} {v : Value} {keys : List String} {n : Nat}
      (hfirst : key ∉ Ordered.names before) (hbelow : Leads v keys n) :
      Leads (.object (before ++ (key, v) :: after)) (key :: keys)
        (1 + (memberNodes before).length + n)
  | item {before after : List Value} {key : String} {v : Value} {keys : List String} {n : Nat}
      (hindex : indexOfKey? key = some before.length) (hbelow : Leads v keys n) :
      Leads (.array (before ++ v :: after)) (key :: keys) (1 + (itemNodes before).length + n)

/-- What stands at the end of a path, if anything does. -/
def at? (doc : Value) (keys : List String) : Option Value :=
  keys.foldl (fun node key => (step node key).2) (some doc)

/-! ## The list of nodes -/

theorem itemNodes_eq (items : List Value) : itemNodes items = items.flatMap nodes := by
  induction items with
  | nil => rfl
  | cons v rest ih => rw [itemNodes, ih, List.flatMap_cons]

theorem memberNodes_eq (members : Members) :
    memberNodes members = (members.map Prod.snd).flatMap nodes := by
  induction members with
  | nil => rfl
  | cons m rest ih => rw [memberNodes, ih, List.map_cons, List.flatMap_cons]

/-- The nodes of a document in preorder: itself, then those below. -/
theorem nodes_eq (v : Value) : v.nodes = v :: v.children.flatMap nodes := by
  cases v with
  | array items => rw [nodes, itemNodes_eq, children]
  | object members => rw [nodes, memberNodes_eq, children]
  | _ => rfl

/-- The nodes of a child stand behind the document and the nodes of the children before it. -/
theorem nodes_getElem?_child {v child : Value} {before after : List Value}
    (hchildren : v.children = before ++ child :: after) {n : Nat} (hn : n < child.nodes.length) :
    v.nodes[1 + (before.flatMap nodes).length + n]? = child.nodes[n]? := by
  rw [nodes_eq, hchildren, List.flatMap_append, List.flatMap_cons, Nat.add_assoc, Nat.add_comm 1,
    List.getElem?_cons_succ, List.getElem?_append_right (Nat.le_add_right _ _),
    Nat.add_sub_cancel_left, List.getElem?_append_left hn]

theorem lt_length_nodes {v child : Value} {before after : List Value}
    (hchildren : v.children = before ++ child :: after) {n : Nat} (hn : n < child.nodes.length) :
    1 + (before.flatMap nodes).length + n < v.nodes.length := by
  rw [nodes_eq, hchildren, List.flatMap_append, List.flatMap_cons, List.length_cons,
    List.length_append, List.length_append]
  omega

/-- The nodes of a child stand in front of those of the children behind it. -/
theorem number_lt_number {child other : Value} {before before' after after' : List Value}
    (hsame : before ++ child :: after = before' ++ other :: after')
    (hlt : before.length < before'.length) {n : Nat} (hn : n < child.nodes.length) (n' : Nat) :
    1 + (before.flatMap nodes).length + n < 1 + (before'.flatMap nodes).length + n' := by
  have hchild : before ++ [child] <+: before' ++ other :: after' := by
    rw [← hsame]
    exact ⟨after, by simp⟩
  have hfront : before ++ [child] <+: before' := by
    refine List.prefix_of_prefix_length_le hchild (List.prefix_append _ _) ?_
    rw [List.length_append]
    exact hlt
  obtain ⟨between, rfl⟩ := hfront
  simp only [List.flatMap_append, List.flatMap_singleton, List.length_append]
  omega

/-! ## Paths -/

namespace Leads

variable {doc v : Value} {key : String} {keys : List String} {n : Nat}

theorem nil_inv (h : doc.Leads [] n) : n = 0 := by
  cases h
  rfl

/-- The first key leads to a child, which has the key's position, and the others lead on from
there. -/
theorem cons_inv (h : v.Leads (key :: keys) n) :
    ∃ before child after k, v.children = before ++ child :: after ∧
      step (some v) key = (before.length, some child) ∧ child.Leads keys k ∧
      n = 1 + (before.flatMap nodes).length + k := by
  cases h with
  | @member before after _ child _ k hfirst hbelow =>
      refine ⟨before.map Prod.snd, child, after.map Prod.snd, k, ?_, ?_, hbelow, ?_⟩
      · rw [children, List.map_append, List.map_cons]
      · have hother : ∀ name ∈ Ordered.names before, (name == key) = false := by
          intro name hname
          rw [beq_eq_false_iff_ne]
          rintro rfl
          exact hfirst hname
        have hindex : (Ordered.names (before ++ (key, child) :: after)).findIdx (· == key) =
            before.length := by
          have hnames := List.findIdx_eq_length.2 hother
          rw [Ordered.names] at hnames
          rw [Ordered.names, List.map_append, List.map_cons, List.findIdx_append, hnames,
            if_neg (Nat.lt_irrefl _), List.findIdx_cons, beq_self_eq_true, cond_true, Nat.zero_add,
            List.length_map]
        have hget : Ordered.get? (before ++ (key, child) :: after) key = some child := by
          have hnone : before.find? (fun m => m.1 == key) = none := by
            rw [List.find?_eq_none]
            intro m hm
            rw [hother m.1 (List.mem_map_of_mem hm)]
            exact Bool.false_ne_true
          rw [Ordered.get?, List.find?_append, hnone]
          simp
        rw [step, hindex, hget, List.length_map]
      · rw [memberNodes_eq]
  | @item before after _ child _ k hindex hbelow =>
      refine ⟨before, child, after, k, rfl, ?_, hbelow, ?_⟩
      · rw [step, hindex]
        simp
      · rw [itemNodes_eq]

/-- A path leads to one of the nodes. -/
theorem lt_length (h : doc.Leads keys n) : n < doc.nodes.length := by
  induction keys generalizing doc n with
  | nil =>
      rw [h.nil_inv, nodes_eq, List.length_cons]
      exact Nat.zero_lt_succ _
  | cons key keys ih =>
      obtain ⟨before, child, after, k, hchildren, -, hbelow, rfl⟩ := h.cons_inv
      exact lt_length_nodes hchildren (ih hbelow)

/-- The node with the number is the one that stands at the end of the path. -/
theorem at?_eq (h : doc.Leads keys n) : doc.at? keys = doc.nodes[n]? := by
  induction keys generalizing doc n with
  | nil =>
      rw [h.nil_inv, nodes_eq]
      rfl
  | cons key keys ih =>
      obtain ⟨before, child, after, k, hchildren, hstep, hbelow, rfl⟩ := h.cons_inv
      rw [nodes_getElem?_child hchildren hbelow.lt_length, ← ih hbelow, at?, List.foldl_cons, hstep]
      rfl

end Leads

private theorem foldl_step_none (keys : List String) :
    keys.foldl (fun node key => (step node key).2) none = none := by
  induction keys with
  | nil => rfl
  | cons key keys ih => exact ih

/-- A key that leads to a child leads to its number. -/
theorem exists_leads_cons {doc child : Value} {key : String} {keys : List String} {k : Nat}
    (hstep : (step (some doc) key).2 = some child) (hbelow : child.Leads keys k) :
    ∃ n, doc.Leads (key :: keys) n := by
  cases doc with
  | object members =>
      obtain ⟨m, hfind, rfl⟩ := Option.map_eq_some_iff.1 hstep
      obtain ⟨hkey, before, after, rfl, hbefore⟩ := List.find?_eq_some_iff_append.1 hfind
      obtain rfl : m.1 = key := by simpa using hkey
      refine ⟨_, .member (fun hmem => ?_) hbelow⟩
      obtain ⟨other, hother, hname⟩ := List.mem_map.1 hmem
      simpa [hname] using hbefore other hother
  | array items =>
      cases hindex : indexOfKey? key with
      | none => simp [step, hindex] at hstep
      | some i =>
          have hchild : items[i]? = some child := by simpa [step, hindex] using hstep
          obtain ⟨hi, rfl⟩ := List.getElem?_eq_some_iff.1 hchild
          have hsplit : items = items.take i ++ items[i] :: items.drop (i + 1) := by
            rw [List.getElem_cons_drop, List.take_append_drop]
          have hlength : (items.take i).length = i := by
            rw [List.length_take, Nat.min_eq_left (Nat.le_of_lt hi)]
          rw [hsplit]
          exact ⟨_, .item (hlength.symm ▸ hindex) hbelow⟩
  | _ => cases hstep

theorem exists_leads_of_at? {doc v : Value} {keys : List String} (h : doc.at? keys = some v) :
    ∃ n, doc.Leads keys n := by
  induction keys generalizing doc with
  | nil => exact ⟨0, .here doc⟩
  | cons key keys ih =>
      rw [at?, List.foldl_cons] at h
      cases hstep : (step (some doc) key).2 with
      | none =>
          rw [hstep, foldl_step_none] at h
          cases h
      | some child =>
          rw [hstep] at h
          obtain ⟨k, hbelow⟩ := ih h
          exact exists_leads_cons hstep hbelow

end Value

/-! ## Positions -/

private theorem positionLe_iff_not_lt {a b : List Nat} : positionLe a b = true ↔ ¬b < a := by
  induction a generalizing b with
  | nil => simp [positionLe]
  | cons i a ih =>
      cases b with
      | nil => simp [positionLe]
      | cons j b =>
          rw [positionLe_cons_iff, List.cons_lt_cons_iff, ih, not_or, not_and, Nat.not_lt]
          constructor
          · rintro (hlt | ⟨rfl, h⟩)
            · exact ⟨Nat.le_of_lt hlt, fun heq => absurd heq (Nat.ne_of_gt hlt)⟩
            · exact ⟨Nat.le_refl i, fun _ => h⟩
          · rintro ⟨hle, h⟩
            exact (Nat.lt_or_eq_of_le hle).imp_right fun heq => ⟨heq, h heq.symm⟩

/-- An earlier node has a lesser position, and the same node has the same one. -/
theorem position_order {doc : Value} {p q : List String} {m n : Nat} (hp : doc.Leads p m)
    (hq : doc.Leads q n) :
    (m < n → position doc p < position doc q) ∧ (m = n → position doc p = position doc q) := by
  induction p generalizing doc q m n with
  | nil =>
      obtain rfl := hp.nil_inv
      cases q with
      | nil =>
          obtain rfl := hq.nil_inv
          exact ⟨fun h => absurd h (Nat.lt_irrefl 0), fun _ => rfl⟩
      | cons key q =>
          obtain ⟨before, child, after, k, -, -, -, rfl⟩ := hq.cons_inv
          exact ⟨fun _ => List.nil_lt_cons _ _, fun h => by omega⟩
  | cons key p ih =>
      obtain ⟨before, child, after, k, hchildren, hstep, hbelow, rfl⟩ := hp.cons_inv
      cases q with
      | nil =>
          obtain rfl := hq.nil_inv
          exact ⟨fun h => absurd h (Nat.not_lt_zero _), fun h => by omega⟩
      | cons other q =>
          obtain ⟨before', child', after', k', hchildren', hstep', hbelow', rfl⟩ := hq.cons_inv
          have hsame := hchildren.symm.trans hchildren'
          simp only [position, positionFrom, hstep, hstep']
          -- Paths through different children part here; below one child the tails decide.
          rcases Nat.lt_trichotomy before.length before'.length with hlt | heq | hgt
          · have hbefore := Value.number_lt_number hsame hlt hbelow.lt_length k'
            exact ⟨fun _ => List.cons_lt_cons_iff.2 (Or.inl hlt), fun h => by omega⟩
          · obtain ⟨rfl, htails⟩ := List.append_inj hsame heq
            obtain ⟨rfl, -⟩ := List.cons.inj htails
            obtain ⟨hless, hequal⟩ := ih hbelow hbelow'
            refine ⟨fun h => ?_, fun h => ?_⟩
            · exact List.cons_lt_cons_iff.2 (Or.inr ⟨rfl, hless (by omega)⟩)
            · exact congrArg _ (hequal (by omega))
          · have hbehind := Value.number_lt_number hsame.symm hgt hbelow'.lt_length k
            exact ⟨fun h => by omega, fun h => by omega⟩

/-- A pointer gives back the keys that it was made from.  The paths at whose end something stands
are those that lead to a node, and their positions come in document order: that of one path is
less than, equal to or greater than that of another as the node that it leads to comes before, is
or comes after the other's. -/
theorem pointers_and_positions_locate :
    (∀ keys : List String, Pointer.keys (Pointer.ofKeys keys) = keys) ∧
    ∀ doc : Value,
      (∀ keys v, doc.at? keys = some v ↔ ∃ n, doc.Leads keys n ∧ doc.nodes[n]? = some v) ∧
      ∀ {p q : List String} {m n : Nat}, doc.Leads p m → doc.Leads q n →
        (position doc p < position doc q ↔ m < n) ∧ (position doc p = position doc q ↔ m = n) ∧
        (position doc p > position doc q ↔ m > n) ∧
        (positionLe (position doc p) (position doc q) = true ↔ m ≤ n) := by
  refine ⟨Pointer.keys_ofKeys, fun doc => ⟨fun keys v => ⟨fun h => ?_, ?_⟩, ?_⟩⟩
  · obtain ⟨n, hn⟩ := Value.exists_leads_of_at? h
    exact ⟨n, hn, hn.at?_eq.symm.trans h⟩
  · rintro ⟨n, hn, hv⟩
    exact hn.at?_eq.trans hv
  · intro p q m n hp hq
    obtain ⟨hless, hequal⟩ := position_order hp hq
    obtain ⟨hgreater, -⟩ := position_order hq hp
    rw [positionLe_iff_not_lt]
    rcases Nat.lt_trichotomy m n with hlt | rfl | hgt
    · have hbefore := hless hlt
      have hne : position doc p ≠ position doc q := fun h => List.lt_irrefl _ (h ▸ hbefore)
      have hback := List.lt_asymm hbefore
      exact ⟨iff_of_true hbefore hlt, iff_of_false hne (Nat.ne_of_lt hlt),
        iff_of_false hback (Nat.lt_asymm hlt), iff_of_true hback (Nat.le_of_lt hlt)⟩
    · rw [hequal rfl]
      have hirrefl := List.lt_irrefl (position doc q)
      exact ⟨iff_of_false hirrefl (Nat.lt_irrefl m), iff_of_true rfl rfl,
        iff_of_false hirrefl (Nat.lt_irrefl m), iff_of_true hirrefl (Nat.le_refl m)⟩
    · have hbehind := hgreater hgt
      have hne : position doc p ≠ position doc q := fun h => List.lt_irrefl _ (h ▸ hbehind)
      exact ⟨iff_of_false (List.lt_asymm hbehind) (Nat.lt_asymm hgt),
        iff_of_false hne (Nat.ne_of_gt hgt), iff_of_true hbehind hgt,
        iff_of_false (not_not_intro hbehind) (Nat.not_le_of_gt hgt)⟩

/-- A document with names that a pointer escapes, and with one that is empty. -/
def slashedDocument : Value :=
  .object [("a/b", .array [.null, .object [("~1", .bool true)]]), ("", .bool false)]

/-- Keys that hold the signs of pointers still lead to their places. -/
theorem slashedDocument_located :
    slashedDocument.Leads ["a/b", "+1", "~1"] 4 ∧ slashedDocument.Leads [""] 5 ∧
      position slashedDocument ["a/b", "+1", "~1"] < position slashedDocument [""] := by
  have hindex : indexOfKey? "+1" = some [Value.null].length := by decide +kernel
  have hinner : (Value.object [("~1", .bool true)]).Leads ["~1"] 1 :=
    @Value.Leads.member [] [] "~1" _ [] 0 List.not_mem_nil (.here _)
  have hitem : (Value.array [.null, .object [("~1", .bool true)]]).Leads ["+1", "~1"] 3 :=
    @Value.Leads.item [.null] [] "+1" _ ["~1"] 1 hindex hinner
  have hfirst : slashedDocument.Leads ["a/b", "+1", "~1"] 4 :=
    @Value.Leads.member [] [("", .bool false)] "a/b" _ ["+1", "~1"] 3 List.not_mem_nil hitem
  have hlast : slashedDocument.Leads [""] 5 :=
    @Value.Leads.member [("a/b", .array [.null, .object [("~1", .bool true)]])] [] "" _ [] 0
      (by decide) (.here _)
  obtain ⟨hless, -⟩ := (pointers_and_positions_locate.2 slashedDocument).2 hfirst hlast
  exact ⟨hfirst, hlast, hless.2 (by decide)⟩

end NavPolicy.Json
