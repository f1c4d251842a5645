import Mathlib.Data.List.Pairwise
import NavPolicy.Json.Pointer
import NavPolicy.Proofs.Json.Distinct

/-!
# Places in the order of a document

A pointer gives back the keys that it was made from, and the positions of two places compare
as the places come in the document.  Sorting by position keeps the order of what is found at
one place, which leaves a single way to list what was found.
-/

namespace NavPolicy.Json

/-! ## Pointers -/

namespace Pointer

variable {digit sign c : Char} {rest : List Char}

theorem replaceMark_cons_of_ne (h : c ≠ '~') :
    replaceMark digit sign (c :: rest) = c :: replaceMark digit sign rest := by
  cases rest with
  | nil => rfl
  | cons d rest => simp [replaceMark, h]

theorem replaceMark_mark :
    replaceMark digit sign ('~' :: digit :: rest) = sign :: replaceMark digit sign rest := by
  simp [replaceMark]

private theorem replaceMark_other {other : Char} (hother : other ≠ digit) (htilde : other ≠ '~') :
    replaceMark digit sign ('~' :: other :: rest) =
      '~' :: other :: replaceMark digit sign rest := by
  rw [replaceMark, if_neg (by simp [hother]), replaceMark_cons_of_ne htilde]

private theorem escapeKey_cons (c : Char) (key : List Char) :
    escapeKey (c :: key) =
      (if c = '~' then ['~', '0'] else if c = '/' then ['~', '1'] else [c]) ++ escapeKey key :=
  rfl

/-- Between the two replacements only the tildes are still written as marks. -/
theorem replaceMark_escapeKey (key : List Char) :
    replaceMark '1' '/' (escapeKey key) =
      key.flatMap fun c => if c = '~' then ['~', '0'] else [c] := by
  induction key with
  | nil => rfl
  | cons c key ih =>
      rw [escapeKey_cons, List.flatMap_cons, ← ih]
      by_cases htilde : c = '~'
      · subst htilde
        exact replaceMark_other (by decide) (by decide)
      · by_cases hslash : c = '/'
        · subst hslash
          exact replaceMark_mark
        · rw [if_neg htilde, if_neg hslash, if_neg htilde]
          exact replaceMark_cons_of_ne htilde

private theorem unescapeKey_escapeKey (key : List Char) : unescapeKey (escapeKey key) = key := by
  rw [unescapeKey, replaceMark_escapeKey]
  induction key with
  | nil => rfl
  | cons c key ih =>
      rw [List.flatMap_cons]
      by_cases htilde : c = '~'
      · subst htilde
        rw [if_pos rfl]
        exact replaceMark_mark.trans (congrArg _ ih)
      · rw [if_neg htilde]
        exact (replaceMark_cons_of_ne htilde).trans (congrArg _ ih)

private theorem slash_not_mem_escapeKey (key : List Char) : '/' ∉ escapeKey key := by
  intro h
  obtain ⟨c, -, hc⟩ := List.mem_flatMap.1 h
  by_cases htilde : c = '~'
  · simp [htilde] at hc
  · by_cases hslash : c = '/'
    · simp [hslash] at hc
    · simp [htilde, hslash, Ne.symm hslash] at hc

private theorem splitOnP_parts {parts : List (List Char)} (hparts : ∀ part ∈ parts, '/' ∉ part)
    {first : List Char} (hfirst : '/' ∉ first) :
    (first ++ parts.flatMap fun part => '/' :: part).splitOnP (· == '/') = first :: parts := by
  have hnone : ∀ {part : List Char}, '/' ∉ part → ∀ c ∈ part, (c == '/') = false := by
    intro part hpart c hc
    exact beq_eq_false_iff_ne.2 fun h => hpart (h ▸ hc)
  induction parts generalizing first with
  | nil =>
      rw [List.flatMap_nil, List.append_nil]
      exact List.splitOnP_eq_singleton (hnone hfirst)
  | cons part parts ih =>
      rw [List.forall_mem_cons] at hparts
      rw [List.flatMap_cons, List.cons_append]
      rw [List.splitOnP_append_cons_of_forall_mem (hnone hfirst) '/' rfl]
      rw [ih hparts.2 hparts.1]

/-- A pointer names the keys that it was made from, whatever they contain. -/
theorem keys_ofKeys (keys : List String) : Pointer.keys (ofKeys keys) = keys := by
  have hparts : ∀ part ∈ keys.map fun key => escapeKey key.toList, '/' ∉ part := by
    intro part hpart
    obtain ⟨key, -, rfl⟩ := List.mem_map.1 hpart
    exact slash_not_mem_escapeKey _
  have hsplit := splitOnP_parts hparts List.not_mem_nil
  rw [List.nil_append, List.flatMap_map] at hsplit
  rw [Pointer.keys, ofKeys, String.toList_ofList, hsplit, List.drop_one, List.tail_cons,
    List.map_map]
  have hkey : ∀ key : String, String.ofList (unescapeKey (escapeKey key.toList)) = key := by
    intro key
    rw [unescapeKey_escapeKey, String.ofList_toList]
  exact (List.map_congr_left fun key _ => hkey key).trans (List.map_id keys)

end Pointer

/-! ## Positions -/

/-- The key of an item stands for its index, if that fits a word. -/
theorem indexOfKey?_toString (i : Nat) :
    indexOfKey? (toString i) = if i < Nat.pow 2 64 then some i else none := by
  have hdigits : (toString i).toList = Nat.toDigits 10 i := String.toList_ofList
  have hall : ∀ c ∈ Nat.toDigits 10 i, c.isDigit = true := fun c hc =>
    Nat.isDigit_of_mem_toDigits (by decide) (by decide) hc
  have hplus : (toString i).startsWith "+" = false := by
    rw [Bool.eq_false_iff, ne_eq, String.startsWith_string_iff, hdigits]
    rintro ⟨more, hmore⟩
    exact absurd (hall '+' (hmore ▸ List.mem_cons_self)) (by decide)
  have hempty : (toString i).isEmpty = false := by
    rw [Bool.eq_false_iff, ne_eq, String.isEmpty_iff, ← String.toList_eq_nil_iff, hdigits]
    exact Nat.toDigits_ne_nil
  have hvalue : (Nat.toDigits 10 i).foldl (fun n c => 10 * n + (c.toNat - 48)) 0 = i :=
    Nat.ofDigitChars_toDigits (by decide) (by decide)
  have hdigit : (Nat.toDigits 10 i).all Char.isDigit = true := List.all_eq_true.2 hall
  simp only [indexOfKey?, hplus, Bool.false_eq_true, if_false, hempty, hdigits, hdigit, hvalue,
    Bool.not_true, Bool.or_self]

/-- Positions are compared from the outside in. -/
theorem positionLe_cons_iff {i j : Nat} {a b : List Nat} :
    positionLe (i :: a) (j :: b) = true ↔ i < j ∨ i = j ∧ positionLe a b = true := by
  simp [positionLe]

/-- A position comes no later than itself. -/
theorem positionLe_refl (a : List Nat) : positionLe a a = true := by
  induction a with
  | nil => rfl
  | cons i a ih => exact positionLe_cons_iff.2 (Or.inr ⟨rfl, ih⟩)

/-- Of two positions one comes first, or they are the same. -/
theorem positionLe_total (a b : List Nat) : (positionLe a b || positionLe b a) = true := by
  induction a generalizing b with
  | nil => rfl
  | cons i a ih =>
      cases b with
      | nil => rfl
      | cons j b =>
          have htails := ih b
          rw [Bool.or_eq_true] at htails ⊢
          rw [positionLe_cons_iff, positionLe_cons_iff]
          rcases Nat.lt_trichotomy i j with hlt | rfl | hgt
          · exact Or.inl (Or.inl hlt)
          · exact htails.imp (fun h => Or.inr ⟨rfl, h⟩) (fun h => Or.inr ⟨rfl, h⟩)
          · exact Or.inr (Or.inl hgt)

/-- The order of positions is transitive. -/
theorem positionLe_trans (a b c : List Nat) (hab : positionLe a b = true)
    (hbc : positionLe b c = true) : positionLe a c = true := by
  induction a generalizing b c with
  | nil => rfl
  | cons i a ih =>
      cases b with
      | nil => cases hab
      | cons j b =>
          cases c with
          | nil => cases hbc
          | cons k c =>
              rw [positionLe_cons_iff] at hab hbc ⊢
              rcases hab with hij | ⟨rfl, hab⟩
              · rcases hbc with hjk | ⟨rfl, -⟩
                · exact Or.inl (Nat.lt_trans hij hjk)
                · exact Or.inl hij
              · exact hbc.imp_right fun h => ⟨h.1, ih b c hab h.2⟩

theorem positionLe_antisymm {a b : List Nat} (hab : positionLe a b = true)
    (hba : positionLe b a = true) : a = b := by
  induction a generalizing b with
  | nil =>
      cases b with
      | nil => rfl
      | cons j b => cases hba
  | cons i a ih =>
      cases b with
      | nil => cases hab
      | cons j b =>
          rw [positionLe_cons_iff] at hab hba
          rcases hab with hij | ⟨rfl, hab⟩
          · rcases hba with hji | ⟨rfl, -⟩
            · exact absurd hij (Nat.lt_asymm hji)
            · exact absurd hij (Nat.lt_irrefl _)
          · rcases hba with hji | ⟨-, hba⟩
            · exact absurd hji (Nat.lt_irrefl _)
            · rw [ih hab hba]

/-- A member is counted by its name's place in the object. -/
theorem position_member {members : Members} {name : String} {v : Value}
    (h : Ordered.get? members name = some v) (keys : List String) :
    position (.object members) (name :: keys) =
      (Ordered.names members).idxOf name :: position v keys := by
  rw [position, positionFrom, step, h]
  rfl

/-- A member that is not there stands behind all that are. -/
theorem position_missing {members : Members} {name : String}
    (h : Ordered.get? members name = none) :
    position (.object members) [name] = [members.length] := by
  have habsent : ∀ other ∈ Ordered.names members, (other == name) = false := by
    intro other hother
    rw [beq_eq_false_iff_ne]
    rintro rfl
    exact Ordered.get?_eq_none_iff.1 h hother
  have hindex := List.findIdx_eq_length.2 habsent
  rw [Ordered.names, List.length_map] at hindex
  rw [position, positionFrom, step]
  simp only [Ordered.names, hindex]
  rfl

theorem position_item (items : List Value) (i : Nat) :
    position (.array items) [toString i] = [if i < Nat.pow 2 64 then i else items.length] := by
  simp only [position, positionFrom, step, indexOfKey?_toString]
  split <;> rfl

/-! ## Sorting -/

section Sorting

variable {α : Type} {place : α → List Nat}

private theorem mem_iff_of_filter_eq {found sorted : List α}
    (hsame : ∀ k, found.filter (place · = k) = sorted.filter (place · = k)) (a : α) :
    a ∈ found ↔ a ∈ sorted := by
  have h : a ∈ found.filter (place · = place a) ↔ a ∈ sorted.filter (place · = place a) := by
    rw [hsame]
  simpa using h

/-- Two lists that are sorted by position are the same if they have the same entries, in the same
order, at each position. -/
theorem eq_of_filter_eq {found sorted : List α}
    (hfound : found.Pairwise fun a b => positionLe (place a) (place b) = true)
    (hsorted : sorted.Pairwise fun a b => positionLe (place a) (place b) = true)
    (hsame : ∀ k, found.filter (place · = k) = sorted.filter (place · = k)) : found = sorted := by
  have hmem := mem_iff_of_filter_eq hsame
  induction found generalizing sorted with
  | nil =>
      cases sorted with
      | nil => rfl
      | cons b sorted => cases (hmem b).2 List.mem_cons_self
  | cons a found ih =>
      cases sorted with
      | nil => cases (hmem a).1 List.mem_cons_self
      | cons b sorted =>
          rw [List.pairwise_cons] at hfound hsorted
          -- Both heads have the least position, and at that position both come first.
          have hplace : place b = place a := by
            apply positionLe_antisymm
            · rcases List.mem_cons.1 ((hmem a).1 List.mem_cons_self) with rfl | ha
              · exact positionLe_refl _
              · exact hsorted.1 a ha
            · rcases List.mem_cons.1 ((hmem b).2 List.mem_cons_self) with rfl | hb
              · exact positionLe_refl _
              · exact hfound.1 b hb
          have hheads := hsame (place a)
          rw [List.filter_cons_of_pos (by simp),
            List.filter_cons_of_pos (by simp [hplace])] at hheads
          obtain ⟨rfl, -⟩ := List.cons.inj hheads
          have htails : ∀ k, found.filter (place · = k) = sorted.filter (place · = k) := by
            intro k
            have h := hsame k
            by_cases hk : place a = k
            · rw [List.filter_cons_of_pos (by simpa using hk),
                List.filter_cons_of_pos (by simpa using hk)] at h
              exact (List.cons.inj h).2
            · rwa [List.filter_cons_of_neg (by simpa using hk),
                List.filter_cons_of_neg (by simpa using hk)] at h
          exact congrArg _ (ih hfound.2 hsorted.2 htails (mem_iff_of_filter_eq htails))

/-- Sorting leaves what is at one position in its order. -/
theorem filter_mergeSort (l : List α) (k : List Nat) :
    (l.mergeSort fun a b => positionLe (place a) (place b)).filter (place · = k) =
      l.filter (place · = k) := by
  have hties : (l.filter (place · = k)).Pairwise fun a b =>
      positionLe (place a) (place b) = true := by
    refine List.pairwise_of_forall_mem_list fun a ha b hb => ?_
    have hka : place a = k := by simpa using (List.mem_filter.1 ha).2
    have hkb : place b = k := by simpa using (List.mem_filter.1 hb).2
    rw [hka, hkb]
    exact positionLe_refl k
  have hkept : (l.filter (place · = k)).Sublist
      ((l.mergeSort fun a b => positionLe (place a) (place b)).filter (place · = k)) := by
    have hsub := List.sublist_mergeSort
      (fun a b c => positionLe_trans (place a) (place b) (place c))
      (fun a b => positionLe_total (place a) (place b)) hties List.filter_sublist
    simpa [List.filter_filter] using hsub.filter (place · = k)
  exact (hkept.eq_of_length ((l.mergeSort_perm _).filter _).length_eq.symm).symm

/-- There is one way to sort by position without moving what is at the same position. -/
theorem mergeSort_eq {l sorted : List α}
    (hsorted : sorted.Pairwise fun a b => positionLe (place a) (place b) = true)
    (hsame : ∀ k, sorted.filter (place · = k) = l.filter (place · = k)) :
    (l.mergeSort fun a b => positionLe (place a) (place b)) = sorted := by
  refine eq_of_filter_eq ?_ hsorted fun k => ?_
  · exact List.pairwise_mergeSort (fun a b c => positionLe_trans (place a) (place b) (place c))
      (fun a b => positionLe_total (place a) (place b)) l
  · rw [filter_mergeSort, hsame]

end Sorting

end NavPolicy.Json
