import Mathlib.Data.List.Basic
import Mathlib.Data.List.Induction

/-!
# First occurrences

A list that is made by adding only what is not there yet holds the first occurrences of all
that was to be added, in their order.
-/

namespace NavPolicy

variable {α : Type} [BEq α] [LawfulBEq α]

/-- A list with something behind it, unless it is there already. -/
def addNew (found : List α) (a : α) : List α :=
  if found.contains a then found else found ++ [a]

theorem addNew_of_mem {found : List α} {a : α} (h : a ∈ found) : addNew found a = found := by
  rw [addNew, if_pos (List.contains_iff_mem.2 h)]

theorem addNew_of_notMem {found : List α} {a : α} (h : a ∉ found) :
    addNew found a = found ++ [a] := by
  rw [addNew, if_neg (by rwa [List.contains_iff_mem])]

theorem nodup_addNew {found : List α} (h : found.Nodup) (a : α) : (addNew found a).Nodup := by
  by_cases hmem : a ∈ found
  · rwa [addNew_of_mem hmem]
  · rw [addNew_of_notMem hmem, List.nodup_append]
    refine ⟨h, List.pairwise_singleton _ _, ?_⟩
    intro b hb c hc hbc
    rw [List.mem_singleton.1 hc] at hbc
    exact hmem (hbc ▸ hb)

/-- Adding one more to a list adds it to the first occurrences, unless it is there. -/
theorem eraseDups_concat (found : List α) (a : α) :
    (found ++ [a]).eraseDups = addNew found.eraseDups a := by
  rw [List.eraseDups_append, addNew]
  by_cases h : a ∈ found <;> simp [List.removeAll, List.eraseDups_cons, h]

/-- Dropping what came before leaves nothing twice. -/
theorem nodup_eraseDups (as : List α) : as.eraseDups.Nodup := by
  induction as using List.reverseRecOn with
  | nil => exact List.nodup_nil
  | append_singleton as a ih =>
      rw [eraseDups_concat]
      exact nodup_addNew ih a

private theorem eraseDups_eq_self {as : List α} (h : as.Nodup) : as.eraseDups = as := by
  induction as using List.reverseRecOn with
  | nil => rfl
  | append_singleton as a ih =>
      have hparts := List.nodup_append.1 h
      have habsent : a ∉ as := fun ha => hparts.2.2 a ha a (List.mem_singleton.2 rfl) rfl
      rw [eraseDups_concat, ih hparts.1, addNew_of_notMem habsent]

/-- First occurrences keep their order. -/
theorem pairwise_idxOf_eraseDups (as : List α) :
    as.eraseDups.Pairwise fun a b => as.idxOf a < as.idxOf b := by
  induction as using List.reverseRecOn with
  | nil => exact List.Pairwise.nil
  | append_singleton as a ih =>
      have hindex : ∀ b ∈ as.eraseDups, (as ++ [a]).idxOf b = as.idxOf b := fun b hb =>
        List.idxOf_append_of_mem (List.mem_eraseDups.1 hb)
      have hkept : as.eraseDups.Pairwise fun b c =>
          (as ++ [a]).idxOf b < (as ++ [a]).idxOf c := by
        refine ih.imp_of_mem fun hb hc hlt => ?_
        rwa [hindex _ hb, hindex _ hc]
      rw [eraseDups_concat]
      by_cases hmem : a ∈ as.eraseDups
      · rwa [addNew_of_mem hmem]
      · rw [addNew_of_notMem hmem, List.pairwise_append]
        refine ⟨hkept, List.pairwise_singleton _ _, fun b hb c hc => ?_⟩
        have hlast : a ∉ as := fun ha => hmem (List.mem_eraseDups.2 ha)
        rw [List.mem_singleton.1 hc, hindex b hb, List.idxOf_append_of_notMem hlast]
        have hlt := List.idxOf_lt_length_of_mem (List.mem_eraseDups.1 hb)
        exact Nat.lt_of_lt_of_le hlt (Nat.le_add_right _ _)

/-- What is there already adds nothing behind first occurrences. -/
theorem eraseDups_append_of_subset {as more : List α} (h : more ⊆ as) :
    (as.eraseDups ++ more).eraseDups = as.eraseDups := by
  have hnone : more.removeAll as.eraseDups = [] := by
    rw [List.removeAll, List.filter_eq_nil_iff]
    intro a ha
    simp [h ha]
  rw [List.eraseDups_append, hnone, eraseDups_eq_self (nodup_eraseDups as)]
  exact List.append_nil _

/-- To add one after the other is to keep first occurrences. -/
theorem foldl_addNew (found added : List α) :
    added.foldl addNew found.eraseDups = (found ++ added).eraseDups := by
  induction added generalizing found with
  | nil => rw [List.foldl_nil, List.append_nil]
  | cons a added ih =>
      rw [List.foldl_cons, ← eraseDups_concat, ih, List.append_assoc]
      rfl

end NavPolicy
