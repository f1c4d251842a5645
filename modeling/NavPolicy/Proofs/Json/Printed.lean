import Mathlib.Data.Bool.AllAny
import NavPolicy.Proofs.Json.RoundTrip

/-!
# Written documents stay on one line

A document without blanks is written without control characters, whatever its strings and names
hold.  In particular it has no line end, so whoever puts it on a line of its own finds it there.
-/

namespace NavPolicy

open NavPolicy.Json

/-- A text without control characters. -/
def IsPrinted (text : List Char) : Prop := ∀ c ∈ text, 32 ≤ c.toNat

instance (text : List Char) : Decidable (IsPrinted text) :=
  decidable_of_iff (text.all fun c => 32 ≤ c.toNat) List.all_iff_forall_prop

theorem isPrinted_append {text more : List Char} :
    IsPrinted (text ++ more) ↔ IsPrinted text ∧ IsPrinted more :=
  List.forall_mem_append

theorem isPrinted_cons {c : Char} {text : List Char} :
    IsPrinted (c :: text) ↔ 32 ≤ c.toNat ∧ IsPrinted text :=
  List.forall_mem_cons

theorem isPrinted_nil : IsPrinted [] := List.forall_mem_nil _

theorem isPrinted_flatMap {α : Type} {f : α → List Char} {l : List α} :
    IsPrinted (l.flatMap f) ↔ ∀ a ∈ l, IsPrinted (f a) := by
  constructor
  · intro h a ha c hc
    exact h c (List.mem_flatMap.2 ⟨a, ha, hc⟩)
  · intro h c hc
    obtain ⟨a, ha, hc⟩ := List.mem_flatMap.1 hc
    exact h a ha c hc

namespace IsPrinted

variable {text more : List Char}

theorem subset (h : IsPrinted text) (hsub : more ⊆ text) : IsPrinted more :=
  fun c hc => h c (hsub hc)

theorem not_mem (h : IsPrinted text) {c : Char} (hc : c.toNat < 32) : c ∉ text :=
  fun hmem => Nat.not_le_of_lt hc (h c hmem)

theorem newline_not_mem (h : IsPrinted text) : '\n' ∉ text := h.not_mem (by decide)

theorem return_not_mem (h : IsPrinted text) : '\r' ∉ text := h.not_mem (by decide)

end IsPrinted

/-! ## Numbers -/

theorem isPrinted_toDigits (n : Nat) : IsPrinted (Nat.toDigits 10 n) := by
  intro c hc
  have hdigit : c.isDigit = true := Nat.isDigit_of_mem_toDigits (by decide) (by decide) hc
  have hle : 48 ≤ c.toNat := (Char.isDigit_iff_toNat.1 hdigit).1
  omega

theorem isPrinted_toString (n : Nat) : IsPrinted (toString n).toList := by
  have htext : (toString n).toList = Nat.toDigits 10 n := Nat.toList_repr
  exact htext ▸ isPrinted_toDigits n

namespace Decimal

private theorem isPrinted_pointed {digits : List Char} (h : IsPrinted digits) :
    IsPrinted (Shortest.pointed digits) := by
  match digits with
  | [] => exact h
  | [_] => exact h
  | _ :: _ :: _ =>
    rw [isPrinted_cons] at h
    exact isPrinted_cons.2 ⟨h.1, isPrinted_cons.2 ⟨by decide, h.2⟩⟩

private theorem isPrinted_zeros (n : Nat) : IsPrinted (List.replicate n '0') := by
  intro c hc
  rw [(List.mem_replicate.1 hc).2]
  decide

theorem Shortest.isPrinted_text (style : Style) (s : Shortest) : IsPrinted (s.text style) := by
  have hdigits := isPrinted_toDigits s.coefficient
  have htake := fun n => hdigits.subset (List.take_subset n _)
  have hdrop := fun n => hdigits.subset (List.drop_subset n _)
  unfold text
  extract_lets digits first
  split
  · refine isPrinted_append.2 ⟨isPrinted_pointed hdigits, ?_⟩
    refine isPrinted_cons.2 ⟨by decide, isPrinted_cons.2 ⟨?_, isPrinted_toDigits _⟩⟩
    split <;> decide
  · split
    · exact isPrinted_append.2 ⟨isPrinted_append.2 ⟨by decide, isPrinted_zeros _⟩, hdigits⟩
    · split
      · exact isPrinted_append.2 ⟨isPrinted_append.2 ⟨hdigits, isPrinted_zeros _⟩, by decide⟩
      · exact isPrinted_append.2 ⟨htake _, isPrinted_cons.2 ⟨by decide, hdrop _⟩⟩

private theorem Binary64.isPrinted_text (x : Binary64) : IsPrinted x.text.toList := by
  rw [text, String.toList_ofList]
  refine isPrinted_append.2 ⟨?_, Shortest.isPrinted_text _ _⟩
  split
  · decide
  · decide

end Decimal

namespace Json

theorem Number.isPrinted_text (n : Number) : IsPrinted n.text.toList := by
  cases n with
  | natural n => exact isPrinted_toString n
  | negative n =>
      rw [text, String.toList_append]
      exact isPrinted_append.2 ⟨by decide, isPrinted_toString _⟩
  | float x => exact x.isPrinted_text

/-! ## Strings -/

private theorem isPrinted_hexDigits : ∀ n < 32,
    IsPrinted ['\\', 'u', '0', '0', hexDigit (n / 16), hexDigit (n % 16)] := by
  decide

private theorem isPrinted_escapeChar (c : Char) : IsPrinted (escapeChar c) := by
  have hpair : ∀ d : Char, 32 ≤ d.toNat → IsPrinted ['\\', d] := fun d hd =>
    isPrinted_cons.2 ⟨by decide, isPrinted_cons.2 ⟨hd, isPrinted_nil⟩⟩
  unfold escapeChar
  split
  iterate 7 exact hpair _ (by decide)
  split
  · exact isPrinted_hexDigits _ ‹_›
  · exact isPrinted_cons.2 ⟨Nat.le_of_not_lt ‹_›, isPrinted_nil⟩

theorem isPrinted_quote (s : List Char) : IsPrinted (quote s) := by
  refine isPrinted_cons.2 ⟨by decide, isPrinted_append.2 ⟨?_, by decide⟩⟩
  exact isPrinted_flatMap.2 fun c _ => isPrinted_escapeChar c

/-! ## Documents -/

private theorem isPrinted_separate {parts : List (List Char)} (h : ∀ p ∈ parts, IsPrinted p) :
    IsPrinted (separate [','] parts) := by
  cases parts with
  | nil => exact isPrinted_nil
  | cons part parts =>
      rw [List.forall_mem_cons] at h
      rw [separate_cons]
      refine isPrinted_append.2 ⟨h.1, isPrinted_flatMap.2 fun p hp => ?_⟩
      exact isPrinted_cons.2 ⟨by decide, h.2 p hp⟩

private theorem isPrinted_brackets {first last : Char} {parts : List (List Char)}
    (hfirst : 32 ≤ first.toNat) (hlast : 32 ≤ last.toNat) (h : ∀ p ∈ parts, IsPrinted p) :
    IsPrinted (first :: (separate [','] parts ++ [last])) := by
  refine isPrinted_cons.2 ⟨hfirst, isPrinted_append.2 ⟨isPrinted_separate h, ?_⟩⟩
  exact isPrinted_cons.2 ⟨hlast, isPrinted_nil⟩

namespace Value

mutual

/-- A document without blanks is written without control characters. -/
theorem isPrinted_compactText : ∀ v : Value, IsPrinted v.compactText
  | null => by decide
  | bool true => by decide
  | bool false => by decide
  | number n => n.isPrinted_text
  | string s => isPrinted_quote s.toList
  | array items => isPrinted_brackets (by decide) (by decide) (isPrinted_compactItems items)
  | object members => isPrinted_brackets (by decide) (by decide) (isPrinted_compactMembers members)

theorem isPrinted_compactItems : ∀ items : List Value, ∀ text ∈ compactItems items, IsPrinted text
  | [] => List.forall_mem_nil _
  | v :: rest => List.forall_mem_cons.2 ⟨isPrinted_compactText v, isPrinted_compactItems rest⟩

theorem isPrinted_compactMembers : ∀ members : List (String × Value),
    ∀ text ∈ compactMembers members, IsPrinted text
  | [] => List.forall_mem_nil _
  | (name, v) :: rest => by
    refine List.forall_mem_cons.2 ⟨?_, isPrinted_compactMembers rest⟩
    refine isPrinted_append.2 ⟨isPrinted_quote _, ?_⟩
    exact isPrinted_cons.2 ⟨by decide, isPrinted_compactText v⟩

end

end Value

end Json

end NavPolicy
