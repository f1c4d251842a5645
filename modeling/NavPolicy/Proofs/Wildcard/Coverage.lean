import NavPolicy.Proofs.Wildcard.Language

/-!
# What a wildcard covers

`Covers` joins reading and matching: the texts that the tokens of a wildcard stand for, and none
if the wildcard is refused.  Whatever its stars, a covered text begins with the characters in front
of the first star or question mark, and holds the characters behind it too.  Only a slash behind
two stars may be missing.
-/

namespace NavPolicy.Wildcard

/-- Whether a wildcard covers the whole of a text. -/
def Covers (w text : List Char) : Prop :=
  ∃ ts, Reads true w ts ∧ Fits ts text

variable {begins : Bool} {c : Char} {w front text : List Char} {ts : List Token}

theorem Leaves.isSuffix {stops : Char → Bool} {rest : List Char} (h : Leaves stops text rest) :
    rest <:+ text :=
  leaves_anywhere_iff.1 h.widen

private theorem Reads.exists_fits_tail (h : Reads begins (c :: w) ts) (hstar : c ≠ '*')
    (hquestion : c ≠ '?') (hfits : Fits ts text) :
    ∃ more rest, text = c :: rest ∧ Reads (c == '/') w more ∧ Fits more rest := by
  cases h with
  | last => exact absurd rfl hstar
  | components _ => exact absurd rfl hstar
  | run _ _ => exact absurd rfl hstar
  | any _ => exact absurd rfl hquestion
  | char _ _ h =>
      obtain ⟨d, rest, rfl, hd, hrest⟩ := fits_one_iff.1 hfits
      rw [reads_signOf, beq_iff_eq] at hd
      subst hd
      exact ⟨_, rest, rfl, h, hrest⟩

/-- The tokens of a front without stars and question marks stand for the front alone. -/
theorem Reads.exists_fits_behind (h : Reads begins (front ++ w) ts)
    (hfront : ∀ c ∈ front, c ≠ '*' ∧ c ≠ '?') (hfits : Fits ts text) :
    ∃ begins more rest, text = front ++ rest ∧ Reads begins w more ∧ Fits more rest := by
  induction front generalizing begins ts text with
  | nil => exact ⟨begins, ts, text, rfl, h, hfits⟩
  | cons c front ih =>
      rw [List.forall_mem_cons] at hfront
      obtain ⟨more, rest, rfl, hmore, hrest⟩ :=
        h.exists_fits_tail hfront.1.1 hfront.1.2 hfits
      obtain ⟨begins, last, behind, rfl, hlast, hbehind⟩ := ih hmore hfront.2 hrest
      exact ⟨begins, last, behind, rfl, hlast, hbehind⟩

/-- What a wildcard covers begins with the characters in front of its first sign. -/
theorem Covers.isPrefix (h : Covers (front ++ w) text)
    (hfront : ∀ c ∈ front, c ≠ '*' ∧ c ≠ '?') : front <+: text := by
  obtain ⟨ts, hreads, hfits⟩ := h
  obtain ⟨_, _, rest, rfl, -, -⟩ := hreads.exists_fits_behind hfront hfits
  exact List.prefix_append front rest

/-- A wildcard without signs covers its own text only. -/
theorem covers_iff_eq (hplain : ∀ c ∈ w, c ≠ '*' ∧ c ≠ '?') : Covers w text ↔ text = w := by
  constructor
  · rintro ⟨ts, hreads, hfits⟩
    rw [← List.append_nil w] at hreads
    obtain ⟨_, more, rest, rfl, hmore, hrest⟩ := hreads.exists_fits_behind hplain hfits
    cases hmore
    rw [fits_nil_iff.1 hrest, List.append_nil]
  · rintro rfl
    have hstars : ¬['*', '*'] <:+: text := fun hmem =>
      (hplain '*' (hmem.subset List.mem_cons_self)).1 rfl
    have hread : ∃ ts, Reads true text ts := exists_reads_iff.2 (starsFill_of_not_isInfix hstars)
    obtain ⟨ts, hreads⟩ := hread
    exact ⟨ts, hreads, hreads.fits_self⟩

/-- The characters of a wildcard that stand for themselves are found in what it covers.  A slash
may be missing, for two stars take in the slash behind them. -/
theorem Reads.mem_of_fits (h : Reads begins w ts) (hfits : Fits ts text) (hc : c ∈ w)
    (hstar : c ≠ '*') (hquestion : c ≠ '?') (hslash : c ≠ '/') : c ∈ text := by
  induction h generalizing text with
  | nil => exact absurd hc List.not_mem_nil
  | last => simp [hstar] at hc
  | components _ ih =>
      obtain ⟨rest, hrest, hbehind⟩ := fits_components_iff.1 hfits
      simp only [List.mem_cons, hstar, hslash, false_or] at hc
      exact hrest.isSuffix.subset (ih hbehind hc)
  | run _ _ ih =>
      obtain ⟨rest, hrest, hbehind⟩ := fits_run_iff.1 hfits
      exact hrest.isSuffix.subset (ih hbehind (List.mem_of_ne_of_mem hstar hc))
  | any _ ih =>
      obtain ⟨d, rest, rfl, -, hbehind⟩ := fits_one_iff.1 hfits
      exact List.mem_cons_of_mem d (ih hbehind (List.mem_of_ne_of_mem hquestion hc))
  | char _ _ _ ih =>
      obtain ⟨d, rest, rfl, hd, hbehind⟩ := fits_one_iff.1 hfits
      rw [reads_signOf, beq_iff_eq] at hd
      subst hd
      rcases List.mem_cons.1 hc with rfl | hc
      · exact List.mem_cons_self
      · exact List.mem_cons_of_mem d (ih hbehind hc)

theorem Covers.mem (h : Covers w text) (hc : c ∈ w) (hstar : c ≠ '*') (hquestion : c ≠ '?')
    (hslash : c ≠ '/') : c ∈ text := by
  obtain ⟨ts, hreads, hfits⟩ := h
  exact hreads.mem_of_fits hfits hc hstar hquestion hslash

end NavPolicy.Wildcard
