import NavPolicy.Proofs.Pattern.GlobLanguage

/-!
# What may stand around a glob's own text

A candidate that holds a glob literally is not always one that the glob accepts: a glob may be
anchored in front, and behind it only a query or a fragment may be let in.  `Admits` says
which surroundings each shape lets in.
-/

namespace NavPolicy.Pattern.Glob

/-- The surroundings in which a glob accepts its own text. -/
def Admits (glob before after : List Char) : Prop :=
  match shape glob with
  | .part => True
  | .whole => before = [] ∨ glob.head? = some '*'
  | .address => (before = [] ∨ glob.head? = some '*') ∧ IsTail after
  | .openPath => before = []
  | .path =>
      before = [] ∧ ∃ z q, after = z ++ q ∧ (z = [] ∨ (z = ['/'] ∧ stem glob = glob)) ∧ IsTail q

/-- A text that holds a glob literally, in surroundings that the glob admits. -/
def Holds (glob text : List Char) : Prop :=
  ∃ before after, text = before ++ (glob ++ after) ∧ Admits glob before after

/-- A glob that is anchored on neither side. -/
def IsOpen (glob : List Char) : Prop :=
  shape glob = .part ∨ (shape glob = .whole ∧ glob.head? = some '*')

/-- An open glob admits all surroundings. -/
theorem IsOpen.admits {glob : List Char} (h : IsOpen glob) (before after : List Char) :
    Admits glob before after := by
  rw [Admits]
  rcases h with h | ⟨h, hstar⟩
  · simp only [h]
  · simp only [h]
    exact Or.inr hstar

/-- A star in front takes in what precedes a fitting text. -/
theorem Fits.prepend {glob before s : List Char} (h : Fits glob s) (hbefore : '\n' ∉ before)
    (hfront : before = [] ∨ glob.head? = some '*') : Fits glob (before ++ s) := by
  rcases hfront with rfl | hstar
  · exact h
  · obtain ⟨glob, rfl⟩ := List.head?_eq_some_iff.1 hstar
    obtain ⟨r, s, rfl, hr, hs⟩ := fits_star_iff.1 h
    refine fits_star_iff.2 ⟨before ++ r, s, by simp, ?_, hs⟩
    rw [List.mem_append, not_or]
    exact ⟨hbefore, hr⟩

/-- A star at the end takes in what follows a fitting text. -/
theorem Fits.append {glob s after : List Char} (h : Fits glob s) (hafter : '\n' ∉ after)
    (hend : glob.getLast? = some '*') : Fits glob (s ++ after) := by
  obtain ⟨glob, rfl⟩ := List.getLast?_eq_some_iff.1 hend
  obtain ⟨s₁, s₂, rfl, h₁, h₂⟩ := fits_append_iff.1 h
  obtain ⟨r, s, rfl, hr, hs⟩ := fits_star_iff.1 h₂
  rw [fits_nil_iff.1 hs, List.append_nil]
  refine fits_append_iff.2 ⟨s₁, r ++ after, by simp, h₁, ?_⟩
  refine fits_star_iff.2 ⟨r ++ after, [], by simp, ?_, .nil⟩
  rw [List.mem_append, not_or]
  exact ⟨hr, hafter⟩

theorem shape_eq_openPath {glob : List Char} (h : shape glob = .openPath) :
    glob.getLast? = some '*' := by
  unfold shape at h
  simp only at h
  split at h
  · split at h
    · rename_i hend
      simpa using hend
    · cases h
  · split at h
    · cases h
    · split at h <;> cases h

theorem shape_eq_whole {glob : List Char} (h : shape glob = .whole) :
    glob.getLast? = some '*' := by
  unfold shape at h
  simp only at h
  split at h
  · split at h <;> cases h
  · split at h
    · rename_i hend
      simpa using hend
    · split at h <;> cases h

theorem isTail_nil : IsTail [] := Or.inl rfl

/-- At most one slash is left out at the end of a path. -/
theorem append_stem (glob : List Char) : stem glob = glob ∨ glob = stem glob ++ ['/'] := by
  rw [stem]
  split
  · rename_i h
    simp only [Bool.and_eq_true, beq_iff_eq] at h
    obtain ⟨glob, rfl⟩ := List.getLast?_eq_some_iff.1 h.1
    exact Or.inr (by simp)
  · exact Or.inl rfl

theorem stem_subset (glob : List Char) : stem glob ⊆ glob := by
  rw [stem]
  split
  · exact List.dropLast_subset glob
  · exact List.Subset.refl glob

/-- A glob accepts a candidate that holds it in surroundings that it admits. -/
theorem Holds.accepts {glob text : List Char} (h : Holds glob text) (hline : '\n' ∉ text) :
    Accepts glob text := by
  obtain ⟨before, after, rfl, h⟩ := h
  simp only [List.mem_append, not_or] at hline
  obtain ⟨hbefore, -, hafter⟩ := hline
  have hself := fits_self glob
  rw [Admits] at h
  rw [Accepts]
  cases hshape : shape glob with
  | openPath =>
      simp only [hshape] at h ⊢
      subst h
      exact ⟨glob ++ after, [], by simp, hself.append hafter (shape_eq_openPath hshape), isTail_nil⟩
  | path =>
      simp only [hshape] at h ⊢
      obtain ⟨rfl, z, q, rfl, hz, hq⟩ := h
      rcases append_stem glob with hstem | hstem
      · rw [hstem]
        refine ⟨glob, z, q, rfl, hself, ?_, hq⟩
        rcases hz with hz | ⟨hz, -⟩
        · exact Or.inl hz
        · exact Or.inr hz
      · rcases hz with rfl | ⟨-, hsame⟩
        · refine ⟨stem glob, ['/'], q, ?_, fits_self _, Or.inr rfl, hq⟩
          conv => lhs; rw [hstem]
          simp
        · rw [hsame] at hstem
          exact absurd (congrArg List.length hstem) (by simp)
  | whole =>
      simp only [hshape] at h ⊢
      exact (hself.append hafter (shape_eq_whole hshape)).prepend hbefore h
  | address =>
      simp only [hshape] at h ⊢
      exact ⟨before ++ glob, after, by simp, hself.prepend hbefore h.1, h.2⟩
  | part => exact ⟨before, glob, after, rfl, hself⟩

/-- A text that is a path without the slash at its end, up to a query or a fragment. -/
def HoldsStem (glob text : List Char) : Prop :=
  shape glob = .path ∧ stem glob ≠ glob ∧ ∃ q, text = stem glob ++ q ∧ IsTail q

/-- A path without the slash at its end is accepted too. -/
theorem HoldsStem.accepts {glob text : List Char} (h : HoldsStem glob text) :
    Accepts glob text := by
  obtain ⟨hshape, -, q, rfl, hq⟩ := h
  rw [Accepts]
  simp only [hshape]
  exact ⟨stem glob, [], q, rfl, fits_self _, Or.inl rfl, hq⟩

/-- A glob without stars accepts only candidates that hold it in surroundings that it admits, and
for a path that ends in a slash those that leave the slash out. -/
theorem Accepts.holds_or_holdsStem {glob text : List Char} (h : Accepts glob text)
    (hstar : '*' ∉ glob) : Holds glob text ∨ HoldsStem glob text := by
  have hend : glob.getLast? ≠ some '*' := fun hlast => hstar (List.mem_of_getLast? hlast)
  rw [Accepts] at h
  cases hshape : shape glob with
  | openPath => exact absurd (shape_eq_openPath hshape) hend
  | whole => exact absurd (shape_eq_whole hshape) hend
  | path =>
      simp only [hshape] at h
      obtain ⟨s, z, q, rfl, hs, hz, hq⟩ := h
      have hself : s = stem glob := hs.eq_of_not_mem fun hmem => hstar (stem_subset glob hmem)
      subst hself
      have hadmits : ∀ after, (∃ z q, after = z ++ q ∧ (z = [] ∨ (z = ['/'] ∧ stem glob = glob)) ∧
          IsTail q) → Admits glob [] after := by
        intro after hafter
        rw [Admits, hshape]
        exact ⟨rfl, hafter⟩
      rcases append_stem glob with hstem | hstem
      · refine Or.inl ⟨[], z ++ q, by rw [hstem]; rfl, hadmits _ ⟨z, q, rfl, ?_, hq⟩⟩
        exact hz.imp_right fun hz => ⟨hz, hstem⟩
      · rcases hz with rfl | rfl
        · refine Or.inr ⟨hshape, fun hsame => ?_, q, rfl, hq⟩
          rw [hsame] at hstem
          exact absurd (congrArg List.length hstem) (by simp)
        · refine Or.inl ⟨[], q, ?_, hadmits _ ⟨[], q, rfl, Or.inl rfl, hq⟩⟩
          conv => rhs; rw [hstem]
          simp
  | address =>
      simp only [hshape] at h
      obtain ⟨s, q, rfl, hs, hq⟩ := h
      rw [hs.eq_of_not_mem hstar]
      refine Or.inl ⟨[], q, rfl, ?_⟩
      rw [Admits, hshape]
      exact ⟨Or.inl rfl, hq⟩
  | part =>
      simp only [hshape] at h
      obtain ⟨before, s, after, rfl, hs⟩ := h
      rw [hs.eq_of_not_mem hstar]
      refine Or.inl ⟨before, after, rfl, ?_⟩
      rw [Admits, hshape]
      trivial

/-- A glob without stars, and no slash to leave out, accepts only what holds it literally. -/
theorem Accepts.holds {glob text : List Char} (h : Accepts glob text) (hstar : '*' ∉ glob)
    (hstem : stem glob = glob) : Holds glob text :=
  (h.holds_or_holdsStem hstar).resolve_right fun hslash => hslash.2.1 hstem

end NavPolicy.Pattern.Glob
