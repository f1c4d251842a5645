import NavPolicy.Proofs.Url.Serialization

/-!
# Addresses behind an origin

The text of an address that begins with an origin, and goes on with a slash, goes on with its own
path and query: the first slash behind an authority is where the path begins.
-/

namespace NavPolicy.Url

variable {text page : String} {u start : Url} {s : List Char}

/-- Whether the path, the query or the fragment begins with a character. -/
def isPathMark (c : Char) : Bool := c == '/' || isPathEnd c

private theorem isPathMark_of_mem_authority (hu : IsRead u) (hu' : IsDelimited u) :
    ∀ c ∈ u.credentials.toList ++ u.endpoint, isPathMark c = false := by
  intro c hc
  rw [isPathMark, isPathEnd_of_mem_authority hu' c hc, Bool.or_false, beq_eq_false_iff_ne]
  rintro rfl
  exact slash_not_mem_authority hu hu' hc

/-- Behind an authority the path begins with a slash, and the query with its sign. -/
theorem isPathMark_head?_path (hu : IsRead u) (hauthority : u.hasAuthority = true) :
    ∀ c ∈ (u.path.toList ++ u.queryText).head?, isPathMark c = true := by
  rcases hu.path hauthority with hnil | ⟨rest, hrest⟩
  · intro c hc
    rw [hnil, List.nil_append] at hc
    have hmark : isPathEnd c = true := by
      apply head?_queryText u
      rw [List.head?_append, hc, Option.some_or]
      rfl
    rw [isPathMark, hmark, Bool.or_true]
  · intro c hc
    rw [hrest] at hc
    cases hc
    rfl

/-- What begins with a slash behind an origin is the path with the query. -/
theorem eq_path_of_originText (hstart : parse page = .ok start) (hparse : parse text = .ok u)
    (htext : u.text = text) (hfragment : u.fragment = none)
    (h : text.toList = start.originText.toList ++ s) (hs : s.head? = some '/') :
    s = u.path.toList ++ u.queryText := by
  cases horigin : start.origin? with
  | none =>
      obtain ⟨rest, rfl⟩ := List.head?_eq_some_iff.1 hs
      rw [originText, horigin] at h
      exact absurd (colon_mem_of_parse hparse h) (by decide)
  | some origin =>
      obtain ⟨v, hv, hv', hweb, hcut⟩ := exists_web_of_origin? hstart horigin
      have hu : IsRead u := isRead_of_parse hparse
      have hu' : IsDelimited u := isDelimited_of_parse hparse
      have hread : text.toList = u.scheme.toList ++
          ':' :: (u.authorityText ++ (u.path.toList ++ u.queryText)) := by
        rw [← htext, toList_text, fragmentText, hfragment]
        simp
      have hbehind : text.toList = v.scheme.toList ++ ':' :: '/' :: '/' :: (v.endpoint ++ s) := by
        rw [h, originText, horigin, Option.getD_some, hcut]
        simp
      obtain ⟨hscheme, hrest⟩ := append_cons_inj (hread.symm.trans hbehind)
        (colon_not_mem_scheme hu) (colon_not_mem_scheme hv)
      rw [← String.toList_injective hscheme] at hweb
      have hauthority : u.hasAuthority = true := hu.hasAuthority_of_web hweb
      have hfront : u.authorityText = '/' :: '/' :: (u.credentials.toList ++ u.endpoint) := by
        rw [authorityText, if_pos hauthority]
      have hsame : u.credentials.toList ++ u.endpoint ++ (u.path.toList ++ u.queryText) =
          v.endpoint ++ s := by
        rw [hfront] at hrest
        simpa using hrest
      have hmark : ∀ c ∈ s.head?, isPathMark c = true := by
        rw [hs]
        rintro c ⟨⟩
        rfl
      have hendpoint : ∀ c ∈ v.endpoint, isPathMark c = false :=
        fun c hc => isPathMark_of_mem_authority hv hv' c (List.mem_append_right _ hc)
      exact (append_tail_inj hsame (isPathMark_of_mem_authority hu hu') hendpoint
        (isPathMark_head?_path hu hauthority) hmark).2.symm

end NavPolicy.Url
