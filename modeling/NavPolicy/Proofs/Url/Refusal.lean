import NavPolicy.Proofs.Url.Mention
import NavPolicy.Uri

/-!
# Absolute identifiers that are no addresses

The generic grammar of identifiers and the reader of addresses agree on what a scheme is.
Where the reader refuses an absolute identifier, it refuses its host or its port, and never
that of a scheme without rules of its own behind which no authority is written.
-/

namespace NavPolicy.Url

theorem bracketedHost_ne_relative (text : List Char) :
    bracketedHost text ≠ .error .relativeWithoutBase := by
  rw [bracketedHost]
  split
  · split <;> simp
  · simp

theorem domainHost_ne_relative (text : List Char) :
    domainHost text ≠ .error .relativeWithoutBase := by
  rw [domainHost]
  split
  · exact bracketedHost_ne_relative text
  · split
    · simp
    · simp
    · split
      · split <;> simp
      · simp

private theorem readHost_ne_relative (k : SchemeKind) (text : List Char) :
    readHost k text ≠ .error .relativeWithoutBase := by
  rw [readHost]
  split
  · exact domainHost_ne_relative text
  · rw [plainHost]
    split
    · exact bracketedHost_ne_relative text
    · split <;> simp

private theorem portBehindHost_ne_relative (cs : List Char) :
    portBehindHost cs ≠ .error .relativeWithoutBase := by
  have hread : ∀ (cs : List Char) (port : Option Nat),
      readPort port cs ≠ .error .relativeWithoutBase := by
    intro cs
    induction cs with
    | nil => simp [readPort]
    | cons c rest ih =>
        intro port
        rw [readPort]
        split
        · simp only
          split
          · simp
          · exact ih _
        · split <;> simp
  rw [portBehindHost]
  split
  · exact hread _ _
  · simp

theorem bind_ne_error {ε α β : Type} {x : Except ε α} {f : α → Except ε β} {e : ε}
    (hx : x ≠ .error e) (hf : ∀ a, f a ≠ .error e) : x >>= f ≠ .error e := by
  cases x with
  | error d =>
      intro h
      cases h
      exact hx rfl
  | ok a => exact hf a

/-- An authority is never refused for want of a base. -/
theorem withAuthority_ne_relative (k : SchemeKind) (scheme : String) (cs : List Char) :
    withAuthority k scheme cs ≠ .error .relativeWithoutBase := by
  rw [withAuthority]
  simp only
  split
  · simp
  · split
    · simp
    · apply bind_ne_error (readHost_ne_relative _ _)
      intro host
      split
      · simp
      · apply bind_ne_error (portBehindHost_ne_relative _)
        intro port
        split
        · simp
        · intro h
          cases h

theorem fileUrl_ne_relative (cs : List Char) : fileUrl cs ≠ .error .relativeWithoutBase := by
  have hhost : ∀ host, fileHost host ≠ .error .relativeWithoutBase := by
    intro host h
    rw [fileHost] at h
    split at h
    · cases h
    · cases hdomain : domainHost host with
      | error e =>
          rw [hdomain] at h
          cases h
          exact domainHost_ne_relative host hdomain
      | ok found =>
          rw [hdomain] at h
          cases h
  unfold fileUrl
  simp only
  apply bind_ne_error (hhost _)
  intro host h
  cases h

private theorem isOuterBlank_of_isSchemeChar {c : Char} (h : isSchemeChar c = true) :
    isOuterBlank c = false := by
  have hblank : ∀ n : Fin 33, isSchemeChar (Char.ofNat n.val) = false := by decide
  by_contra hc
  have hlt : c.toNat < 33 := by
    simp only [isOuterBlank, Bool.not_eq_false, decide_eq_true_eq] at hc
    omega
  have hfalse := hblank ⟨c.toNat, hlt⟩
  rw [Char.ofNat_toNat, h] at hfalse
  cases hfalse

private theorem splitScheme?_of_forall {first : Char} {more rest : List Char}
    (halpha : first.isAlpha = true) (hmore : ∀ c ∈ first :: more, isSchemeChar c = true) :
    splitScheme? ((first :: more) ++ ':' :: rest) =
      some ((first :: more).map Char.toLower, rest) := by
  have hcolon : isSchemeChar ':' = false := by decide
  have htake : ((first :: more) ++ ':' :: rest).takeWhile isSchemeChar = first :: more := by
    rw [List.takeWhile_append_of_pos hmore, List.takeWhile_cons_of_neg (by simp [hcolon])]
    simp
  have hdrop : ((first :: more) ++ ':' :: rest).dropWhile isSchemeChar = ':' :: rest := by
    rw [List.dropWhile_append_of_pos hmore, List.dropWhile_cons_of_neg (by simp [hcolon])]
  rw [splitScheme?]
  rw [htake, hdrop]
  simp [halpha]

/-- The scheme of an absolute identifier is that of an address. -/
theorem exists_splitScheme?_of_isAbsolute {text : List Char} (h : Uri.isAbsolute text = true) :
    ∃ scheme rest, splitScheme? (significant text) = some (scheme, rest) := by
  rw [Uri.isAbsolute] at h
  split at h
  · rename_i first more colon rest htake hdrop
    simp only [Bool.and_eq_true] at h
    obtain ⟨⟨⟨⟨halpha, hmore⟩, -⟩, -⟩, -⟩ := h
    have hcolon : colon = ':' := by
      have := List.head?_dropWhile_not (· != ':') text
      rw [hdrop] at this
      simpa using this
    have htext : text = [] ++ (((first :: more) ++ [':']) ++ rest) := by
      rw [← List.takeWhile_append_dropWhile (p := (· != ':')) (l := text), htake, hdrop, hcolon]
      simp
    have hscheme : ∀ c ∈ first :: more, isSchemeChar c = true := by
      rw [List.forall_mem_cons]
      refine ⟨by simp [isSchemeChar, Char.isAlphanum, halpha], fun c hc => ?_⟩
      exact List.all_eq_true.1 hmore c hc
    have hkept : ∀ c ∈ (first :: more) ++ [':'], isOuterBlank c = false := by
      intro c hc
      rcases List.mem_append.1 hc with hc | hc
      · exact isOuterBlank_of_isSchemeChar (hscheme c hc)
      · rw [List.mem_singleton.1 hc]
        decide
    obtain ⟨after, hafter⟩ := significant_append (by simp) hkept [] rest
    refine ⟨(first :: more).map Char.toLower, after, ?_⟩
    have hsplit : splitScheme? ((first :: more) ++ ':' :: after) =
        some ((first :: more).map Char.toLower, after) := splitScheme?_of_forall halpha hscheme
    rw [htext, hafter]
    simpa using hsplit
  · cases h

/-- What the reader of addresses refuses in an absolute identifier is its authority: that of a
scheme with rules of its own, or one that is written behind any other scheme. -/
theorem refusal_of_isAbsolute {text : String} (h : Uri.isAbsolute text.toList = true)
    {reason : UrlError} (hrefused : parse text = .error reason) :
    reason ≠ .relativeWithoutBase ∧ ∃ scheme rest,
      splitScheme? (significant text.toList) = some (scheme, rest) ∧
        (schemeKind (String.ofList scheme) ≠ .other ∨ ∃ more, rest = '/' :: '/' :: more) := by
  obtain ⟨scheme, rest, hsplit⟩ := exists_splitScheme?_of_isAbsolute h
  simp only [parse, parseChars, hsplit] at hrefused
  split at hrefused
  · rename_i hkind
    refine ⟨?_, scheme, rest, hsplit, Or.inl (by rw [hkind]; decide)⟩
    rintro rfl
    exact fileUrl_ne_relative _ hrefused
  · rename_i hkind
    refine ⟨?_, scheme, rest, hsplit, Or.inl (by rw [hkind]; decide)⟩
    rintro rfl
    exact withAuthority_ne_relative _ _ _ hrefused
  · split at hrefused
    · rename_i more
      refine ⟨?_, scheme, _, hsplit, Or.inr ⟨more, rfl⟩⟩
      rintro rfl
      exact withAuthority_ne_relative _ _ _ hrefused
    · cases hrefused

end NavPolicy.Url
