import NavPolicy.Proofs.Url.Mention

/-!
# Hosts mentioned by origins

The origin of an address holds a scheme of the web, a host and perhaps a port, and the path
follows it.  A mention in the two together is that of the origin's own host or stands in the
path, also where the origin was taken from an address in the path.
-/

namespace NavPolicy.Url

/-- The host with its port. -/
def endpoint (u : Url) : List Char := u.hostText.toList ++ u.portText.toList

/-- The text of a port is empty, or a colon and some digits. -/
theorem portText_cases (u : Url) :
    u.portText.toList = [] ∨ ∃ n : Nat, u.portText.toList = ':' :: (toString n).toList := by
  rw [portText]
  split
  · exact Or.inl rfl
  · rename_i n _
    exact Or.inr ⟨n, String.toList_append⟩

private theorem toString_ne_nil (n : Nat) : (toString n).toList ≠ [] := by
  have : (toString n).toList = Nat.toDigits 10 n := Nat.toList_repr
  rw [this]
  exact Nat.toDigits_ne_nil

/-- Neither a slash nor a line feed stands in a host or its port. -/
theorem IsRead.isHostText_endpoint {u : Url} (h : IsRead u) : IsHostText u.endpoint := by
  rw [endpoint]
  rcases portText_cases u with hport | ⟨n, hport⟩
  · rw [hport, List.append_nil]
    exact h.host
  · have hdigit : ∀ c ∈ (toString n).toList, c ≠ '/' ∧ c ≠ '\n' ∧ c ≠ ':' := by
      intro c hc
      have hc := isDigit_of_mem_repr hc
      refine ⟨?_, ?_, ?_⟩ <;>
        · rintro rfl
          exact absurd hc (by decide)
    rw [hport]
    refine ⟨?_, ?_, ?_⟩
    · simp only [List.mem_append, List.mem_cons, not_or]
      exact ⟨h.host.slash, by decide, fun hc => (hdigit _ hc).1 rfl⟩
    · simp only [List.mem_append, List.mem_cons, not_or]
      exact ⟨h.host.newline, by decide, fun hc => (hdigit _ hc).2.1 rfl⟩
    · have hlast := List.dropLast_concat_getLast (toString_ne_nil n)
      rw [← hlast, ← List.cons_append, ← List.append_assoc, List.getLast?_concat]
      intro hcolon
      exact (hdigit _ (List.getLast_mem (toString_ne_nil n))).2.2 (Option.some.inj hcolon)

/-- A colon and a slash behind a host stand behind all of it. -/
theorem IsHostText.cut {host tail before rest : List Char} (hhost : IsHostText host)
    (h : host ++ tail = before ++ ':' :: '/' :: rest) :
    ∃ more, before = host ++ more ∧ tail = more ++ ':' :: '/' :: rest := by
  rcases List.append_eq_append_iff.1 h with ⟨more, rfl, hmore⟩ | ⟨more, rfl, hmore⟩
  · exact ⟨more, rfl, hmore⟩
  · match more, hmore with
    | [], hmore => exact ⟨[], by simp, by simpa using hmore.symm⟩
    | [c], hmore =>
        cases hmore
        exact absurd (by simp) hhost.colon
    | c :: d :: more, hmore =>
        cases hmore
        exact absurd (by simp) hhost.slash

/-- In a text that is an address, a colon precedes the first slash. -/
theorem colon_mem_of_parse {text : String} {x y : List Char} {u : Url}
    (h : parse text = .ok u) (htext : text.toList = x ++ '/' :: y) : ':' ∈ x := by
  obtain ⟨scheme, rest, hsplit, -⟩ := reads_of_parse h
  obtain ⟨raw, hcut, rfl, hraw⟩ := splitScheme?_eq_some hsplit
  have hslash : '/' ∉ raw := fun hmem => by
    have := hraw _ hmem
    exact absurd this (by decide)
  have hkept : ∀ c ∈ ['/'], isOuterBlank c = false := by simp [isOuterBlank]
  obtain ⟨after, hafter⟩ := significant_append (List.cons_ne_nil _ _) hkept x y
  have hsame : raw ++ ':' :: rest =
      (x.dropWhile isOuterBlank).filter (fun c => !isInnerBlank c) ++ '/' :: after := by
    rw [← hcut, htext]
    exact hafter
  have hmem : ':' ∈ (x.dropWhile isOuterBlank).filter (fun c => !isInnerBlank c) := by
    rcases List.append_eq_append_iff.1 hsame with ⟨more, hmore, hrest⟩ | ⟨more, rfl, hmore⟩
    · rw [hmore]
      cases more with
      | nil => cases hrest
      | cons c more =>
          cases hrest
          simp
    · cases more with
      | nil => cases hmore
      | cons c more =>
          cases hmore
          exact absurd (by simp) hslash
  exact (List.dropWhile_sublist _).mem (List.mem_filter.1 hmem).1

/-- An origin is that of the address itself or of one that its path holds. -/
theorem originOf_eq_some {P : Url → Prop} (hparsed : ∀ text v, parse text = .ok v → P v)
    {fuel : Nat} {u : Url} {origin : String} (hu : P u) (h : originOf fuel u = some origin) :
    ∃ v, P v ∧ (defaultPort? v.scheme).isSome ∧
      origin = v.scheme ++ "://" ++ v.hostText ++ v.portText ∧
      (v = u ∨ ∃ inner, parse u.path = .ok inner) := by
  induction fuel generalizing u with
  | zero =>
      rw [originOf] at h
      split at h
      · rename_i hweb
        cases h
        exact ⟨u, hu, hweb, rfl, Or.inl rfl⟩
      · split at h <;> cases h
  | succ fuel ih =>
      unfold originOf at h
      split at h
      · rename_i hweb
        cases h
        exact ⟨u, hu, hweb, rfl, Or.inl rfl⟩
      · split at h
        · simp only at h
          split at h
          · rename_i inner hinner
            obtain ⟨v, hv, hweb, horigin, -⟩ := ih (hparsed _ _ hinner) h
            exact ⟨v, hv, hweb, horigin, Or.inr ⟨inner, hinner⟩⟩
          · cases h
        · cases h

/-- The origin with the path behind it: `null` and the path, or a scheme and an endpoint that
are those of the address, unless its path is an address. -/
theorem originPath_cases {u : Url} (hread : IsRead u) :
    (u.originText ++ u.path).toList = "null".toList ++ u.path.toList ∨
      ∃ v, IsRead v ∧ (u.originText ++ u.path).toList =
          v.scheme.toList ++ ':' :: '/' :: '/' :: (v.endpoint ++ u.path.toList) ∧
        ((v = u ∧ (defaultPort? u.scheme).isSome) ∨ ∃ inner, parse u.path = .ok inner) := by
  cases horigin : u.origin? with
  | none =>
      left
      rw [originText, horigin, String.toList_append]
      rfl
  | some origin =>
      obtain ⟨v, hv, hweb, rfl, hfrom⟩ :=
        originOf_eq_some (fun _ _ => isRead_of_parse) hread horigin
      refine Or.inr ⟨v, hv, ?_, hfrom.imp_left fun hsame => ⟨hsame, hsame ▸ hweb⟩⟩
      rw [originText, horigin]
      simp [endpoint]

/-- A scheme holds no sign that could end it. -/
theorem IsRead.scheme_isHostText {u : Url} (h : IsRead u) : IsHostText u.scheme.toList := by
  apply IsHostText.of_forall
  intro c hc
  have hc := h.scheme c hc
  refine ⟨?_, ?_, ?_⟩ <;>
    · rintro rfl
      exact absurd hc (by decide)

/-- An address of the web has an authority. -/
theorem IsRead.hasAuthority_of_web {u : Url} (h : IsRead u)
    (hweb : (defaultPort? u.scheme).isSome) : u.hasAuthority = true := by
  by_contra hbare
  have hkind := (h.bare (by simpa using hbare)).1
  rw [schemeKind] at hkind
  split at hkind
  · cases hkind
  · simp at hkind

/-- The name behind the slashes of an origin is the host of the address. -/
theorem hostText_of_endpoint {host rest : List Char} {u v : Url} (hname : IsPlainName host)
    (hu : IsRead u) (hv : IsRead v)
    (hfrom : (v = u ∧ (defaultPort? u.scheme).isSome) ∨ ∃ inner, parse u.path = .ok inner)
    (h : v.endpoint ++ u.path.toList = host ++ '/' :: rest) : u.hostText.toList = host := by
  have hslash := hv.isHostText_endpoint.slash
  rcases hfrom with ⟨rfl, hweb⟩ | ⟨inner, hinner⟩
  · rcases hu.path (hu.hasAuthority_of_web hweb) with hpath | ⟨more, hpath⟩
    · rw [hpath, List.append_nil] at h
      exact absurd (h ▸ List.mem_append_right host List.mem_cons_self) hslash
    · rw [hpath] at h
      obtain ⟨hendpoint, -⟩ := append_cons_inj h hslash hname.slash_not_mem
      rcases portText_cases v with hport | ⟨n, hport⟩
      · rwa [endpoint, hport, List.append_nil] at hendpoint
      · have hcolon := hname.colon_not_mem
        rw [← hendpoint, endpoint, hport] at hcolon
        exact absurd (List.mem_append_right _ List.mem_cons_self) hcolon
  · rcases List.append_eq_append_iff.1 h with ⟨x, rfl, hx⟩ | ⟨x, hx, hrest⟩
    · exact absurd (List.mem_append_right _ (colon_mem_of_parse hinner hx)) hname.colon_not_mem
    · cases x with
      | nil => exact absurd (colon_mem_of_parse (x := []) hinner hrest.symm) List.not_mem_nil
      | cons c x =>
          cases hrest
          exact absurd (hx ▸ List.mem_append_right host List.mem_cons_self) hslash

/-- A mention at the scheme of an origin names the host of the address. -/
theorem hostText_of_originPath_web {scheme : String} {host rest : List Char} {u : Url}
    (hscheme : scheme = "http" ∨ scheme = "https") (hname : IsPlainName host) (hu : IsRead u)
    (h : (u.originText ++ u.path).toList = scheme.toList ++ (mention host ++ rest)) :
    u.hostText.toList = host := by
  rcases originPath_cases hu with hnull | ⟨v, hv, htext, hfrom⟩
  · rw [hnull] at h
    rcases hscheme with rfl | rfl <;> exact absurd (congrArg List.head? h) (by simp)
  · have hcolon : ':' ∉ scheme.toList := by
      rcases hscheme with rfl | rfl <;> decide
    have hv' : ':' ∉ v.scheme.toList := fun hmem => by
      have := hv.scheme _ hmem
      exact absurd this (by decide)
    have hcut : v.scheme.toList ++ ':' :: ('/' :: '/' :: (v.endpoint ++ u.path.toList)) =
        scheme.toList ++ ':' :: ('/' :: '/' :: (host ++ '/' :: rest)) := by
      rw [← htext, h, mention_append]
    obtain ⟨-, hbehind⟩ := append_cons_inj hcut hv' hcolon
    exact hostText_of_endpoint hname hu hv hfrom (by simpa using hbehind)

/-- A mention in an origin with its path names the host of the address or stands in the
path. -/
theorem hostText_of_originPath {host before rest : List Char} {u : Url} (hname : IsPlainName host)
    (hu : IsRead u) (h : (u.originText ++ u.path).toList = before ++ (mention host ++ rest)) :
    u.hostText.toList = host ∨ mention host <:+: u.path.toList := by
  have hpath : ∀ e before, IsHostText e → e ++ u.path.toList = before ++ (mention host ++ rest) →
      mention host <:+: u.path.toList := by
    intro e before he heq
    rw [mention_append] at heq
    obtain ⟨more, -, hmore⟩ := he.cut heq
    exact ⟨more, rest, by rw [hmore, List.append_assoc, mention_append]⟩
  rcases originPath_cases hu with hnull | ⟨v, hv, htext, hfrom⟩
  · exact Or.inr (hpath "null".toList before ⟨by decide, by decide, by decide⟩ (hnull ▸ h))
  · rw [htext, mention_append] at h
    -- The mention begins at the colon of the scheme, or behind the slashes that follow it.
    obtain ⟨more, -, hmore⟩ := hv.scheme_isHostText.cut h
    rcases append_cons_cases (a := []) hmore List.not_mem_nil with ⟨-, hhost⟩ | ⟨more, -, hbehind⟩
    · exact Or.inl (hostText_of_endpoint hname hu hv hfrom (by simpa using hhost))
    · obtain ⟨more, -, hmore⟩ := append_cut (a := ['/', '/']) hbehind (by decide)
      exact Or.inr (hpath v.endpoint more hv.isHostText_endpoint (by rwa [mention_append]))

end NavPolicy.Url
