import NavPolicy.Proofs.Url.Parts

/-!
# Where a host is mentioned

A text mentions a host if it holds the host between `://` and a slash.  The first colon of
an address ends its scheme, so a mention at that colon names the host that is read; the only
way out is the address of a file, which may drop its host.
-/

namespace NavPolicy.Url

/-- The text that mentions a host. -/
def mention (host : List Char) : List Char := ':' :: '/' :: '/' :: (host ++ ['/'])

theorem mention_append (host rest : List Char) :
    mention host ++ rest = ':' :: '/' :: '/' :: (host ++ '/' :: rest) := by
  simp [mention]

/-- The characters of an address that count, behind its first colon. -/
def behindScheme (text : String) : List Char :=
  ((significant text.toList).dropWhile (· != ':')).drop 1

/-- A name that may be read as a domain: it holds some characters, and none that ends it. -/
structure IsPlainName (host : List Char) : Prop where
  nonempty : host ≠ []
  allowed : ∀ c ∈ host, Domain.isForbidden c = false

namespace IsPlainName

variable {host : List Char}

/-- A plain name holds none of the signs that cut an address. -/
theorem ne_of_mem (h : IsPlainName host) {c : Char} (hc : c ∈ host) :
    c ≠ '/' ∧ c ≠ '\\' ∧ c ≠ '?' ∧ c ≠ '#' ∧ c ≠ '@' ∧ c ≠ ':' ∧ c ≠ '|' ∧ c ≠ '[' ∧ c ≠ ']' := by
  have hc := h.allowed c hc
  refine ⟨?_, ?_, ?_, ?_, ?_, ?_, ?_, ?_, ?_⟩ <;>
    · rintro rfl
      exact absurd hc (by decide)

theorem isAuthorityEnd_eq_false (h : IsPlainName host) (k : SchemeKind) {c : Char}
    (hc : c ∈ host) : isAuthorityEnd k c = false := by
  obtain ⟨hslash, hback, hquery, hhash, -⟩ := h.ne_of_mem hc
  simp [isAuthorityEnd, SchemeKind.isSlash, isPathEnd, hslash, hback, hquery, hhash]

theorem colon_not_mem (h : IsPlainName host) : ':' ∉ host := fun hc => by
  have := h.allowed _ hc
  exact absurd this (by decide)

theorem slash_not_mem (h : IsPlainName host) : '/' ∉ host := fun hc => by
  have := h.allowed _ hc
  exact absurd this (by decide)

theorem isOuterBlank_eq_false (h : IsPlainName host) {c : Char} (hc : c ∈ host) :
    isOuterBlank c = false := by
  have hc := h.allowed c hc
  simp only [Domain.isForbidden, Bool.or_eq_false_iff] at hc
  exact hc.1.1

end IsPlainName

theorem isAuthorityEnd_slash (k : SchemeKind) : isAuthorityEnd k '/' = true := by
  simp [isAuthorityEnd, SchemeKind.isSlash]

theorem takeWhile_plainName {host : List Char} (hname : IsPlainName host) (k : SchemeKind)
    (rest : List Char) :
    (host ++ '/' :: rest).takeWhile (fun c => !isAuthorityEnd k c) = host ∧
      (host ++ '/' :: rest).dropWhile (fun c => !isAuthorityEnd k c) = '/' :: rest := by
  have hinside : ∀ c ∈ host, (!isAuthorityEnd k c) = true := fun c hc => by
    rw [hname.isAuthorityEnd_eq_false k hc]
    rfl
  rw [List.takeWhile_append_of_pos hinside, List.dropWhile_append_of_pos hinside]
  simp [isAuthorityEnd_slash]

/-- A plain name in an authority is the host. -/
theorem splitHost_plainName {host : List Char} (hname : ∀ c ∈ host, Domain.isForbidden c = false)
    (k : SchemeKind) (before rest : List Char) :
    splitHost k false before (host ++ '/' :: rest) = (before.reverse ++ host, '/' :: rest) := by
  induction host generalizing before with
  | nil => simp [splitHost, isAuthorityEnd_slash]
  | cons c host ih =>
      have hplain : IsPlainName (c :: host) := ⟨by simp, hname⟩
      obtain ⟨-, -, -, -, -, hcolon, -, hopen, -⟩ := hplain.ne_of_mem List.mem_cons_self
      have hend := hplain.isAuthorityEnd_eq_false k List.mem_cons_self
      rw [List.forall_mem_cons] at hname
      have hstep : splitHost k false before (c :: host ++ '/' :: rest) =
          splitHost k false (c :: before) (host ++ '/' :: rest) := by
        simp [splitHost, hcolon, hopen, hend]
      rw [hstep, ih hname.2, List.reverse_cons, List.append_assoc]
      rfl

/-- A plain name behind the slashes of an authority is what the host is read from. -/
theorem host_of_withAuthority {k : SchemeKind} {scheme : String} {host rest : List Char} {u : Url}
    (hname : IsPlainName host) (h : withAuthority k scheme (host ++ '/' :: rest) = .ok u) :
    ∃ found, readHost k host = .ok found ∧
      u.host = (if found == .name "" then none else some found) ∧ u.scheme = scheme := by
  have hat : host.contains '@' = false := by
    simp only [List.contains_eq_mem, decide_eq_false_iff_not]
    exact fun hc => (hname.ne_of_mem hc).2.2.2.2.1 rfl
  have hsplit := splitHost_plainName hname.allowed k [] rest
  obtain ⟨htake, hdrop⟩ := takeWhile_plainName hname k rest
  have hempty : host.isEmpty = false := by
    simpa using hname.nonempty
  rw [withAuthority] at h
  simp only [htake, hdrop, splitCredentials?, hat, Bool.false_eq_true, if_false,
    Option.getD_none, hsplit, Bool.false_and, List.reverse_nil, List.nil_append, hempty,
    Bool.and_false] at h
  obtain ⟨found, hfound, h⟩ := bind_eq_ok.1 h
  refine ⟨found, hfound, ?_⟩
  split at h
  · cases h
  · obtain ⟨port, hport, h⟩ := bind_eq_ok.1 h
    split at h
    · cases h
    · cases h
      exact ⟨rfl, rfl⟩

/-- The address of a file drops a plain name or keeps what is read from it. -/
theorem host_of_fileUrl {host rest : List Char} {u : Url} (hname : IsPlainName host)
    (h : fileUrl ('/' :: '/' :: (host ++ '/' :: rest)) = .ok u) :
    ∃ found, fileHost host = .ok found ∧ (u.host = none ∨ u.host = found) := by
  have hdrive : isDriveLetter host = false := by
    unfold isDriveLetter
    split
    · rename_i a b
      obtain ⟨-, -, -, -, -, hcolon, hbar, -⟩ := hname.ne_of_mem (c := b) (by simp)
      simp [hcolon, hbar]
    · rfl
  obtain ⟨htake, hdrop⟩ := takeWhile_plainName hname .file rest
  have hslash : SchemeKind.file.isSlash '/' = true := rfl
  rw [fileUrl] at h
  simp only [htake, hdrop, hslash, hdrive, Bool.and_self, if_true, Bool.false_eq_true,
    if_false] at h
  obtain ⟨found, hfound, h⟩ := bind_eq_ok.1 h
  refine ⟨found, hfound, ?_⟩
  cases h
  simp only
  split
  · exact Or.inl rfl
  · exact Or.inr rfl

/-! ## Mentions in a text -/

/-- A text that is kept shields what is behind it. -/
theorem dropWhile_append_kept {p : Char → Bool} {kept : List Char} (hne : kept ≠ [])
    (hkept : ∀ c ∈ kept, p c = false) (before after : List Char) :
    (before ++ (kept ++ after)).dropWhile p = before.dropWhile p ++ (kept ++ after) := by
  obtain ⟨c, more, rfl⟩ := List.exists_cons_of_ne_nil hne
  have hc : p c = false := hkept c List.mem_cons_self
  rw [List.dropWhile_append]
  split
  · rename_i hempty
    rw [List.isEmpty_iff.1 hempty]
    simp [hc]
  · rfl

theorem filter_kept {kept : List Char} (hkept : ∀ c ∈ kept, isOuterBlank c = false) :
    kept.filter (fun c => !isInnerBlank c) = kept := by
  rw [List.filter_eq_self]
  intro c hc
  have hinner : isInnerBlank c ≠ true := by
    intro hblank
    have houter := hkept c hc
    simp only [isInnerBlank, Bool.or_eq_true, beq_iff_eq] at hblank
    rcases hblank with (rfl | rfl) | rfl <;> exact absurd houter (by decide)
  simp [hinner]

/-- A run without blanks stays as it is among the characters that count, and what precedes
it loses blanks only. -/
theorem significant_append {kept : List Char} (hne : kept ≠ [])
    (hkept : ∀ c ∈ kept, isOuterBlank c = false) (before after : List Char) :
    ∃ after', significant (before ++ (kept ++ after)) =
      (before.dropWhile isOuterBlank).filter (fun c => !isInnerBlank c) ++ (kept ++ after') := by
  have hback : (((before ++ (kept ++ after)).dropWhile isOuterBlank).reverse.dropWhile
      isOuterBlank).reverse = before.dropWhile isOuterBlank ++
        (kept ++ (after.reverse.dropWhile isOuterBlank).reverse) := by
    have hne' : kept.reverse ≠ [] := by simpa using hne
    have hkept' : ∀ c ∈ kept.reverse, isOuterBlank c = false := by simpa using hkept
    rw [dropWhile_append_kept hne hkept, List.reverse_append, List.reverse_append,
      List.append_assoc, dropWhile_append_kept hne' hkept']
    simp
  refine ⟨((after.reverse.dropWhile isOuterBlank).reverse).filter (fun c => !isInnerBlank c), ?_⟩
  rw [significant, hback, List.filter_append, List.filter_append, filter_kept hkept]

/-- Nothing is dropped at the ends of a text that holds nothing of the kind. -/
theorem dropEnds_eq_self {p : Char → Bool} {cs : List Char} (h : ∀ c ∈ cs, p c = false) :
    ((cs.dropWhile p).reverse.dropWhile p).reverse = cs := by
  have hdrop : ∀ ds : List Char, (∀ c ∈ ds, p c = false) → ds.dropWhile p = ds := by
    intro ds hds
    apply List.dropWhile_eq_self_iff.2
    intro hlength
    rw [hds _ (List.getElem_mem hlength)]
    exact Bool.false_ne_true
  rw [hdrop cs h, hdrop cs.reverse fun c hc => h c (List.mem_reverse.1 hc), List.reverse_reverse]

/-- A text without blanks counts as a whole. -/
theorem significant_eq_self {cs : List Char} (h : ∀ c ∈ cs, isOuterBlank c = false) :
    significant cs = cs := by
  rw [significant, dropEnds_eq_self h, filter_kept h]

theorem mention_ne_nil (host : List Char) : mention host ≠ [] := List.cons_ne_nil _ _

theorem IsPlainName.isOuterBlank_mention {host : List Char} (hname : IsPlainName host) :
    ∀ c ∈ mention host, isOuterBlank c = false := by
  intro c hc
  simp only [mention, List.mem_cons, List.mem_append, List.not_mem_nil, or_false] at hc
  rcases hc with rfl | rfl | rfl | hc | rfl
  · decide
  · decide
  · decide
  · exact hname.isOuterBlank_eq_false hc
  · decide

/-- A sign that does not stand in the front of a text stands behind it. -/
theorem append_cut {d : Char} {a b x y : List Char} (h : a ++ x = b ++ d :: y) (ha : d ∉ a) :
    ∃ more, b = a ++ more ∧ x = more ++ d :: y := by
  rcases List.append_eq_append_iff.1 h with ⟨more, rfl, hmore⟩ | ⟨more, rfl, hmore⟩
  · exact ⟨more, rfl, hmore⟩
  · cases more with
    | nil => exact ⟨[], by simp, by simpa using hmore.symm⟩
    | cons e more =>
        cases hmore
        exact absurd (List.mem_append_right b List.mem_cons_self) ha

/-- Of two ways to cut a text at a sign, the one whose front does not hold it comes first. -/
theorem append_cons_cases {d : Char} {a b x y : List Char} (h : a ++ d :: x = b ++ d :: y)
    (ha : d ∉ a) : (a = b ∧ x = y) ∨ ∃ more, b = a ++ d :: more ∧ x = more ++ d :: y := by
  obtain ⟨more, rfl, hmore⟩ := append_cut h ha
  cases more with
  | nil =>
      cases hmore
      exact Or.inl ⟨by simp, rfl⟩
  | cons e more =>
      cases hmore
      exact Or.inr ⟨more, rfl, rfl⟩

/-- A text is cut at the first place of a sign in one way only. -/
theorem append_cons_inj {d : Char} {a b x y : List Char} (h : a ++ d :: x = b ++ d :: y)
    (ha : d ∉ a) (hb : d ∉ b) : a = b ∧ x = y := by
  rcases append_cons_cases h ha with h | ⟨more, rfl, -⟩
  · exact h
  · exact absurd (List.mem_append_right a List.mem_cons_self) hb

/-- A scheme ends at the first colon. -/
theorem splitScheme?_colon {cs scheme rest : List Char}
    (h : splitScheme? cs = some (scheme, rest)) :
    ∃ raw, cs = raw ++ ':' :: rest ∧ scheme = raw.map Char.toLower ∧ ':' ∉ raw := by
  obtain ⟨raw, hraw, hscheme, hchars⟩ := splitScheme?_eq_some h
  refine ⟨raw, hraw, hscheme, fun hmem => ?_⟩
  have := hchars _ hmem
  exact absurd this (by decide)

theorem behindScheme_eq {text : String} {raw rest : List Char}
    (h : significant text.toList = raw ++ ':' :: rest) (hraw : ':' ∉ raw) :
    behindScheme text = rest := by
  have hkept : ∀ c ∈ raw, (c != ':') = true := by
    intro c hc
    simp only [bne_iff_ne, ne_eq]
    rintro rfl
    exact hraw hc
  rw [behindScheme, h, List.dropWhile_append_of_pos hkept]
  simp

/-! ## Names that are read as they are -/

/-- A domain name that addresses of the web keep as it is written. -/
structure IsKeptName (host : String) : Prop where
  ascii : ∀ c ∈ host.toList, c.toNat < 128
  kept : ∃ u, parse ("https://" ++ host ++ "/") = .ok u ∧ u.host = some (.name host)

private theorem eq_file_of_schemeKind {scheme : String} (h : schemeKind scheme = .file) :
    scheme = "file" := by
  rw [schemeKind] at h
  split at h
  · rename_i heq
    exact beq_iff_eq.1 heq
  · split at h <;> cases h

/-- A plain name stops the slashes in front of it. -/
theorem IsPlainName.dropWhile_slashes {host : List Char} (h : IsPlainName host)
    (rest : List Char) :
    ('/' :: '/' :: (host ++ rest)).dropWhile (fun c => c == '/' || c == '\\') = host ++ rest := by
  obtain ⟨c, more, rfl⟩ := List.exists_cons_of_ne_nil h.nonempty
  obtain ⟨hslash, hback, -⟩ := h.ne_of_mem (c := c) List.mem_cons_self
  simp [hslash, hback]

/-- Where the first colon of the characters that count is that of a mention, the scheme
stands in front of it and the host is read from the mention. -/
theorem host_of_mention {text : String} {raw host rest : List Char} {u : Url}
    (hname : IsPlainName host) (hraw : ':' ∉ raw)
    (htext : significant text.toList = raw ++ (mention host ++ rest)) (h : parse text = .ok u) :
    u.scheme = String.ofList (raw.map Char.toLower) ∧
      ((∃ found, readHost (schemeKind u.scheme) host = .ok found ∧
          u.host = (if found == .name "" then none else some found)) ∨
        (u.scheme = "file" ∧
          ∃ found, fileHost host = .ok found ∧ (u.host = none ∨ u.host = found))) := by
  obtain ⟨scheme, behind, hsplit, hreads⟩ := reads_of_parse h
  obtain ⟨raw', hcut, rfl, hraw'⟩ := splitScheme?_colon hsplit
  have hcut : raw ++ ':' :: ('/' :: '/' :: (host ++ '/' :: rest)) = raw' ++ ':' :: behind := by
    rw [← hcut, htext, mention_append]
  obtain ⟨rfl, hbehind⟩ := append_cons_inj hcut hraw hraw'
  have hauthority : ∀ kind, schemeKind (String.ofList (raw.map Char.toLower)) = kind →
      withAuthority kind (String.ofList (raw.map Char.toLower)) (host ++ '/' :: rest) = .ok u →
      u.scheme = String.ofList (raw.map Char.toLower) ∧
        ∃ found, readHost (schemeKind u.scheme) host = .ok found ∧
          u.host = (if found == .name "" then none else some found) := by
    rintro _ rfl h
    obtain ⟨found, hfound, hhost, hscheme⟩ := host_of_withAuthority hname h
    rw [← hscheme] at hfound
    exact ⟨hscheme, found, hfound, hhost⟩
  cases hreads with
  | file hkind h =>
      rw [← hbehind] at h
      have hscheme : u.scheme = "file" := by
        obtain ⟨_, _, _, _, rfl⟩ := fileUrl_eq_ok h
        rfl
      refine ⟨hscheme.trans (eq_file_of_schemeKind hkind).symm, Or.inr ⟨hscheme, ?_⟩⟩
      exact host_of_fileUrl hname h
  | web hkind h =>
      rw [← hbehind, hname.dropWhile_slashes] at h
      obtain ⟨hscheme, hhost⟩ := hauthority _ hkind h
      exact ⟨hscheme, Or.inl hhost⟩
  | @authority more _ hkind h =>
      have hmore : more = host ++ '/' :: rest := by
        simpa using hbehind.symm
      rw [hmore] at h
      obtain ⟨hscheme, hhost⟩ := hauthority _ hkind h
      exact ⟨hscheme, Or.inl hhost⟩
  | plain hkind hne => exact absurd hbehind.symm (hne _)

/-- An address that begins with `https://` is read as one of the web. -/
theorem withAuthority_of_https {text : String} {u : Url}
    (h : parse ("https://" ++ text) = .ok u) :
    ∃ rest, withAuthority .web "https" rest = .ok u := by
  have htext : ∃ rest, significant ("https://" ++ text).toList = "https".toList ++ ':' :: rest := by
    have hkept : ∀ c ∈ "https://".toList, isOuterBlank c = false := by simp [isOuterBlank]
    obtain ⟨after, hafter⟩ := significant_append (by decide) hkept [] text.toList
    exact ⟨'/' :: '/' :: after, by simpa using hafter⟩
  obtain ⟨rest, hrest⟩ := htext
  obtain ⟨scheme, behind, hsplit, hreads⟩ := reads_of_parse h
  obtain ⟨raw, hcut, rfl, hraw⟩ := splitScheme?_colon hsplit
  obtain ⟨hscheme, -⟩ := append_cons_inj (hrest.symm.trans hcut) (by decide) hraw
  subst hscheme
  cases hreads with
  | web _ h => exact ⟨_, h⟩
  | file hkind _ => exact absurd hkind (by decide)
  | authority hkind _ => exact absurd hkind (by decide)
  | plain hkind _ => exact absurd hkind (by decide)

namespace IsKeptName

variable {host : String}

theorem isPlainName (h : IsKeptName host) : IsPlainName host.toList := by
  obtain ⟨u, hparse, hhost⟩ := h.kept
  obtain ⟨rest, hread⟩ := withAuthority_of_https (by rwa [String.append_assoc] at hparse)
  obtain ⟨_, hostChars, _, found, _, hfound, rfl⟩ := withAuthority_eq_ok hread
  simp only at hhost
  split at hhost
  · cases hhost
  · cases hhost
    obtain ⟨hne, hallowed⟩ := name_of_domainHost hfound
    exact ⟨hne, hallowed⟩

theorem domainHost_eq (h : IsKeptName host) : domainHost host.toList = .ok (.name host) := by
  obtain ⟨u, hparse, hhost⟩ := h.kept
  have htext : ∃ rest, significant ("https://" ++ host ++ "/").toList =
      "https".toList ++ (mention host.toList ++ rest) := by
    obtain ⟨after, hafter⟩ := significant_append (mention_ne_nil host.toList)
      h.isPlainName.isOuterBlank_mention "https".toList []
    refine ⟨after, ?_⟩
    have haddress : ("https://" ++ host ++ "/").toList =
        "https".toList ++ (mention host.toList ++ []) := by
      simp [mention]
    rw [haddress, hafter]
    rfl
  obtain ⟨rest, hrest⟩ := htext
  obtain ⟨hscheme, ⟨found, hfound, hfound'⟩ | ⟨hfile, -⟩⟩ :=
    host_of_mention h.isPlainName (by decide) hrest hparse
  · have hweb : schemeKind u.scheme = .web := by
      rw [hscheme]
      decide
    rw [hhost] at hfound'
    split at hfound'
    · cases hfound'
    · cases hfound'
      rwa [hweb] at hfound
  · rw [hscheme] at hfile
    exact absurd hfile (by decide)

private theorem plainHost_eq (h : IsKeptName host) : plainHost host.toList = .ok (.name host) := by
  have hallowed := h.isPlainName.allowed
  have hhead : (host.toList.head? == some '[') = false := by
    rw [beq_eq_false_iff_ne]
    intro hhead
    exact (h.isPlainName.ne_of_mem (List.mem_of_head? hhead)).2.2.2.2.2.2.2.1 rfl
  have hbreaking : host.toList.any isHostBreaking = false := by
    rw [List.any_eq_false]
    intro c hc hbreaking
    simp only [isHostBreaking, List.contains_eq_mem, List.mem_cons, List.not_mem_nil, or_false,
      decide_eq_true_eq] at hbreaking
    have := hallowed c hc
    rcases hbreaking with rfl | rfl | rfl | rfl | rfl | rfl | rfl | rfl | rfl | rfl | rfl | rfl |
      rfl | rfl | rfl | rfl | rfl <;> exact absurd this (by decide)
  have hencode : percentEncode [] host.toList = host.toList := by
    refine percentEncode_eq_self fun c hc => ⟨?_, List.not_mem_nil⟩
    have hascii := h.ascii c hc
    have := hallowed c hc
    simp only [Domain.isForbidden, Bool.or_eq_false_iff, decide_eq_false_iff_not,
      beq_eq_false_iff_ne] at this
    simp only [isControl, Bool.or_eq_false_iff, decide_eq_false_iff_not]
    omega
  simp [plainHost, hhead, hbreaking, hencode]

private theorem ne_empty (h : IsKeptName host) : (Host.name host == .name "") = false := by
  rw [beq_eq_false_iff_ne]
  rintro ⟨rfl⟩
  exact h.isPlainName.nonempty rfl

/-- A kept name is read as it is, whatever the scheme. -/
theorem readHost_eq (h : IsKeptName host) (k : SchemeKind) :
    readHost k host.toList = .ok (.name host) := by
  rw [readHost]
  split
  · exact h.domainHost_eq
  · exact h.plainHost_eq

/-- The host of a file is the kept name, unless it is that of this machine. -/
theorem fileHost_eq (h : IsKeptName host) {found : Option Host}
    (hfound : fileHost host.toList = .ok found) : found = none ∨ found = some (.name host) := by
  have hempty : host.toList.isEmpty = false := by
    simpa using h.isPlainName.nonempty
  rw [fileHost] at hfound
  rw [hempty, h.domainHost_eq] at hfound
  simp only [Bool.false_eq_true, if_false, Except.map] at hfound
  cases hfound
  split
  · exact Or.inl rfl
  · exact Or.inr rfl

/-- The host that a mention at the first colon names is the one that is read. -/
theorem hostText_of_mention (hkept : IsKeptName host) {text : String} {raw rest : List Char}
    {u : Url} (hraw : ':' ∉ raw)
    (htext : significant text.toList = raw ++ (mention host.toList ++ rest))
    (h : parse text = .ok u) :
    u.scheme = String.ofList (raw.map Char.toLower) ∧
      (u.hostText = host ∨ (u.scheme = "file" ∧ u.host = none)) := by
  obtain ⟨hscheme, hhost⟩ := host_of_mention hkept.isPlainName hraw htext h
  refine ⟨hscheme, ?_⟩
  rcases hhost with ⟨found, hfound, hhost⟩ | ⟨hfile, found, hfound, hhost⟩
  · rw [hkept.readHost_eq] at hfound
    cases hfound
    rw [hkept.ne_empty] at hhost
    left
    rw [hostText, hhost]
    rfl
  · rcases hhost with hnone | hsome
    · exact Or.inr ⟨hfile, hnone⟩
    · rcases hkept.fileHost_eq hfound with rfl | rfl
      · exact Or.inr ⟨hfile, hsome⟩
      · left
        rw [hostText, hsome]
        rfl

/-- A text that begins with a scheme of the web and a mention of a kept name is an address on
that host. -/
theorem hostText_of_web (hkept : IsKeptName host) {scheme text : String} {rest : List Char}
    {u : Url} (hscheme : scheme = "http" ∨ scheme = "https")
    (htext : text.toList = scheme.toList ++ (mention host.toList ++ rest))
    (h : parse text = .ok u) : u.hostText = host := by
  obtain ⟨after, hafter⟩ := significant_append (mention_ne_nil host.toList)
    hkept.isPlainName.isOuterBlank_mention scheme.toList rest
  have hfront : (scheme.toList.dropWhile isOuterBlank).filter (fun c => !isInnerBlank c) =
      scheme.toList := by
    rcases hscheme with rfl | rfl <;> decide
  have hcolon : ':' ∉ scheme.toList := by
    rcases hscheme with rfl | rfl <;> decide
  rw [← htext, hfront] at hafter
  obtain ⟨hread, hhost | ⟨hfile, -⟩⟩ := hkept.hostText_of_mention hcolon hafter h
  · exact hhost
  · rw [hread] at hfile
    rcases hscheme with rfl | rfl <;> exact absurd hfile (by decide)

/-- A text that mentions a kept name is an address on that host, or drops the host of a file,
or mentions the name behind its scheme. -/
theorem hostText_of_text (hkept : IsKeptName host) {text : String} {before rest : List Char}
    {u : Url} (htext : text.toList = before ++ (mention host.toList ++ rest))
    (h : parse text = .ok u) :
    u.hostText = host ∨ (u.scheme = "file" ∧ u.host = none) ∨
      mention host.toList <:+: behindScheme text := by
  obtain ⟨after, hafter⟩ := significant_append (mention_ne_nil host.toList)
    hkept.isPlainName.isOuterBlank_mention before rest
  rw [← htext] at hafter
  by_cases hcolon : ':' ∈ (before.dropWhile isOuterBlank).filter (fun c => !isInnerBlank c)
  · obtain ⟨raw, more, hcut, hraw⟩ := List.eq_append_cons_of_mem hcolon
    have hcut : significant text.toList =
        raw ++ ':' :: (more ++ (mention host.toList ++ after)) := by
      rw [hafter, hcut]
      simp
    rw [behindScheme_eq hcut hraw]
    exact Or.inr (Or.inr ⟨more, after, by simp⟩)
  · rcases (hkept.hostText_of_mention hcolon hafter h).2 with hhost | hfile
    · exact Or.inl hhost
    · exact Or.inr (Or.inl hfile)

end IsKeptName

end NavPolicy.Url
