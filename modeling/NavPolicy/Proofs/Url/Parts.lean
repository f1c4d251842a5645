import Mathlib.Data.List.TakeWhile
import NavPolicy.Proofs.Success
import NavPolicy.Proofs.Url.Characters

/-!
# What reading an address gives

`Reads` lists the ways in which the text behind a scheme is read, one for each kind of
scheme, and `IsRead` collects what holds of every address that was read: its host ends
before the next slash, its path begins with one where an authority is written, and no line
feed is left in it.
-/

namespace NavPolicy.Url

theorem isHostText_of_readHost {k : SchemeKind} {text : List Char} {host : Host}
    (h : readHost k text = .ok host) : IsHostText host.text.toList := by
  rw [readHost] at h
  split at h
  · exact isHostText_of_domainHost h
  · exact isHostText_of_plainHost h

/-- How the text behind the colon of a scheme is read. -/
inductive Reads (scheme : String) : List Char → Url → Prop where
  | file {rest u} (hkind : schemeKind scheme = .file) (h : fileUrl rest = .ok u) :
      Reads scheme rest u
  | web {rest u} (hkind : schemeKind scheme = .web)
      (h : withAuthority .web scheme (rest.dropWhile fun c => c == '/' || c == '\\') = .ok u) :
      Reads scheme rest u
  | authority {rest u} (hkind : schemeKind scheme = .other)
      (h : withAuthority .other scheme rest = .ok u) : Reads scheme ('/' :: '/' :: rest) u
  | plain {rest} (hkind : schemeKind scheme = .other)
      (hrest : ∀ more, rest ≠ '/' :: '/' :: more) :
      Reads scheme rest (withoutAuthority scheme rest)

/-- Reading an address goes by its scheme. -/
theorem reads_of_parse {text : String} {u : Url} (h : parse text = .ok u) :
    ∃ scheme rest, splitScheme? (significant text.toList) = some (scheme, rest) ∧
      Reads (String.ofList scheme) rest u := by
  simp only [parse, parseChars] at h
  split at h
  · cases h
  · rename_i scheme rest hsplit
    refine ⟨scheme, rest, hsplit, ?_⟩
    split at h
    · rename_i hkind
      exact .file hkind h
    · rename_i hkind
      exact .web hkind h
    · rename_i hkind
      split at h
      · exact .authority hkind h
      · rename_i hrest
        cases h
        exact .plain hkind hrest

/-- A scheme is what stands before the first colon, in small letters. -/
theorem splitScheme?_eq_some {cs scheme rest : List Char}
    (h : splitScheme? cs = some (scheme, rest)) :
    ∃ raw, cs = raw ++ ':' :: rest ∧ scheme = raw.map Char.toLower ∧
      ∀ c ∈ raw, isSchemeChar c = true := by
  rw [splitScheme?] at h
  split at h
  · rename_i first more rest' htake hdrop
    split at h
    · cases h
      refine ⟨first :: more, ?_, rfl, ?_⟩
      · rw [← htake, ← hdrop, List.takeWhile_append_dropWhile]
      · rw [← htake]
        intro c hc
        exact List.mem_takeWhile_imp hc
    · cases h
  · cases h

/-! ## The parts of an authority -/

/-- The parts of an address with an authority: what precedes the host was read as
credentials, and what follows the port as path and tail. -/
theorem withAuthority_eq_ok {k : SchemeKind} {scheme : String} {cs : List Char} {u : Url}
    (h : withAuthority k scheme cs = .ok u) :
    ∃ (credentials hostChars rest : List Char) (host : Host) (port : Option Nat),
      readHost k hostChars = .ok host ∧ u = {
      scheme := scheme
      username := (readCredentials credentials).1
      password := (readCredentials credentials).2
      hasAuthority := true
      host := if host == .name "" then none else some host
      port := port
      path := String.ofList (pathAfterAuthority k (rest.takeWhile fun c => !isPathEnd c)).1
      query := (readTail k (rest.dropWhile fun c => !isPathEnd c)).1
      fragment := (readTail k (rest.dropWhile fun c => !isPathEnd c)).2 } := by
  rw [withAuthority] at h
  simp only at h
  split at h
  · cases h
  · split at h
    · cases h
    · obtain ⟨host, hhost, h⟩ := bind_eq_ok.1 h
      split at h
      · cases h
      · obtain ⟨port, hport, h⟩ := bind_eq_ok.1 h
        split at h
        · cases h
        · cases h
          exact ⟨_, _, _, host, _, hhost, rfl⟩

/-! ## Paths -/

/-- One segment keeps a property of the characters of all segments, if the property holds of
the colon that is written behind a drive letter. -/
theorem PathState.forall_mem_take {P : Char → Prop} (hcolon : P ':') {k : SchemeKind}
    {st : PathState} {segment : List Char} (hst : ∀ s ∈ st.finished, ∀ c ∈ s, P c)
    (hsegment : ∀ c ∈ segment, P c) (last : Bool) :
    ∀ s ∈ (st.take k segment last).finished, ∀ c ∈ s, P c := by
  have hend : ∀ s ∈ (if last then [[]] else [] : List (List Char)), ∀ c ∈ s, P c := by
    cases last <;> simp
  rw [PathState.take]
  simp only
  split
  · intro s hs
    rcases List.mem_append.1 hs with hs | hs
    · exact hend s hs
    · split at hs
      · cases hs
      · rename_i before more heq
        rw [heq] at hst
        split at hs
        · exact hst s hs
        · exact hst s (List.mem_cons_of_mem _ hs)
  · split
    · intro s hs
      rcases List.mem_append.1 hs with hs | hs
      · exact hend s hs
      · exact hst s hs
    · split
      · intro s hs c hc
        rw [List.mem_singleton.1 hs] at hc
        rcases List.mem_append.1 hc with hc | hc
        · exact hsegment c (List.mem_of_mem_take hc)
        · rw [List.mem_singleton.1 hc]
          exact hcolon
      · split
        · intro s hs c hc
          simp only [List.mem_cons, List.not_mem_nil, or_false] at hs
          rcases hs with rfl | rfl
          · exact hsegment c (List.mem_of_mem_drop hc)
          · exact hsegment c (List.mem_of_mem_take hc)
        · intro s hs
          rcases List.mem_cons.1 hs with rfl | hs
          · exact hsegment
          · exact hst s hs

/-- All segments keep what each of them keeps. -/
theorem forall_mem_takeSegments {P : Char → Prop} (hcolon : P ':') {k : SchemeKind}
    {st : PathState} {segs : List (List Char)} (hst : ∀ s ∈ st.finished, ∀ c ∈ s, P c)
    (hsegs : ∀ s ∈ segs, ∀ c ∈ s, P c) :
    ∀ s ∈ (takeSegments k st segs).finished, ∀ c ∈ s, P c := by
  induction segs generalizing st with
  | nil => exact hst
  | cons segment rest ih =>
      rw [List.forall_mem_cons] at hsegs
      cases rest with
      | nil => exact PathState.forall_mem_take hcolon hst hsegs.1 true
      | cons next rest =>
          apply ih
          · exact PathState.forall_mem_take hcolon hst hsegs.1 false
          · exact hsegs.2

/-- A path that is read holds slashes and what its encoded segments hold. -/
theorem not_mem_readPath {c : Char} (h : isRemoved pathSet c = true) (hslash : c ≠ '/')
    (hcolon : c ≠ ':') (k : SchemeKind) (text : List Char) : c ∉ (readPath k text).1 := by
  have hsegs : ∀ s ∈ segments k text, ∀ d ∈ s, d ≠ c := by
    intro s hs d hd
    obtain ⟨part, -, rfl⟩ := List.mem_map.1 hs
    rintro rfl
    exact not_mem_percentEncode h part hd
  have htext :
      c ∉ segmentsText (takeSegments k ⟨[], false⟩ (segments k text)).finished.reverse := by
    intro hmem
    obtain ⟨s, hs, hmem⟩ := List.mem_flatMap.1 hmem
    rcases List.mem_cons.1 hmem with hc | hc
    · exact hslash hc
    · exact forall_mem_takeSegments hcolon.symm (by simp) hsegs s (List.mem_reverse.1 hs) c hc rfl
  rw [readPath]
  simp only
  split
  · intro hmem
    rcases List.mem_cons.1 hmem with hc | hc
    · exact hslash hc
    · exact htext ((List.dropWhile_sublist _).mem hc)
  · exact htext

theorem not_mem_pathAfterAuthority {c : Char} (h : isRemoved pathSet c = true) (hslash : c ≠ '/')
    (hcolon : c ≠ ':') (k : SchemeKind) (cs : List Char) : c ∉ (pathAfterAuthority k cs).1 := by
  unfold pathAfterAuthority
  split
  · split
    · simpa using hslash
    · exact List.not_mem_nil
  · split
    · exact not_mem_readPath h hslash hcolon _ _
    · exact not_mem_readPath h hslash hcolon _ _

/-- A path that is read begins with a slash if it holds anything. -/
theorem readPath_shape (k : SchemeKind) (text : List Char) :
    (readPath k text).1 = [] ∨ ∃ rest, (readPath k text).1 = '/' :: rest := by
  rw [readPath]
  simp only
  split
  · exact Or.inr ⟨_, rfl⟩
  · cases (takeSegments k ⟨[], false⟩ (segments k text)).finished.reverse with
    | nil => exact Or.inl rfl
    | cons s found => exact Or.inr ⟨_, rfl⟩

theorem pathAfterAuthority_shape (k : SchemeKind) (cs : List Char) :
    (pathAfterAuthority k cs).1 = [] ∨ ∃ rest, (pathAfterAuthority k cs).1 = '/' :: rest := by
  unfold pathAfterAuthority
  split
  · split
    · exact Or.inr ⟨[], rfl⟩
    · exact Or.inl rfl
  · split
    · exact readPath_shape _ _
    · exact readPath_shape _ _

/-! ## Queries and fragments -/

/-- A part of an address that may be missing holds no line feed. -/
def NoLineFeed (part : Option String) : Prop := ∀ text, part = some text → '\n' ∉ text.toList

private theorem noLineFeed_none : NoLineFeed none := by
  intro text h
  cases h

private theorem noLineFeed_percentEncode (named cs : List Char) :
    NoLineFeed (some (String.ofList (percentEncode named cs))) := by
  intro text h
  cases h
  rw [String.toList_ofList]
  exact not_mem_percentEncode (isRemoved_newline _) _

theorem noLineFeed_readTail (k : SchemeKind) (cs : List Char) :
    NoLineFeed (readTail k cs).1 ∧ NoLineFeed (readTail k cs).2 := by
  constructor
  · simp only [readTail]
    split
    · exact noLineFeed_none
    · exact noLineFeed_percentEncode _ _
  · simp only [readTail]
    split
    · exact noLineFeed_none
    · exact noLineFeed_percentEncode _ _

/-! ## Whole addresses -/

/-- What holds of every address that was read. -/
structure IsRead (u : Url) : Prop where
  scheme : ∀ c ∈ u.scheme.toList, isSchemeChar c = true
  host : IsHostText u.hostText.toList
  /-- Where an authority is written, the path begins behind it with a slash. -/
  path : u.hasAuthority = true → u.path.toList = [] ∨ ∃ rest, u.path.toList = '/' :: rest
  /-- Only schemes without rules of their own do without an authority. -/
  bare : u.hasAuthority = false → schemeKind u.scheme = .other ∧ u.host = none
  username : '\n' ∉ u.username.toList
  password : '\n' ∉ u.password.toList
  newline : '\n' ∉ u.path.toList
  query : NoLineFeed u.query
  fragment : NoLineFeed u.fragment

theorem isRead_of_withAuthority {k : SchemeKind} {scheme : String} {cs : List Char} {u : Url}
    (hscheme : ∀ c ∈ scheme.toList, isSchemeChar c = true)
    (h : withAuthority k scheme cs = .ok u) : IsRead u := by
  obtain ⟨credentials, hostChars, rest, host, port, hhost, rfl⟩ := withAuthority_eq_ok h
  have hpath := pathAfterAuthority_shape k (rest.takeWhile fun c => !isPathEnd c)
  have hnewline := not_mem_pathAfterAuthority (isRemoved_newline _) (by decide) (by decide) k
    (rest.takeWhile fun c => !isPathEnd c)
  obtain ⟨hquery, hfragment⟩ := noLineFeed_readTail k (rest.dropWhile fun c => !isPathEnd c)
  exact {
    scheme := hscheme
    host := by
      simp only [hostText]
      split
      · exact isHostText_nil
      · exact isHostText_of_readHost hhost
    path := fun _ => by simpa only [String.toList_ofList] using hpath
    bare := fun hbare => by cases hbare
    username := by
      simp only [readCredentials, String.toList_ofList]
      exact not_mem_percentEncode (isRemoved_newline _) _
    password := by
      simp only [readCredentials, String.toList_ofList]
      exact not_mem_percentEncode (isRemoved_newline _) _
    newline := by simpa only [String.toList_ofList] using hnewline
    query := hquery
    fragment := hfragment }

theorem isRead_withoutAuthority {scheme : String} {cs : List Char}
    (hscheme : ∀ c ∈ scheme.toList, isSchemeChar c = true)
    (hkind : schemeKind scheme = .other) : IsRead (withoutAuthority scheme cs) := by
  obtain ⟨hquery, hfragment⟩ := noLineFeed_readTail .other (cs.dropWhile fun c => !isPathEnd c)
  exact {
    scheme := hscheme
    host := isHostText_nil
    path := fun hauthority => by cases hauthority
    bare := fun _ => ⟨hkind, rfl⟩
    username := by simp [withoutAuthority]
    password := by simp [withoutAuthority]
    newline := by
      simp only [withoutAuthority, String.toList_ofList]
      split
      · exact not_mem_readPath (isRemoved_newline _) (by decide) (by decide) _ _
      · exact not_mem_percentEncode (isRemoved_newline _) _
    query := hquery
    fragment := hfragment }

/-- The parts of the address of a file. -/
theorem fileUrl_eq_ok {cs : List Char} {u : Url} (h : fileUrl cs = .ok u) :
    ∃ (hostChars rest : List Char) (host : Option Host), fileHost hostChars = .ok host ∧ u = {
      scheme := "file"
      hasAuthority := true
      host := if (pathAfterAuthority .file (rest.takeWhile fun c => !isPathEnd c)).2 then none
        else host
      path := String.ofList (pathAfterAuthority .file (rest.takeWhile fun c => !isPathEnd c)).1
      query := (readTail .file (rest.dropWhile fun c => !isPathEnd c)).1
      fragment := (readTail .file (rest.dropWhile fun c => !isPathEnd c)).2 } := by
  unfold fileUrl at h
  simp only at h
  obtain ⟨host, hhost, h⟩ := bind_eq_ok.1 h
  cases h
  exact ⟨_, _, host, hhost, rfl⟩

private theorem isHostText_of_fileHost {cs : List Char} {host : Option Host}
    (h : fileHost cs = .ok host) : IsHostText ((host.map Host.text).getD "").toList := by
  rw [fileHost] at h
  split at h
  · cases h
    exact isHostText_nil
  · cases hdomain : domainHost cs with
    | error e => simp [hdomain, Except.map] at h
    | ok found =>
        rw [hdomain] at h
        simp only [Except.map] at h
        cases h
        split
        · exact isHostText_nil
        · exact isHostText_of_domainHost hdomain

theorem isRead_of_fileUrl {cs : List Char} {u : Url} (h : fileUrl cs = .ok u) : IsRead u := by
  obtain ⟨hostChars, rest, host, hhost, rfl⟩ := fileUrl_eq_ok h
  have hpath := pathAfterAuthority_shape .file (rest.takeWhile fun c => !isPathEnd c)
  have hnewline := not_mem_pathAfterAuthority (isRemoved_newline _) (by decide) (by decide) .file
    (rest.takeWhile fun c => !isPathEnd c)
  obtain ⟨hquery, hfragment⟩ := noLineFeed_readTail .file (rest.dropWhile fun c => !isPathEnd c)
  exact {
    scheme := List.all_eq_true.1 (by decide : "file".toList.all isSchemeChar = true)
    host := by
      simp only [hostText]
      split
      · exact isHostText_nil
      · exact isHostText_of_fileHost hhost
    path := fun _ => by simpa only [String.toList_ofList] using hpath
    bare := fun hbare => by cases hbare
    username := (by decide : '\n' ∉ "".toList)
    password := (by decide : '\n' ∉ "".toList)
    newline := by simpa only [String.toList_ofList] using hnewline
    query := hquery
    fragment := hfragment }

private theorem isSchemeChar_toLower {c : Char} (h : isSchemeChar c = true) :
    isSchemeChar c.toLower = true := by
  unfold Char.toLower
  split
  · rename_i hupper
    have hlow : 65 ≤ c.val.toNat := hupper.1
    have hhigh : c.val.toNat ≤ 90 := hupper.2
    have hval : (c.val + ('a'.val - 'A'.val)).toNat = c.val.toNat + 32 := by
      have hshift : ('a'.val - 'A'.val).toNat = 32 := rfl
      rw [UInt32.toNat_add, hshift]
      omega
    have ha : 'a'.val.toNat = 97 := rfl
    have hz : 'z'.val.toNat = 122 := rfl
    have hfrom : 'a'.val ≤ c.val + ('a'.val - 'A'.val) := by
      rw [UInt32.le_iff_toNat_le]
      omega
    have hto : c.val + ('a'.val - 'A'.val) ≤ 'z'.val := by
      rw [UInt32.le_iff_toNat_le]
      omega
    have hlower : ∀ hvalid, (Char.mk (c.val + ('a'.val - 'A'.val)) hvalid).isLower = true :=
      fun _ => Bool.and_eq_true_iff.2 ⟨decide_eq_true hfrom, decide_eq_true hto⟩
    have halpha : ∀ hvalid, (Char.mk (c.val + ('a'.val - 'A'.val)) hvalid).isAlpha = true :=
      fun hvalid => Bool.or_eq_true_iff.2 (Or.inr (hlower hvalid))
    simp only [isSchemeChar, Char.isAlphanum, Bool.or_eq_true]
    exact Or.inl (Or.inl (Or.inl (Or.inl (halpha _))))
  · exact h

/-- Whatever was read is an address of the kind described. -/
theorem isRead_of_parse {text : String} {u : Url} (h : parse text = .ok u) : IsRead u := by
  obtain ⟨scheme, rest, hsplit, hreads⟩ := reads_of_parse h
  obtain ⟨raw, -, rfl, hraw⟩ := splitScheme?_eq_some hsplit
  have hscheme : ∀ c ∈ (String.ofList (raw.map Char.toLower)).toList,
      isSchemeChar c = true := by
    intro c hc
    rw [String.toList_ofList] at hc
    obtain ⟨d, hd, rfl⟩ := List.mem_map.1 hc
    exact isSchemeChar_toLower (hraw d hd)
  cases hreads with
  | file _ h => exact isRead_of_fileUrl h
  | web _ h => exact isRead_of_withAuthority hscheme h
  | authority _ h => exact isRead_of_withAuthority hscheme h
  | plain hkind _ => exact isRead_withoutAuthority hscheme hkind

theorem not_isSchemeChar {c : Char} (h : c = '/' ∨ c = ':' ∨ c = '\n') :
    isSchemeChar c = false := by
  rcases h with rfl | rfl | rfl <;> rfl

private theorem newline_not_mem_portText (u : Url) : '\n' ∉ u.portText.toList := by
  rw [portText]
  split
  · decide
  · intro h
    simp only [String.toList_append, List.mem_append] at h
    rcases h with h | h
    · exact absurd h (by decide)
    · exact absurd (isDigit_of_mem_repr h) (by decide)

/-- No line feed is left in the text of an address that was read. -/
theorem IsRead.newline_not_mem_text {u : Url} (h : IsRead u) : '\n' ∉ u.text.toList := by
  have hscheme : '\n' ∉ u.scheme.toList := fun hmem => by
    have := h.scheme _ hmem
    rw [not_isSchemeChar (Or.inr (Or.inr rfl))] at this
    cases this
  have hcredentials : '\n' ∉ u.credentials.toList := by
    rw [credentials]
    split
    · decide
    · have hpassword : '\n' ∉ (if u.password.isEmpty then "" else ":" ++ u.password).toList := by
        split
        · decide
        · simp [h.password]
      simp only [String.toList_append, List.mem_append, not_or]
      exact ⟨⟨h.username, hpassword⟩, by decide⟩
  have hfront : '\n' ∉ u.front.toList := by
    have hport := newline_not_mem_portText u
    rw [front]
    split
    · simp [hscheme, hcredentials, h.host.newline, hport]
    · split <;> simp [hscheme]
  rw [text, String.toList_append, String.toList_append, String.toList_append]
  simp only [List.mem_append, not_or]
  refine ⟨⟨⟨hfront, h.newline⟩, ?_⟩, ?_⟩
  · cases hquery : u.query with
    | none => decide
    | some q => simp [h.query q hquery]
  · cases hfragment : u.fragment with
    | none => decide
    | some f => simp [h.fragment f hfragment]

end NavPolicy.Url
