import Mathlib.Data.Bool.AllAny
import NavPolicy.Proofs.Url.Origin

/-!
# The text of an address tells its parts

No part of an address that was read holds the sign by which the part behind it begins: a path
holds neither a question mark nor a hash sign, a query no hash sign, and nothing in an authority
a slash.  So addresses with the same text have the same parts, as far as a target shows them.
-/

namespace NavPolicy.Url

/-! ## Cutting texts -/

/-- A text is cut in one way only in front of the first sign of a kind. -/
theorem append_tail_inj {p : Char → Bool} {a b x y : List Char} (h : a ++ x = b ++ y)
    (ha : ∀ c ∈ a, p c = false) (hb : ∀ c ∈ b, p c = false) (hx : ∀ c ∈ x.head?, p c = true)
    (hy : ∀ c ∈ y.head?, p c = true) : a = b ∧ x = y := by
  have hnil : ∀ {more front tail : List Char}, (∀ c ∈ front ++ more, p c = false) →
      (∀ c ∈ (more ++ tail).head?, p c = true) → more = [] := by
    intro more front tail hfront hhead
    cases more with
    | nil => rfl
    | cons c more =>
        have hfalse : p c = false := hfront c (List.mem_append_right front List.mem_cons_self)
        rw [hhead c rfl] at hfalse
        cases hfalse
  rcases List.append_eq_append_iff.1 h with ⟨more, rfl, rfl⟩ | ⟨more, rfl, rfl⟩
  · rw [hnil hb hx]
    exact ⟨by rw [List.append_nil], rfl⟩
  · rw [hnil ha hy]
    exact ⟨by rw [List.append_nil], rfl⟩

/-- No part of a split text holds a separator. -/
theorem eq_false_of_mem_splitOnP {p : Char → Bool} {text part : List Char}
    (h : part ∈ text.splitOnP p) : ∀ c ∈ part, p c = false := by
  induction text generalizing part with
  | nil =>
      rw [List.splitOnP_nil, List.mem_singleton] at h
      subst h
      exact List.forall_mem_nil _
  | cons c text ih =>
      rw [List.splitOnP_cons_eq_if_modifyHead] at h
      obtain ⟨first, more, hsplit⟩ := List.exists_cons_of_ne_nil (List.splitOnP_ne_nil p text)
      rw [hsplit] at h ih
      split at h
      · rcases List.mem_cons.1 h with rfl | h
        · exact List.forall_mem_nil _
        · exact ih h
      · rename_i hc
        rw [List.modifyHead_cons, List.mem_cons] at h
        rcases h with rfl | h
        · exact List.forall_mem_cons.2 ⟨Bool.eq_false_iff.2 hc, ih List.mem_cons_self⟩
        · exact ih (List.mem_cons_of_mem _ h)

/-! ## Hosts -/

/-- A host that is told from its neighbours in an authority. -/
structure IsDelimitedHost (s : List Char) : Prop where
  plain : ∀ c ∈ s, isPathEnd c = false ∧ c ≠ '@'
  /-- Colons stand only between brackets. -/
  bracket : ':' ∈ s → s.getLast? = some ']'

theorem isPathEnd_iff {c : Char} : isPathEnd c = true ↔ c = '?' ∨ c = '#' := by
  rw [isPathEnd, Bool.or_eq_true, beq_iff_eq, beq_iff_eq]

theorem isPathEnd_eq_false {c : Char} (hquery : c ≠ '?') (hfragment : c ≠ '#') :
    isPathEnd c = false :=
  Bool.eq_false_iff.2 fun h => (isPathEnd_iff.1 h).elim hquery hfragment

/-- A host of characters that exclude all delimiters. -/
theorem IsDelimitedHost.of_forall {s : List Char} (excluded : Char → Bool)
    (h : ∀ c ∈ s, excluded c = false) (hall : ['?', '#', '@', ':'].all excluded = true) :
    IsDelimitedHost s := by
  have hne : ∀ c ∈ s, c ∉ ['?', '#', '@', ':'] := by
    intro c hc hmem
    have hexcluded : excluded c = true := List.all_eq_true.1 hall c hmem
    rw [h c hc] at hexcluded
    cases hexcluded
  simp only [List.mem_cons, List.not_mem_nil, or_false, not_or] at hne
  exact {
    plain := fun c hc => ⟨isPathEnd_eq_false (hne c hc).1 (hne c hc).2.1, (hne c hc).2.2.1⟩
    bracket := fun hc => absurd rfl (hne _ hc).2.2.2 }

theorem isDelimitedHost_nil : IsDelimitedHost [] :=
  .of_forall (fun _ => true) (List.forall_mem_nil _) rfl

theorem isDelimitedHost_ipv6 (groups : List Nat) :
    IsDelimitedHost ("[" ++ ipv6Text groups ++ "]").toList where
  plain := by
    have hdigits : ∀ c ∈ "0123456789abcdef".toList, isPathEnd c = false ∧ c ≠ '@' :=
      List.all_iff_forall_prop.1 (by decide)
    intro c hc
    simp only [String.toList_append, List.mem_append] at hc
    rcases hc with (hc | hc) | hc
    · rw [show c = '[' from List.mem_singleton.1 hc]
      decide
    · rcases mem_ipv6Text hc with rfl | hc
      · decide
      · exact hdigits c hc
    · rw [show c = ']' from List.mem_singleton.1 hc]
      decide
  bracket := by
    intro _
    have hlast : ("[" ++ ipv6Text groups ++ "]").toList =
        ("[" ++ ipv6Text groups).toList ++ [']'] := String.toList_append
    rw [hlast, List.getLast?_concat]

theorem isDelimitedHost_of_domainHost {text : List Char} {host : Host}
    (h : domainHost text = .ok host) : IsDelimitedHost host.text.toList := by
  cases host with
  | name name => exact .of_forall Domain.isForbidden (name_of_domainHost h).2 rfl
  | ipv4 n =>
      apply IsDelimitedHost.of_forall fun c => !(c.isDigit || c == '.')
      · intro c hc
        rcases isDigit_or_point_of_mem_ipv4Text hc with hdigit | rfl
        · rw [hdigit, Bool.true_or, Bool.not_true]
        · rfl
      · rfl
  | ipv6 groups => exact isDelimitedHost_ipv6 groups

private theorem isDelimitedHost_of_plainHost {text : List Char} {host : Host}
    (h : plainHost text = .ok host) : IsDelimitedHost host.text.toList := by
  rw [plainHost] at h
  split at h
  · obtain ⟨groups, rfl⟩ := bracketedHost_eq_ok h
    exact isDelimitedHost_ipv6 groups
  · split at h
    · cases h
    · rename_i hbreaking
      cases h
      have hdigits : ∀ c ∈ hexDigits, isHostBreaking c = false :=
        List.all_iff_forall_prop.1 (by decide)
      apply IsDelimitedHost.of_forall isHostBreaking
      · intro c hc
        rw [Host.text, String.toList_ofList] at hc
        rcases mem_percentEncode hc with ⟨hmem, -, -⟩ | rfl | hmem
        · exact Bool.eq_false_iff.2 fun hc => hbreaking (List.any_eq_true.2 ⟨c, hmem, hc⟩)
        · rfl
        · exact hdigits c hmem
      · rfl

theorem isDelimitedHost_of_readHost {k : SchemeKind} {text : List Char} {host : Host}
    (h : readHost k text = .ok host) : IsDelimitedHost host.text.toList := by
  rw [readHost] at h
  split at h
  · exact isDelimitedHost_of_domainHost h
  · exact isDelimitedHost_of_plainHost h

theorem isDelimitedHost_of_fileHost {cs : List Char} {host : Option Host}
    (h : fileHost cs = .ok host) : IsDelimitedHost ((host.map Host.text).getD "").toList := by
  rw [fileHost] at h
  split at h
  · cases h
    exact isDelimitedHost_nil
  · obtain ⟨found, hfound, rfl⟩ := map_eq_ok.1 h
    split
    · exact isDelimitedHost_nil
    · exact isDelimitedHost_of_domainHost hfound

/-! ## Paths without an authority -/

/-- A segment that is kept: it holds no slash and is not a single dot. -/
structure IsKeptSegment (s : List Char) : Prop where
  slash : '/' ∉ s
  dot : s ≠ ['.']

private theorem isKeptSegment_nil : IsKeptSegment [] := ⟨List.not_mem_nil, by decide⟩

/-- Where drive letters mean nothing, a segment that is taken leaves kept segments. -/
theorem PathState.isKeptSegment_take {st : PathState} {segment : List Char}
    (hst : ∀ s ∈ st.finished, IsKeptSegment s) (hslash : '/' ∉ segment) (last : Bool) :
    ∀ s ∈ (st.take .other segment last).finished, IsKeptSegment s := by
  have hend : ∀ s ∈ (if last then [[]] else [] : List (List Char)), IsKeptSegment s := by
    cases last with
    | false => exact List.forall_mem_nil _
    | true => exact List.forall_mem_singleton.2 isKeptSegment_nil
  have hfile : (SchemeKind.other = .file) = False := by simp
  rw [PathState.take]
  simp only [hfile, decide_false, Bool.false_and, Bool.false_eq_true, if_false]
  split
  · apply List.forall_mem_append.2 ⟨hend, _⟩
    split
    · exact List.forall_mem_nil _
    · rename_i before more heq
      rw [heq] at hst
      split
      · exact hst
      · exact (List.forall_mem_cons.1 hst).2
  · split
    · exact List.forall_mem_append.2 ⟨hend, hst⟩
    · rename_i hdot
      refine List.forall_mem_cons.2 ⟨⟨hslash, ?_⟩, hst⟩
      rintro rfl
      exact hdot rfl

private theorem isKeptSegment_takeSegments (st : PathState) {segs : List (List Char)}
    (hst : ∀ s ∈ st.finished, IsKeptSegment s) (hsegs : ∀ s ∈ segs, '/' ∉ s) :
    ∀ s ∈ (takeSegments .other st segs).finished, IsKeptSegment s := by
  induction segs generalizing st with
  | nil => exact hst
  | cons segment rest ih =>
      rw [List.forall_mem_cons] at hsegs
      cases rest with
      | nil => exact PathState.isKeptSegment_take hst hsegs.1 true
      | cons next rest => exact ih _ (PathState.isKeptSegment_take hst hsegs.1 false) hsegs.2

theorem slash_not_mem_segments (text : List Char) : ∀ s ∈ segments .other text, '/' ∉ s := by
  intro s hs hmem
  obtain ⟨part, hpart, rfl⟩ := List.mem_map.1 hs
  rcases mem_percentEncode hmem with ⟨hmem, -, -⟩ | hc | hc
  · have hslash : SchemeKind.other.isSlash '/' = false := eq_false_of_mem_splitOnP hpart _ hmem
    cases hslash
  · cases hc
  · exact absurd hc (by decide)

/-- A dot in front of a path tells it from every path that was read. -/
theorem not_dot_isPrefix_segmentsText {found : List (List Char)}
    (h : ∀ s ∈ found, IsKeptSegment s) : ¬['/', '.', '/'] <+: segmentsText found := by
  cases found with
  | nil => simp [segmentsText]
  | cons s found =>
      obtain ⟨hslash, hdot⟩ := h s List.mem_cons_self
      rw [segmentsText, List.flatMap_cons, List.cons_append]
      rw [List.cons_prefix_cons]
      rintro ⟨-, hs⟩
      match s, found with
      | [], [] => simp at hs
      | [], _ :: _ => simp at hs
      | [c], _ =>
          rw [List.singleton_append, List.cons_prefix_cons] at hs
          exact hdot (by rw [hs.1])
      | c :: d :: _, _ =>
          simp only [List.cons_append, List.cons_prefix_cons] at hs
          obtain ⟨-, rfl, -⟩ := hs
          exact hslash (List.mem_cons_of_mem _ List.mem_cons_self)

theorem not_dot_isPrefix_readPath (text : List Char) :
    ¬['/', '.', '/'] <+: (readPath .other text).1 := by
  have hkept := isKeptSegment_takeSegments ⟨[], false⟩ (List.forall_mem_nil _)
    (slash_not_mem_segments text)
  have hpath : (readPath .other text).1 =
      segmentsText (takeSegments .other ⟨[], false⟩ (segments .other text)).finished.reverse := rfl
  rw [hpath]
  exact not_dot_isPrefix_segmentsText fun s hs => hkept s (List.mem_reverse.1 hs)

/-! ## Whole addresses -/

/-- An address whose parts are told apart in its text. -/
structure IsDelimited (u : Url) : Prop where
  credentials : ∀ c ∈ u.username.toList ++ u.password.toList,
    isPathEnd c = false ∧ c ≠ '@' ∧ c ≠ '/'
  host : IsDelimitedHost u.hostText.toList
  path : ∀ c ∈ u.path.toList, isPathEnd c = false
  query : ∀ q, u.query = some q → '#' ∉ q.toList
  bare : u.hasAuthority = false → u.port = none ∧ ¬['/', '.', '/'] <+: u.path.toList

theorem isPathEnd_eq_false_of_not_mem {text : List Char} (hquery : '?' ∉ text)
    (hfragment : '#' ∉ text) : ∀ c ∈ text, isPathEnd c = false := by
  intro c hc
  apply isPathEnd_eq_false
  · rintro rfl
    exact hquery hc
  · rintro rfl
    exact hfragment hc

theorem isPathEnd_of_mem_readPath (k : SchemeKind) (text : List Char) :
    ∀ c ∈ (readPath k text).1, isPathEnd c = false :=
  isPathEnd_eq_false_of_not_mem (not_mem_readPath (by decide) (by decide) (by decide) k text)
    (not_mem_readPath (by decide) (by decide) (by decide) k text)

theorem isPathEnd_of_mem_pathAfterAuthority (k : SchemeKind) (cs : List Char) :
    ∀ c ∈ (pathAfterAuthority k cs).1, isPathEnd c = false :=
  isPathEnd_eq_false_of_not_mem
    (not_mem_pathAfterAuthority (by decide) (by decide) (by decide) k cs)
    (not_mem_pathAfterAuthority (by decide) (by decide) (by decide) k cs)

theorem hash_not_mem_readTail (k : SchemeKind) (cs : List Char) (q : String)
    (h : (readTail k cs).1 = some q) : '#' ∉ q.toList := by
  rw [readTail] at h
  simp only at h
  split at h
  · cases h
  · cases h
    rw [String.toList_ofList]
    split
    · exact not_mem_percentEncode (by decide) _
    · exact not_mem_percentEncode (by decide) _

private theorem credentials_of_readCredentials (text : List Char) :
    ∀ c ∈ (readCredentials text).1.toList ++ (readCredentials text).2.toList,
      isPathEnd c = false ∧ c ≠ '@' ∧ c ≠ '/' := by
  have hremoved : ∀ d, isRemoved userSet d = true →
      d ∉ (readCredentials text).1.toList ++ (readCredentials text).2.toList := by
    intro d hd
    rw [readCredentials, String.toList_ofList, String.toList_ofList, List.mem_append, not_or]
    exact ⟨not_mem_percentEncode hd _, not_mem_percentEncode hd _⟩
  intro c hc
  refine ⟨isPathEnd_eq_false ?_ ?_, ?_, ?_⟩ <;>
    · rintro rfl
      exact hremoved _ (by decide) hc

theorem isDelimited_of_withAuthority {k : SchemeKind} {scheme : String} {cs : List Char} {u : Url}
    (h : withAuthority k scheme cs = .ok u) : IsDelimited u := by
  obtain ⟨credentials, hostChars, rest, host, port, hhost, rfl⟩ := withAuthority_eq_ok h
  exact {
    credentials := credentials_of_readCredentials credentials
    host := by
      simp only [hostText]
      split
      · exact isDelimitedHost_nil
      · exact isDelimitedHost_of_readHost hhost
    path := by
      simp only [String.toList_ofList]
      exact isPathEnd_of_mem_pathAfterAuthority k _
    query := hash_not_mem_readTail k _
    bare := fun hbare => by cases hbare }

private theorem isDelimited_of_fileUrl {cs : List Char} {u : Url} (h : fileUrl cs = .ok u) :
    IsDelimited u := by
  obtain ⟨hostChars, rest, host, hhost, rfl⟩ := fileUrl_eq_ok h
  exact {
    credentials := List.forall_mem_nil _
    host := by
      simp only [hostText]
      split
      · exact isDelimitedHost_nil
      · exact isDelimitedHost_of_fileHost hhost
    path := by
      simp only [String.toList_ofList]
      exact isPathEnd_of_mem_pathAfterAuthority .file _
    query := hash_not_mem_readTail .file _
    bare := fun hbare => by cases hbare }

private theorem isDelimited_withoutAuthority (scheme : String) (cs : List Char) :
    IsDelimited (withoutAuthority scheme cs) where
  credentials := List.forall_mem_nil _
  host := isDelimitedHost_nil
  path := by
    simp only [withoutAuthority, String.toList_ofList]
    split
    · exact isPathEnd_of_mem_readPath _ _
    · intro c hc
      rcases mem_percentEncode hc with ⟨hmem, -, -⟩ | rfl | hc
      · simpa using List.mem_takeWhile_imp hmem
      · rfl
      · have hdigits : ∀ d ∈ hexDigits, isPathEnd d = false :=
          List.all_iff_forall_prop.1 (by decide)
        exact hdigits c hc
  query := hash_not_mem_readTail .other _
  bare := by
    refine fun _ => ⟨rfl, ?_⟩
    simp only [withoutAuthority, String.toList_ofList]
    split
    · exact not_dot_isPrefix_readPath _
    · rename_i hpath
      rintro ⟨more, hmore⟩
      obtain ⟨rest, hrest⟩ := exists_cons_of_percentEncode (by decide) hmore.symm
      exact hpath rest hrest

/-- In every address that was read, the parts can be told apart. -/
theorem isDelimited_of_parse {text : String} {u : Url} (h : parse text = .ok u) :
    IsDelimited u := by
  obtain ⟨scheme, rest, -, hreads⟩ := reads_of_parse h
  cases hreads with
  | file _ h => exact isDelimited_of_fileUrl h
  | web _ h => exact isDelimited_of_withAuthority h
  | authority _ h => exact isDelimited_of_withAuthority h
  | plain _ _ => exact isDelimited_withoutAuthority _ _

/-! ## What the text of an address is made of -/

/-- What stands between the scheme and the path. -/
def authorityText (u : Url) : List Char :=
  if u.hasAuthority then '/' :: '/' :: (u.credentials.toList ++ u.endpoint)
  else if u.path.startsWith "//" then ['/', '.']
  else []

def queryText (u : Url) : List Char := (u.query.map fun q => '?' :: q.toList).getD []

def fragmentText (u : Url) : List Char := (u.fragment.map fun f => '#' :: f.toList).getD []

/-- The text of an address, part by part. -/
theorem toList_text (u : Url) :
    u.text.toList = u.scheme.toList ++
      ':' :: (u.authorityText ++ u.path.toList ++ (u.queryText ++ u.fragmentText)) := by
  have hfront : u.front.toList = u.scheme.toList ++ ':' :: u.authorityText := by
    rw [front, authorityText, endpoint]
    split
    · simp
    · split <;> simp
  rw [text, String.toList_append, String.toList_append, String.toList_append, hfront, queryText,
    fragmentText]
  cases u.query <;> cases u.fragment <;> simp

theorem credentials_cases {u : Url} (h : IsDelimited u) :
    u.credentials.toList = [] ∨
      ∃ front, u.credentials.toList = front ++ ['@'] ∧
        ∀ c ∈ front, isPathEnd c = false ∧ c ≠ '@' ∧ c ≠ '/' := by
  have hcredentials := List.forall_mem_append.1 h.credentials
  rw [credentials]
  split
  · exact Or.inl rfl
  · refine Or.inr ⟨_, String.toList_append, ?_⟩
    rw [String.toList_append]
    apply List.forall_mem_append.2 ⟨hcredentials.1, _⟩
    split
    · exact List.forall_mem_nil _
    · rw [String.toList_append]
      exact List.forall_mem_append.2 ⟨List.forall_mem_singleton.2 (by decide), hcredentials.2⟩

theorem mem_portText {u : Url} {c : Char} (hc : c ∈ u.portText.toList) :
    c = ':' ∨ c.isDigit = true := by
  rcases portText_cases u with hport | ⟨n, hport⟩
  · rw [hport] at hc
    cases hc
  · rw [hport] at hc
    exact (List.mem_cons.1 hc).imp_right isDigit_of_mem_repr

/-- No sign of a query or a fragment, and no at sign, stands in a host or its port. -/
theorem plain_of_mem_endpoint {u : Url} (h : IsDelimited u) :
    ∀ c ∈ u.endpoint, isPathEnd c = false ∧ c ≠ '@' := by
  apply List.forall_mem_append.2 ⟨h.host.plain, _⟩
  intro c hc
  rcases mem_portText hc with rfl | hdigit
  · decide
  · refine ⟨isPathEnd_eq_false ?_ ?_, ?_⟩ <;>
      · rintro rfl
        cases hdigit

theorem isPathEnd_of_mem_authority {u : Url} (h : IsDelimited u) :
    ∀ c ∈ u.credentials.toList ++ u.endpoint, isPathEnd c = false := by
  have hcredentials : ∀ c ∈ u.credentials.toList, isPathEnd c = false := by
    rcases credentials_cases h with hnil | ⟨front, hfront, hplain⟩
    · rw [hnil]
      exact List.forall_mem_nil _
    · rw [hfront]
      exact List.forall_mem_append.2 ⟨fun c hc => (hplain c hc).1, List.forall_mem_singleton.2 rfl⟩
  have hendpoint : ∀ c ∈ u.endpoint, isPathEnd c = false :=
    fun c hc => (plain_of_mem_endpoint h c hc).1
  exact List.forall_mem_append.2 ⟨hcredentials, hendpoint⟩

theorem isPathEnd_of_mem_authorityText {u : Url} (h : IsDelimited u) :
    ∀ c ∈ u.authorityText, isPathEnd c = false := by
  rw [authorityText]
  split
  · simp only [List.forall_mem_cons]
    exact ⟨rfl, rfl, isPathEnd_of_mem_authority h⟩
  · split
    · exact List.forall_mem_cons.2 ⟨rfl, List.forall_mem_singleton.2 rfl⟩
    · exact List.forall_mem_nil _

/-! ## Equal texts -/

section EqualTexts

variable {u v : Url}

theorem head?_fragmentText (u : Url) : ∀ c ∈ u.fragmentText.head?, c = '#' := by
  rw [fragmentText]
  cases u.fragment with
  | none => simp
  | some f => simp

theorem head?_queryText (u : Url) : ∀ c ∈ (u.queryText ++ u.fragmentText).head?,
    isPathEnd c = true := by
  rw [queryText]
  cases u.query with
  | none =>
      intro c hc
      rw [head?_fragmentText u c hc]
      rfl
  | some q => simp [isPathEnd]

private theorem hash_not_mem_queryText (h : IsDelimited u) : '#' ∉ u.queryText := by
  rw [queryText]
  cases hquery : u.query with
  | none => exact List.not_mem_nil
  | some q => simpa using h.query q hquery

private theorem queryText_injective (h : u.queryText = v.queryText) : u.query = v.query := by
  rw [queryText, queryText] at h
  cases hu : u.query with
  | none =>
      cases hv : v.query with
      | none => rfl
      | some q => simp [hu, hv] at h
  | some q =>
      cases hv : v.query with
      | none => simp [hu, hv] at h
      | some q' => simpa [hu, hv, String.toList_inj] using h

theorem colon_not_mem_scheme (h : IsRead u) : ':' ∉ u.scheme.toList := fun hmem => by
  have hscheme := h.scheme _ hmem
  rw [not_isSchemeChar (Or.inr (Or.inl rfl))] at hscheme
  cases hscheme

/-- The scheme, the authority with the path, and the query are told by the text. -/
theorem parts_eq_of_text_eq (hu : IsRead u) (hv : IsRead v) (hu' : IsDelimited u)
    (hv' : IsDelimited v) (h : u.text = v.text) :
    u.scheme = v.scheme ∧
      u.authorityText ++ u.path.toList = v.authorityText ++ v.path.toList ∧ u.query = v.query := by
  have hfront : ∀ {w : Url}, IsDelimited w →
      ∀ c ∈ w.authorityText ++ w.path.toList, isPathEnd c = false := fun hw =>
    List.forall_mem_append.2 ⟨isPathEnd_of_mem_authorityText hw, hw.path⟩
  have hquery : ∀ {w : Url}, IsDelimited w → ∀ c ∈ w.queryText, (c == '#') = false := by
    intro w hw c hc
    rw [beq_eq_false_iff_ne]
    rintro rfl
    exact hash_not_mem_queryText hw hc
  have hfragment : ∀ w : Url, ∀ c ∈ w.fragmentText.head?, (c == '#') = true :=
    fun w c hc => beq_iff_eq.2 (head?_fragmentText w c hc)
  have htext : u.text.toList = v.text.toList := congrArg String.toList h
  rw [toList_text, toList_text] at htext
  obtain ⟨hscheme, hrest⟩ :=
    append_cons_inj htext (colon_not_mem_scheme hu) (colon_not_mem_scheme hv)
  obtain ⟨hauthority, htail⟩ := append_tail_inj hrest (hfront hu') (hfront hv')
    (head?_queryText u) (head?_queryText v)
  obtain ⟨hquery, -⟩ := append_tail_inj htail (hquery hu') (hquery hv') (hfragment u) (hfragment v)
  exact ⟨String.toList_injective hscheme, hauthority, queryText_injective hquery⟩

/-- An authority is written exactly where two slashes follow the scheme. -/
theorem hasAuthority_iff (u : Url) :
    u.hasAuthority = true ↔ ['/', '/'] <+: u.authorityText ++ u.path.toList := by
  rw [authorityText]
  split
  · rename_i hauthority
    exact iff_of_true hauthority ⟨_, rfl⟩
  · rename_i hauthority
    apply iff_of_false hauthority
    split
    · simp
    · rename_i hslashes
      rwa [List.nil_append, String.startsWith_string_iff] at *

/-- A port leaves nothing of itself to a host. -/
theorem eq_nil_of_portText {host more rest : List Char} (hhost : IsDelimitedHost (host ++ more))
    (hport : u.portText.toList = more ++ rest) : more = [] := by
  cases more with
  | nil => rfl
  | cons c more =>
      have hport' : ∀ d ∈ c :: more, d = ':' ∨ d.isDigit = true := fun d hd =>
        mem_portText (hport.symm ▸ List.mem_append_left rest hd)
      have hcolon : c = ':' := by
        rcases portText_cases u with hnil | ⟨n, hn⟩
        · rw [hnil] at hport
          cases hport
        · rw [hn] at hport
          exact (List.cons.inj hport).1.symm
      have hlast : (host ++ c :: more).getLast? = some ']' :=
        hhost.bracket (hcolon ▸ List.mem_append_right host List.mem_cons_self)
      rw [List.getLast?_append, List.getLast?_cons, Option.some_or, Option.some.injEq] at hlast
      have hmem : ']' ∈ c :: more := by
        apply List.mem_of_getLast?
        rw [List.getLast?_cons, hlast]
      rcases hport' _ hmem with h | h <;> cases h

/-- A host and its port are told apart. -/
theorem endpoint_inj (hu : IsDelimited u) (hv : IsDelimited v) (h : u.endpoint = v.endpoint) :
    u.hostText = v.hostText ∧ u.portText = v.portText := by
  have hparts : u.hostText.toList = v.hostText.toList ∧ u.portText.toList = v.portText.toList := by
    rcases List.append_eq_append_iff.1 h with ⟨more, hhost, hport⟩ | ⟨more, hhost, hport⟩
    · have hmore : more = [] := eq_nil_of_portText (hhost ▸ hv.host) hport
      subst hmore
      exact ⟨by rw [hhost, List.append_nil], hport⟩
    · have hmore : more = [] := eq_nil_of_portText (hhost ▸ hu.host) hport
      subst hmore
      exact ⟨by rw [hhost, List.append_nil], hport.symm⟩
  exact hparts.imp String.toList_injective String.toList_injective

private theorem endpoint_eq_of_append (hu : IsDelimited u) (hv : IsDelimited v)
    (h : u.credentials.toList ++ u.endpoint = v.credentials.toList ++ v.endpoint) :
    u.endpoint = v.endpoint := by
  have hsign : ∀ {w : Url}, IsDelimited w → '@' ∉ w.endpoint :=
    fun hw hmem => (plain_of_mem_endpoint hw _ hmem).2 rfl
  have hfront : ∀ {front : List Char}, (∀ c ∈ front, isPathEnd c = false ∧ c ≠ '@' ∧ c ≠ '/') →
      '@' ∉ front := fun hplain hmem => (hplain _ hmem).2.1 rfl
  rcases credentials_cases hu with hnil | ⟨front, hcut, hplain⟩
  · rcases credentials_cases hv with hnil' | ⟨front', hcut', -⟩
    · rwa [hnil, hnil'] at h
    · rw [hnil, hcut', List.nil_append] at h
      exact absurd (by simp [h]) (hsign hu)
  · rcases credentials_cases hv with hnil' | ⟨front', hcut', hplain'⟩
    · rw [hcut, hnil', List.nil_append] at h
      exact absurd (by simp [← h]) (hsign hv)
    · rw [hcut, hcut', List.append_assoc, List.append_assoc] at h
      exact (append_cons_inj h (hfront hplain) (hfront hplain')).2

/-- Addresses that show the same parts to a target. -/
structure SameParts (u v : Url) : Prop where
  scheme : u.scheme = v.scheme
  hostText : u.hostText = v.hostText
  portText : u.portText = v.portText
  path : u.path = v.path
  query : u.query = v.query

/-- The credentials and the endpoint hold no slash. -/
theorem slash_not_mem_authority (hu : IsRead u) (hu' : IsDelimited u) :
    '/' ∉ u.credentials.toList ++ u.endpoint := by
  rw [List.mem_append, not_or]
  refine ⟨?_, hu.isHostText_endpoint.slash⟩
  rcases credentials_cases hu' with hnil | ⟨front, hcut, hplain⟩
  · rw [hnil]
    exact List.not_mem_nil
  · rw [hcut, List.mem_append, not_or]
    exact ⟨fun hmem => (hplain _ hmem).2.2 rfl, by decide⟩

/-- Behind an authority the path begins with the first slash. -/
theorem path_eq_of_authority (hu : IsRead u) (hv : IsRead v) (hu' : IsDelimited u)
    (hv' : IsDelimited v) (hauthority : u.hasAuthority = true) (hauthority' : v.hasAuthority = true)
    (h : u.authorityText ++ u.path.toList = v.authorityText ++ v.path.toList) :
    u.endpoint = v.endpoint ∧ u.path = v.path := by
  have hfront : ∀ {w : Url}, IsRead w → IsDelimited w →
      ∀ c ∈ w.credentials.toList ++ w.endpoint, (c == '/') = false :=
    fun hw hw' c hc => beq_eq_false_iff_ne.2 fun hslash =>
      slash_not_mem_authority hw hw' (hslash ▸ hc)
  have hpath : ∀ {w : Url}, IsRead w → w.hasAuthority = true →
      ∀ c ∈ w.path.toList.head?, (c == '/') = true := by
    intro w hw hauthority c hc
    rcases hw.path hauthority with hnil | ⟨rest, hrest⟩
    · rw [hnil] at hc
      cases hc
    · rw [hrest] at hc
      cases hc
      rfl
  simp only [authorityText, hauthority, hauthority', if_true, List.cons_append, List.cons.injEq,
    true_and] at h
  obtain ⟨hcredentials, hpath⟩ := append_tail_inj h (hfront hu hu') (hfront hv hv')
    (hpath hu hauthority) (hpath hv hauthority')
  exact ⟨endpoint_eq_of_append hu' hv' hcredentials, String.toList_injective hpath⟩

/-- Without an authority the path is told from the dot that may stand in front of it. -/
theorem path_eq_of_bare (hu' : IsDelimited u) (hv' : IsDelimited v)
    (hbare : u.hasAuthority = false) (hbare' : v.hasAuthority = false)
    (h : u.authorityText ++ u.path.toList = v.authorityText ++ v.path.toList) :
    u.path = v.path := by
  have hdotted : ∀ {w w' : Url}, w.path.startsWith "//" = true →
      ['/', '.'] ++ w.path.toList = w'.path.toList → ['/', '.', '/'] <+: w'.path.toList := by
    intro w w' hslashes heq
    obtain ⟨rest, hrest⟩ := String.startsWith_string_iff.1 hslashes
    rw [← heq, ← hrest]
    exact ⟨'/' :: rest, rfl⟩
  simp only [authorityText, hbare, hbare', Bool.false_eq_true, if_false] at h
  apply String.toList_injective
  split at h
  · rename_i hslashes
    split at h
    · exact List.append_cancel_left h
    · exact absurd (hdotted hslashes h) (hv'.bare hbare').2
  · split at h
    · rename_i hslashes
      exact absurd (hdotted hslashes h.symm) (hu'.bare hbare).2
    · exact h

/-- Addresses that were read and have the same text have the same parts. -/
theorem sameParts_of_text_eq {text text' : String} (hu : parse text = .ok u)
    (hv : parse text' = .ok v) (h : u.text = v.text) : SameParts u v := by
  have hread : IsRead u := isRead_of_parse hu
  have hread' : IsRead v := isRead_of_parse hv
  have hdelimited : IsDelimited u := isDelimited_of_parse hu
  have hdelimited' : IsDelimited v := isDelimited_of_parse hv
  obtain ⟨hscheme, hfront, hquery⟩ := parts_eq_of_text_eq hread hread' hdelimited hdelimited' h
  have hauthority : u.hasAuthority = v.hasAuthority := by
    rw [Bool.eq_iff_iff, hasAuthority_iff, hasAuthority_iff, hfront]
  cases hbare : u.hasAuthority with
  | true =>
      obtain ⟨hendpoint, hpath⟩ := path_eq_of_authority hread hread' hdelimited hdelimited' hbare
        (hauthority ▸ hbare) hfront
      obtain ⟨hhost, hport⟩ := endpoint_inj hdelimited hdelimited' hendpoint
      exact ⟨hscheme, hhost, hport, hpath, hquery⟩
  | false =>
      have hbare' : v.hasAuthority = false := hauthority ▸ hbare
      exact {
        scheme := hscheme
        hostText := by
          rw [Url.hostText, Url.hostText, (hread.bare hbare).2, (hread'.bare hbare').2]
        portText := by
          rw [Url.portText, Url.portText, (hdelimited.bare hbare).1, (hdelimited'.bare hbare').1]
        path := path_eq_of_bare hdelimited hdelimited' hbare hbare' hfront
        query := hquery }

/-- The origin of an address that was read is made of the scheme and the endpoint of one. -/
theorem exists_web_of_origin? {text origin : String} (hparse : parse text = .ok u)
    (h : u.origin? = some origin) :
    ∃ v, IsRead v ∧ IsDelimited v ∧ (defaultPort? v.scheme).isSome ∧
      origin.toList = v.scheme.toList ++ ':' :: '/' :: '/' :: v.endpoint := by
  have hparsed : ∀ text v, parse text = .ok v → IsRead v ∧ IsDelimited v :=
    fun _ _ h => ⟨isRead_of_parse h, isDelimited_of_parse h⟩
  obtain ⟨v, ⟨hread, hdelimited⟩, hweb, rfl, -⟩ :=
    originOf_eq_some hparsed (hparsed text u hparse) h
  exact ⟨v, hread, hdelimited, hweb, by simp [endpoint]⟩

theorem isPathEnd_of_isSchemeChar {c : Char} (h : isSchemeChar c = true) :
    isPathEnd c = false := by
  apply isPathEnd_eq_false <;>
    · rintro rfl
      exact absurd h (by decide)

/-- The text of an origin holds no sign that ends a path. -/
theorem isPathEnd_of_mem_originText {text : String} (hparse : parse text = .ok u) :
    ∀ c ∈ u.originText.toList, isPathEnd c = false := by
  cases horigin : u.origin? with
  | none =>
      rw [originText, horigin]
      exact List.all_iff_forall_prop.1 (by decide)
  | some origin =>
      obtain ⟨v, hread, hdelimited, -, hcut⟩ := exists_web_of_origin? hparse horigin
      rw [originText, horigin, Option.getD_some, hcut]
      have hscheme : ∀ c ∈ v.scheme.toList, isPathEnd c = false :=
        fun c hc => isPathEnd_of_isSchemeChar (hread.scheme c hc)
      have hendpoint : ∀ c ∈ v.endpoint, isPathEnd c = false :=
        fun c hc => (plain_of_mem_endpoint hdelimited c hc).1
      simp only [List.forall_mem_append, List.forall_mem_cons]
      exact ⟨hscheme, rfl, rfl, rfl, hendpoint⟩

theorem SameParts.originText_eq (h : SameParts u v) : u.originText = v.originText := by
  have horigin : ∀ fuel, originOf fuel u = originOf fuel v := by
    intro fuel
    cases fuel with
    | zero => simp only [originOf, h.scheme, h.hostText, h.portText]
    | succ fuel => simp only [originOf, h.scheme, h.hostText, h.portText, h.path]
  rw [originText, originText, origin?, origin?, h.path, horigin]

end EqualTexts

end NavPolicy.Url
