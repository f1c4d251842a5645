import NavPolicy.Url.Parser

/-!
# The characters of the parts of an address

Encoding leaves no character in a part of an address that the part may not hold, and the
text of a host holds no slash, no line feed and no colon at its end.  These are the facts
by which a part is told from its neighbours in the text of an address.
-/

namespace NavPolicy.Url

open NavPolicy.Text

/-! ## Encoded characters -/

def hexDigits : List Char := "0123456789ABCDEF".toList

private theorem upperHex_mem_hexDigits {n : Nat} (hn : n < 16) : upperHex n ∈ hexDigits := by
  have hall : ∀ i : Fin 16, upperHex i.val ∈ hexDigits := by decide
  exact hall ⟨n, hn⟩

private theorem lt_of_mem_utf8Bytes {c : Char} {n : Nat} (hn : n ∈ utf8Bytes c) : n < 256 := by
  have hmax : c.toNat < 0x110000 := by
    have := c.valid
    rcases this with h | ⟨_, h⟩ <;> simp only [Char.toNat] <;> omega
  simp only [utf8Bytes] at hn
  split at hn
  · rw [List.mem_singleton] at hn
    omega
  · split at hn
    · simp only [List.mem_cons, List.not_mem_nil, or_false] at hn
      omega
    · split at hn <;>
        · simp only [List.mem_cons, List.not_mem_nil, or_false] at hn
          omega

/-- An encoded text holds characters that are kept, percent signs and digits. -/
theorem mem_percentEncode {named cs : List Char} {c : Char} (hc : c ∈ percentEncode named cs) :
    (c ∈ cs ∧ isControl c = false ∧ c ∉ named) ∨ c = '%' ∨ c ∈ hexDigits := by
  obtain ⟨d, hd, hc⟩ := List.mem_flatMap.1 hc
  rw [percentChar] at hc
  split at hc
  · obtain ⟨n, hn, hc⟩ := List.mem_flatMap.1 hc
    have hlt := lt_of_mem_utf8Bytes hn
    simp only [percentByte, List.mem_cons, List.not_mem_nil, or_false] at hc
    rcases hc with rfl | rfl | rfl
    · exact Or.inr (Or.inl rfl)
    · exact Or.inr (Or.inr (upperHex_mem_hexDigits (by omega)))
    · exact Or.inr (Or.inr (upperHex_mem_hexDigits (by omega)))
  · rename_i hkept
    rw [List.mem_singleton] at hc
    subst hc
    simp only [List.contains_eq_mem, Bool.or_eq_true, decide_eq_true_eq, not_or,
      Bool.not_eq_true] at hkept
    exact Or.inl ⟨hd, hkept.1, hkept.2⟩

/-- Whether encoding leaves no occurrence of a character in a text. -/
def isRemoved (named : List Char) (c : Char) : Bool :=
  (isControl c || named.contains c) && c != '%' && !hexDigits.contains c

/-- What encoding takes away does not come back. -/
theorem not_mem_percentEncode {named : List Char} {c : Char} (h : isRemoved named c = true)
    (cs : List Char) : c ∉ percentEncode named cs := by
  simp only [isRemoved, List.contains_eq_mem, Bool.and_eq_true, Bool.or_eq_true, bne_iff_ne, ne_eq,
    Bool.not_eq_true', decide_eq_true_eq, decide_eq_false_iff_not] at h
  obtain ⟨⟨hencoded, hpercent⟩, hdigit⟩ := h
  intro hmem
  rcases mem_percentEncode hmem with ⟨-, hcontrol, hnamed⟩ | hc | hc
  · rcases hencoded with h | h
    · rw [hcontrol] at h
      cases h
    · exact hnamed h
  · exact hpercent hc
  · exact hdigit hc

theorem isRemoved_newline (named : List Char) : isRemoved named '\n' = true := by
  have hcontrol : isControl '\n' = true := by decide
  rw [isRemoved, hcontrol, Bool.true_or]
  decide

private theorem head?_percentChar (named : List Char) (c : Char) :
    (percentChar named c).head? = some c ∨ (percentChar named c).head? = some '%' := by
  rw [percentChar]
  split
  · right
    rw [utf8Bytes]
    split
    · rfl
    · split
      · rfl
      · split <;> rfl
  · exact Or.inl rfl

/-- Encoding puts no sign but the percent sign in front of a text. -/
theorem exists_cons_of_percentEncode {named cs rest : List Char} {c : Char} (hc : c ≠ '%')
    (h : percentEncode named cs = c :: rest) : ∃ more, cs = c :: more := by
  cases cs with
  | nil => cases h
  | cons d cs =>
      have hfirst : (percentEncode named (d :: cs)).head? = some c := by
        rw [h, List.head?_cons]
      rw [percentEncode, List.flatMap_cons, List.head?_append] at hfirst
      rcases head?_percentChar named d with hd | hd
      · rw [hd, Option.some_or, Option.some.injEq] at hfirst
        exact ⟨cs, by rw [hfirst]⟩
      · rw [hd, Option.some_or, Option.some.injEq] at hfirst
        exact absurd hfirst.symm hc

/-- A text without controls, beyond ASCII or named characters is its own encoding. -/
theorem percentEncode_eq_self {named cs : List Char}
    (h : ∀ c ∈ cs, isControl c = false ∧ c ∉ named) : percentEncode named cs = cs := by
  induction cs with
  | nil => rfl
  | cons c cs ih =>
      rw [List.forall_mem_cons] at h
      have hchar : percentChar named c = [c] := by
        simp [percentChar, h.1.1, h.1.2]
      change percentChar named c ++ percentEncode named cs = c :: cs
      rw [hchar, ih h.2]
      rfl

/-! ## Hosts -/

/-- The text of a host: it ends before the next slash, and no colon at its end could be
taken for that of a port or a scheme. -/
structure IsHostText (s : List Char) : Prop where
  slash : '/' ∉ s
  newline : '\n' ∉ s
  colon : s.getLast? ≠ some ':'

theorem IsHostText.of_forall {s : List Char} (h : ∀ c ∈ s, c ≠ '/' ∧ c ≠ '\n' ∧ c ≠ ':') :
    IsHostText s where
  slash hmem := (h _ hmem).1 rfl
  newline hmem := (h _ hmem).2.1 rfl
  colon hlast := (h _ (List.mem_of_getLast? hlast)).2.2 rfl

theorem isHostText_nil : IsHostText [] := .of_forall (by simp)

theorem isDigit_of_mem_repr {n : Nat} {c : Char} (hc : c ∈ (toString n).toList) :
    c.isDigit = true := by
  have : (toString n).toList = Nat.toDigits 10 n := Nat.toList_repr
  rw [this] at hc
  exact Nat.isDigit_of_mem_toDigits (by decide) (by decide) hc

theorem isDigit_or_point_of_mem_ipv4Text {n : Nat} {c : Char} (hc : c ∈ (ipv4Text n).toList) :
    c.isDigit = true ∨ c = '.' := by
  have hpoint : c ∈ (toString ".").toList → c = '.' := fun h => List.mem_singleton.1 h
  simp only [ipv4Text, String.toList_append, List.mem_append] at hc
  rcases hc with (((((hc | hc) | hc) | hc) | hc) | hc) | hc
  · exact Or.inl (isDigit_of_mem_repr hc)
  · exact Or.inr (hpoint hc)
  · exact Or.inl (isDigit_of_mem_repr hc)
  · exact Or.inr (hpoint hc)
  · exact Or.inl (isDigit_of_mem_repr hc)
  · exact Or.inr (hpoint hc)
  · exact Or.inl (isDigit_of_mem_repr hc)

theorem isHostText_ipv4Text (n : Nat) : IsHostText (ipv4Text n).toList := by
  apply IsHostText.of_forall
  intro c hc
  rcases isDigit_or_point_of_mem_ipv4Text hc with h | rfl
  · refine ⟨?_, ?_, ?_⟩ <;>
      · rintro rfl
        exact absurd h (by decide)
  · decide

private theorem mem_toDigits_sixteen {n : Nat} {c : Char} (hc : c ∈ Nat.toDigits 16 n) :
    c ∈ "0123456789abcdef".toList := by
  have hdigit : ∀ d, d < 16 → Nat.digitChar d ∈ "0123456789abcdef".toList := by
    intro d hd
    have hall : ∀ i : Fin 16, Nat.digitChar i.val ∈ "0123456789abcdef".toList := by decide
    exact hall ⟨d, hd⟩
  induction n using Nat.strongRecOn with
  | ind n ih =>
      by_cases hn : n < 16
      · rw [Nat.toDigits_of_lt_base hn, List.mem_singleton] at hc
        rw [hc]
        exact hdigit n hn
      · rw [Nat.toDigits_of_base_le (by decide) (by omega), List.mem_append,
          List.mem_singleton] at hc
        rcases hc with hc | rfl
        · exact ih (n / 16) (by omega) hc
        · exact hdigit (n % 16) (by omega)

private theorem mem_intercalate {sep : List Char} {parts : List (List Char)} {c : Char}
    (hc : c ∈ sep.intercalate parts) : c ∈ sep ∨ ∃ part ∈ parts, c ∈ part := by
  induction parts with
  | nil => simp at hc
  | cons part parts ih =>
      cases parts with
      | nil => exact Or.inr ⟨part, by simp, by simpa using hc⟩
      | cons next rest =>
          rw [List.intercalate_cons_cons, List.mem_append, List.mem_append] at hc
          rcases hc with (hc | hc) | hc
          · exact Or.inr ⟨part, by simp, hc⟩
          · exact Or.inl hc
          · rcases ih hc with h | ⟨p, hp, hc⟩
            · exact Or.inl h
            · exact Or.inr ⟨p, List.mem_cons_of_mem _ hp, hc⟩

theorem mem_ipv6Text {groups : List Nat} {c : Char} (hc : c ∈ (ipv6Text groups).toList) :
    c = ':' ∨ c ∈ "0123456789abcdef".toList := by
  have hgroups : ∀ ns : List Nat, c ∈ (groupsText ns).toList →
      c = ':' ∨ c ∈ "0123456789abcdef".toList := by
    intro ns h
    rw [groupsText, String.toList_intercalate] at h
    rcases mem_intercalate h with h | ⟨part, hpart, h⟩
    · exact Or.inl (List.mem_singleton.1 h)
    · obtain ⟨text, htext, rfl⟩ := List.mem_map.1 hpart
      obtain ⟨n, -, rfl⟩ := List.mem_map.1 htext
      rw [String.toList_ofList] at h
      exact Or.inr (mem_toDigits_sixteen h)
  rw [ipv6Text] at hc
  split at hc
  split at hc
  · exact hgroups _ hc
  · simp only [String.toList_append, List.mem_append] at hc
    rcases hc with (hc | hc) | hc
    · exact hgroups _ hc
    · exact Or.inl (by simpa using hc)
    · exact hgroups _ hc

theorem isHostText_ipv6 (groups : List Nat) :
    IsHostText ("[" ++ ipv6Text groups ++ "]").toList := by
  have hclean : ∀ c ∈ ("[" ++ ipv6Text groups ++ "]").toList, c ≠ '/' ∧ c ≠ '\n' := by
    intro c hc
    simp only [String.toList_append, List.mem_append] at hc
    rcases hc with (hc | hc) | hc
    · rw [show c = '[' from List.mem_singleton.1 hc]
      decide
    · rcases mem_ipv6Text hc with rfl | h
      · decide
      · refine ⟨?_, ?_⟩ <;>
          · rintro rfl
            exact absurd h (by decide)
    · rw [show c = ']' from List.mem_singleton.1 hc]
      decide
  refine ⟨fun h => (hclean _ h).1 rfl, fun h => (hclean _ h).2 rfl, ?_⟩
  have hlast : ("[" ++ ipv6Text groups ++ "]").toList =
      ("[" ++ ipv6Text groups).toList ++ [']'] := String.toList_append
  rw [hlast, List.getLast?_concat]
  decide

/-! ## Readers of hosts -/

/-- The characters that no domain name holds are in none that was read. -/
theorem not_isForbidden_of_toAscii? {name ascii : List Char}
    (h : Domain.toAscii? name = some ascii) : ∀ c ∈ ascii, Domain.isForbidden c = false := by
  obtain ⟨found, -, hfound⟩ := Option.bind_eq_some_iff.1 h
  split at hfound
  · cases hfound
  · rename_i hany
    cases hfound
    intro c hc
    exact Bool.eq_false_iff.2 fun hc' => hany (List.any_eq_true.2 ⟨c, hc, hc'⟩)

theorem bracketedHost_eq_ok {text : List Char} {host : Host}
    (h : bracketedHost text = .ok host) : ∃ groups, host = .ipv6 groups := by
  rw [bracketedHost] at h
  split at h
  · split at h
    · cases h
      exact ⟨_, rfl⟩
    · cases h
  · cases h

/-- A name that was read as a domain holds characters of names only, and some. -/
theorem name_of_domainHost {text : List Char} {name : String}
    (h : domainHost text = .ok (.name name)) :
    name.toList ≠ [] ∧ ∀ c ∈ name.toList, Domain.isForbidden c = false := by
  rw [domainHost] at h
  split at h
  · obtain ⟨groups, hgroups⟩ := bracketedHost_eq_ok h
    cases hgroups
  · split at h
    · cases h
    · cases h
    · rename_i ascii hne hascii
      obtain ⟨decoded, -, htoAscii⟩ := Option.bind_eq_some_iff.1 hascii
      split at h
      · split at h <;> cases h
      · cases h
        rw [String.toList_ofList]
        exact ⟨fun hnil => hne (by rw [hnil]), not_isForbidden_of_toAscii? htoAscii⟩

private theorem isHostText_of_not_isForbidden {s : List Char}
    (h : ∀ c ∈ s, Domain.isForbidden c = false) : IsHostText s := by
  apply IsHostText.of_forall
  intro c hc
  have hc := h c hc
  refine ⟨?_, ?_, ?_⟩ <;>
    · rintro rfl
      exact absurd hc (by decide)

theorem isHostText_of_domainHost {text : List Char} {host : Host}
    (h : domainHost text = .ok host) : IsHostText host.text.toList := by
  cases host with
  | name name => exact isHostText_of_not_isForbidden (name_of_domainHost h).2
  | ipv4 n => exact isHostText_ipv4Text n
  | ipv6 groups => exact isHostText_ipv6 groups

theorem isHostText_of_plainHost {text : List Char} {host : Host}
    (h : plainHost text = .ok host) : IsHostText host.text.toList := by
  rw [plainHost] at h
  split at h
  · obtain ⟨groups, rfl⟩ := bracketedHost_eq_ok h
    exact isHostText_ipv6 groups
  · split at h
    · cases h
    · rename_i hbreaking
      cases h
      apply IsHostText.of_forall
      intro c hc
      rw [Host.text, String.toList_ofList] at hc
      have hkept : c ∈ text → isHostBreaking c = false := fun hmem =>
        Bool.eq_false_iff.2 fun hc' => hbreaking (List.any_eq_true.2 ⟨c, hmem, hc'⟩)
      rcases mem_percentEncode hc with ⟨hmem, -, -⟩ | rfl | hmem
      · have hc := hkept hmem
        refine ⟨?_, ?_, ?_⟩ <;>
          · rintro rfl
            exact absurd hc (by decide)
      · decide
      · refine ⟨?_, ?_, ?_⟩ <;>
          · rintro rfl
            exact absurd hmem (by decide)

end NavPolicy.Url
