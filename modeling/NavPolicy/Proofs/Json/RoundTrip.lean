import NavPolicy.Proofs.Json.Distinct
import NavPolicy.Proofs.Json.Gaps

/-!
# Reading what was written

A document without numbers is read back as it was, whether it is written without blanks or with
one part on a line.  What a reader sees of the difference are the blanks in front of the parts, so
both are layouts of the same text.  Each reader is run on a written text with anything behind it.
-/

namespace NavPolicy.Json

/-! ## Lengths of written texts -/

private theorem length_le_flatMap {α β : Type} {f : α → List β} (hf : ∀ a, f a ≠ []) (l : List α) :
    l.length ≤ (l.flatMap f).length := by
  induction l with
  | nil => exact Nat.le_refl 0
  | cons a l ih =>
      have hpos := List.length_pos_iff.2 (hf a)
      rw [List.flatMap_cons, List.length_append, List.length_cons]
      omega

theorem length_le_of_mem_flatMap {α β : Type} {f : α → List β} {l : List α} {a : α} (ha : a ∈ l) :
    (f a).length ≤ (l.flatMap f).length := by
  induction l with
  | nil => cases ha
  | cons b l ih =>
      rw [List.flatMap_cons, List.length_append]
      rcases List.mem_cons.1 ha with rfl | ha
      · exact Nat.le_add_right _ _
      · exact Nat.le_trans (ih ha) (Nat.le_add_left _ _)

theorem length_lt_quote (s : List Char) : s.length < (quote s).length := by
  have h := (spells_escaped s).length_le
  simp only [quote, List.length_cons, List.length_append]
  omega

theorem length_le_separate (parts : List (List Char)) :
    parts.length ≤ (separate [','] parts).length + 1 := by
  cases parts with
  | nil => exact Nat.zero_le _
  | cons part parts =>
      have h := length_le_flatMap (f := fun p => [','] ++ p) (by simp) parts
      rw [separate_cons, List.length_append, List.length_cons]
      omega

theorem length_le_separate_of_mem {parts : List (List Char)} {p : List Char} (h : p ∈ parts) :
    p.length ≤ (separate [','] parts).length := by
  cases parts with
  | nil => cases h
  | cons part parts =>
      rw [separate_cons, List.length_append]
      rcases List.mem_cons.1 h with rfl | h
      · exact Nat.le_add_right _ _
      · have hle := length_le_of_mem_flatMap (f := fun p => [','] ++ p) h
        rw [List.length_append] at hle
        omega

namespace Cursor

variable {cur : Cursor} {c : Char} {rest : List Char}

/-- Nothing is skipped in front of a character that is not blank. -/
theorem skip_eq (h : cur.rest = c :: rest) (hc : isSpace c = false) : cur.skip = cur := by
  have hline : c ≠ '\n' := by
    rintro rfl
    cases hc
  obtain ⟨line, column, text⟩ := cur
  subst h
  simp [skip, skipFrom, hline, hc]

/-- A written string is read back, whatever is behind it. -/
theorem string_written {s : String} {fuel : Nat} (hfuel : s.toList.length < fuel)
    (h : cur.rest = s.toList.flatMap escapeChar ++ '"' :: rest) :
    ReadsTo (string fuel cur) s rest :=
  string_spelled (spells_escaped s.toList) hfuel h

/-! ## Items and members -/

section Items

variable {α : Type} {item : Cursor → Read α} {text : α → List Char} {gap back : List Char}
variable {found vs : List α} {v : α}

private theorem items_of_close (fuel : Nat) (h : cur.Faces (']' :: rest)) :
    ReadsTo (items item (fuel + 1) found cur) found.reverse rest := by
  refine ⟨cur.skip.next, ?_, rest_next_eq (h.rest_eq rfl)⟩
  rw [items, nextItem?_last _ h]

private theorem items_of_item (fuel : Nat) {start after : Cursor}
    (hnext : nextItem? found.isEmpty cur = .ok (true, start))
    (hitem : item start = .ok (v, after)) :
    items item (fuel + 1) found cur = items item fuel (v :: found) after := by
  rw [items, hnext]
  simp only [hitem]

/-- What is written for an item begins in a way that the reader of a list expects. -/
def BeginsItem (text : List Char) : Prop :=
  ∃ c more, text = c :: more ∧ isSpace c = false ∧ c ≠ ']'

/-- Written items are read back in order, whatever blanks are in front of them. -/
theorem items_written (hgap : IsGap gap) (hback : IsGap back)
    (hbegin : ∀ v ∈ vs, BeginsItem (text v))
    (hitem : ∀ v ∈ vs, ∀ cur rest, cur.rest = text v ++ rest → ReadsTo (item cur) v rest)
    {fuel : Nat} (hfuel : vs.length < fuel)
    (h : cur.Faces (partsAhead found.isEmpty (vs.map fun v => gap ++ text v) ++
      (back ++ ']' :: rest))) :
    ReadsTo (items item fuel found cur) (found.reverse ++ vs) rest := by
  obtain ⟨fuel, rfl⟩ := Nat.exists_eq_add_one.2 (Nat.zero_lt_of_lt hfuel)
  induction vs generalizing cur found fuel with
  | nil =>
      rw [List.map_nil, partsAhead_nil, List.nil_append] at h
      rw [List.append_nil]
      exact items_of_close fuel (h.of_gap hback)
  | cons v vs ih =>
      replace hfuel : vs.length < fuel := Nat.lt_of_succ_lt_succ hfuel
      rw [List.forall_mem_cons] at hbegin hitem
      obtain ⟨c, more, htext, hspace, hclose⟩ := hbegin.1
      rw [List.map_cons, partsAhead_cons, List.append_assoc, List.append_assoc, List.append_assoc,
        htext, List.cons_append] at h
      obtain ⟨start, hnext, hstart⟩ := nextItem?_faces found.isEmpty hgap hspace hclose h
      rw [← List.cons_append, ← htext] at hstart
      obtain ⟨after, hread, hafter⟩ := hitem.1 start _ hstart
      rw [items_of_item fuel hnext hread]
      obtain ⟨fuel, rfl⟩ := Nat.exists_eq_add_one.2 (Nat.zero_lt_of_lt hfuel)
      have hrest := @ih after (v :: found) hbegin.2 hitem.2 (faces_of_rest hafter) fuel hfuel
      rwa [List.reverse_cons, List.append_assoc] at hrest

end Items

section Members

variable {α : Type} {item : Cursor → Read α} {text : α → List Char} {gap back : List Char}
variable {strings : Nat} {found ms : List (String × α)} {m : String × α}

def memberText (text : α → List Char) (m : String × α) : List Char :=
  quote m.1.toList ++ ':' :: text m.2

private theorem members_of_close (fuel : Nat) (h : cur.Faces ('\x7d' :: rest)) :
    ReadsTo (members strings item (fuel + 1) found cur) found.reverse rest := by
  refine ⟨cur.skip.next, ?_, rest_next_eq (h.rest_eq rfl)⟩
  rw [members, nextKey?_last _ h]

private theorem members_of_member (fuel : Nat) {start : Cursor}
    (hnext : nextKey? found.isEmpty cur = .ok (true, start)) (hname : m.1.toList.length < strings)
    (hitem : ∀ cur rest, cur.rest = text m.2 ++ rest → ReadsTo (item cur) m.2 rest)
    (h : start.rest = memberText text m ++ rest) :
    ∃ after,
      members strings item (fuel + 1) found cur = members strings item fuel (m :: found) after ∧
        after.rest = rest := by
  obtain ⟨name, v⟩ := m
  have hstart : start.next.rest =
      name.toList.flatMap escapeChar ++ '"' :: (':' :: (text v ++ rest)) := by
    rw [rest_next, h]
    simp [memberText, quote]
  obtain ⟨atColon, hstring, hatColon⟩ := string_written hname hstart
  obtain ⟨inside, hcolon, hinside⟩ := colon_eq (faces_of_rest hatColon)
  obtain ⟨after, hread, hafter⟩ := hitem inside rest hinside
  refine ⟨after, ?_, hafter⟩
  rw [members, hnext]
  simp only [hstring, hcolon, hread]

/-- Written members are read back in order, whatever blanks are in front of them. -/
theorem members_written (hgap : IsGap gap) (hback : IsGap back)
    (hnames : ∀ m ∈ ms, m.1.toList.length < strings)
    (hitem : ∀ m ∈ ms, ∀ cur rest, cur.rest = text m.2 ++ rest → ReadsTo (item cur) m.2 rest)
    {fuel : Nat} (hfuel : ms.length < fuel)
    (h : cur.Faces (partsAhead found.isEmpty (ms.map fun m => gap ++ memberText text m) ++
      (back ++ '\x7d' :: rest))) :
    ReadsTo (members strings item fuel found cur) (found.reverse ++ ms) rest := by
  obtain ⟨fuel, rfl⟩ := Nat.exists_eq_add_one.2 (Nat.zero_lt_of_lt hfuel)
  induction ms generalizing cur found fuel with
  | nil =>
      rw [List.map_nil, partsAhead_nil, List.nil_append] at h
      rw [List.append_nil]
      exact members_of_close fuel (h.of_gap hback)
  | cons m ms ih =>
      replace hfuel : ms.length < fuel := Nat.lt_of_succ_lt_succ hfuel
      rw [List.forall_mem_cons] at hnames hitem
      rw [List.map_cons, partsAhead_cons, List.append_assoc, List.append_assoc,
        List.append_assoc] at h
      obtain ⟨start, hnext, hstart⟩ := nextKey?_faces found.isEmpty hgap h
      obtain ⟨after, hstep, hafter⟩ := members_of_member fuel hnext hnames.1 hitem.1 hstart
      rw [hstep]
      obtain ⟨fuel, rfl⟩ := Nat.exists_eq_add_one.2 (Nat.zero_lt_of_lt hfuel)
      have hrest := @ih after (m :: found) hnames.2 hitem.2 (faces_of_rest hafter) fuel hfuel
      rwa [List.reverse_cons, List.append_assoc] at hrest

end Members

end Cursor

/-! ## Layouts -/

/-- The blanks with which a document is written. -/
structure Layout where
  /-- In front of a part, by the level of the brackets around it. -/
  inside : Nat → List Char
  /-- In front of the bracket that closes. -/
  behind : Nat → List Char
  /-- Between a name and its value, behind the colon. -/
  colon : List Char
  isGap_inside (level : Nat) : IsGap (inside level)
  isGap_behind (level : Nat) : IsGap (behind level)
  isGap_colon : IsGap colon

namespace Layout

def block (l : Layout) (level : Nat) (first last : Char) : List (List Char) → List Char
  | [] => [first, last]
  | parts =>
    first :: (separate [','] (parts.map (l.inside level ++ ·)) ++ (l.behind level ++ [last]))

mutual

def text (l : Layout) (level : Nat) : Value → List Char
  | .null => ['n', 'u', 'l', 'l']
  | .bool true => ['t', 'r', 'u', 'e']
  | .bool false => ['f', 'a', 'l', 's', 'e']
  | .number n => n.text.toList
  | .string s => quote s.toList
  | .array items => l.block level '[' ']' (l.items (level + 1) items)
  | .object members => l.block level '\x7b' '\x7d' (l.members (level + 1) members)

def items (l : Layout) (level : Nat) : List Value → List (List Char)
  | [] => []
  | v :: rest => l.text level v :: l.items level rest

def members (l : Layout) (level : Nat) : List (String × Value) → List (List Char)
  | [] => []
  | m :: rest => (quote m.1.toList ++ ':' :: (l.colon ++ l.text level m.2)) :: l.members level rest

end

def member (l : Layout) (level : Nat) : String × Value → List Char :=
  Cursor.memberText fun v => l.colon ++ l.text level v

/-- A block is a list of parts between brackets, with blanks in front of each and of the last
bracket; where there are no parts there are no blanks. -/
theorem exists_block_eq (l : Layout) (level : Nat) (first last : Char) (parts : List (List Char)) :
    ∃ back, IsGap back ∧ l.block level first last parts =
      first :: (separate [','] (parts.map (l.inside level ++ ·)) ++ (back ++ [last])) := by
  cases parts with
  | nil => exact ⟨[], List.forall_mem_nil _, rfl⟩
  | cons part parts => exact ⟨l.behind level, l.isGap_behind level, rfl⟩

theorem items_eq_map (l : Layout) (level : Nat) (vs : List Value) :
    l.items level vs = vs.map (l.text level) := by
  induction vs with
  | nil => rfl
  | cons v vs ih => rw [items, ih, List.map_cons]

theorem members_eq_map (l : Layout) (level : Nat) (ms : Members) :
    l.members level ms = ms.map (l.member level) := by
  induction ms with
  | nil => rfl
  | cons m ms ih =>
      rw [members, ih, List.map_cons]
      rfl

theorem length_lt_member (l : Layout) (level : Nat) (m : String × Value) :
    m.1.toList.length < (l.member level m).length ∧
      (l.text level m.2).length < (l.member level m).length := by
  have hname := length_lt_quote m.1.toList
  simp only [member, Cursor.memberText, List.length_append, List.length_cons]
  omega

theorem length_lt_block_of_mem (l : Layout) (level : Nat) (first last : Char) {p : List Char}
    {parts : List (List Char)} (h : p ∈ parts) :
    p.length < (l.block level first last parts).length := by
  obtain ⟨back, -, hblock⟩ := l.exists_block_eq level first last parts
  have hmem : l.inside level ++ p ∈ parts.map (l.inside level ++ ·) := List.mem_map.2 ⟨p, h, rfl⟩
  have hle := length_le_separate_of_mem hmem
  rw [hblock, List.length_cons, List.length_append]
  rw [List.length_append] at hle
  omega

theorem length_lt_block (l : Layout) (level : Nat) (first last : Char)
    (parts : List (List Char)) : parts.length < (l.block level first last parts).length := by
  obtain ⟨back, -, hblock⟩ := l.exists_block_eq level first last parts
  have hle := length_le_separate (parts.map (l.inside level ++ ·))
  rw [List.length_map] at hle
  rw [hblock]
  simp only [List.length_cons, List.length_append, List.length_nil]
  omega

end Layout

/-! ## Legible documents -/

/-- A document that is read back as it was written: without numbers, without a name that comes
twice, and nested no deeper than `depth`. -/
inductive Value.Legible : Nat → Value → Prop where
  | null (depth) : Legible depth .null
  | bool (depth b) : Legible depth (.bool b)
  | string (depth s) : Legible depth (.string s)
  | array {depth} {items : List Value} (hitems : ∀ v ∈ items, Legible depth v) :
      Legible (depth + 1) (.array items)
  | object {depth} {members : Members} (hnames : (Ordered.names members).Nodup)
      (hmembers : ∀ m ∈ members, Legible depth m.2) : Legible (depth + 1) (.object members)

/-- No name comes twice in what is read back. -/
theorem Value.Legible.distinct {depth : Nat} {v : Value} (h : v.Legible depth) : v.Distinct := by
  induction h with
  | null => exact .null
  | bool _ b => exact .bool b
  | string _ s => exact .string s
  | array _ ih => exact .array ih
  | object hnames _ ih => exact .object hnames ih

theorem Value.Legible.beginsItem {depth : Nat} {v : Value} (h : v.Legible depth) (l : Layout)
    (level : Nat) : Cursor.BeginsItem (l.text level v) := by
  cases h with
  | null => exact ⟨'n', _, rfl, rfl, by decide⟩
  | bool _ b =>
      cases b with
      | false => exact ⟨'f', _, rfl, rfl, by decide⟩
      | true => exact ⟨'t', _, rfl, rfl, by decide⟩
  | string => exact ⟨'"', _, rfl, rfl, by decide⟩
  | array =>
      obtain ⟨back, -, hblock⟩ := l.exists_block_eq level '[' ']' _
      exact ⟨'[', _, hblock, rfl, by decide⟩
  | object =>
      obtain ⟨back, -, hblock⟩ := l.exists_block_eq level '\x7b' '\x7d' _
      exact ⟨'\x7b', _, hblock, rfl, by decide⟩

/-! ## Whole documents -/

namespace Cursor

variable {cur : Cursor} {c : Char} {rest : List Char} {l : Layout} {level : Nat}

theorem word_written {ws : List Char} (h : cur.rest = ws ++ rest) :
    ∃ after, word ws cur = .ok after ∧ after.rest = rest := by
  induction ws generalizing cur with
  | nil => exact ⟨cur, rfl, h⟩
  | cons w ws ih =>
      have hnext : cur.next.rest = ws ++ rest := by
        rw [rest_next, h]
        rfl
      obtain ⟨after, hread, hafter⟩ := ih hnext
      refine ⟨after, ?_, hafter⟩
      rw [word, peek_eq h]
      simpa using hread

/-- Where no bracket opens there is a scalar. -/
theorem value_eq_scalar (fuel depth : Nat) (h : cur.Faces (c :: rest)) (hspace : isSpace c = false)
    (harray : c ≠ '[') (hobject : c ≠ '\x7b') :
    value fuel depth cur = scalar fuel cur.skip c := by
  unfold value
  simp [peek_eq (h.rest_eq hspace)]

theorem value_word (fuel depth : Nat) {ws : List Char} {v : Value} (hspace : isSpace c = false)
    (harray : c ≠ '[') (hobject : c ≠ '\x7b')
    (hscalar : scalar fuel cur.skip c = (word ws cur.skip.next).map fun cur => (v, cur))
    (h : cur.Faces (c :: (ws ++ rest))) : ReadsTo (value fuel depth cur) v rest := by
  obtain ⟨after, hread, hafter⟩ := word_written (rest_next_eq (h.rest_eq hspace))
  refine ⟨after, ?_, hafter⟩
  rw [value_eq_scalar fuel depth h hspace harray hobject, hscalar, hread]
  rfl

private theorem value_string {fuel : Nat} (depth : Nat) {s : String}
    (hfuel : (quote s.toList).length < fuel) (h : cur.Faces (quote s.toList ++ rest)) :
    ReadsTo (value fuel depth cur) (.string s) rest := by
  rw [quote, List.cons_append, List.append_assoc] at h
  have hlength : s.toList.length < fuel := Nat.lt_trans (length_lt_quote s.toList) hfuel
  obtain ⟨after, hread, hafter⟩ := string_written hlength (rest_next_eq (h.rest_eq rfl))
  refine ⟨after, ?_, hafter⟩
  rw [value_eq_scalar fuel depth h rfl (by decide) (by decide), scalar, hread]
  rfl

/-- A written array is read back if its items are. -/
theorem value_array {fuel depth : Nat} {vs : List Value}
    (hfuel : (l.text level (.array vs)).length < fuel)
    (hbegin : ∀ v ∈ vs, BeginsItem (l.text (level + 1) v))
    (hitem : ∀ v ∈ vs, (l.text (level + 1) v).length < fuel → ∀ cur : Cursor, ∀ rest,
      cur.Faces (l.text (level + 1) v ++ rest) → ReadsTo (value fuel depth cur) v rest)
    (h : cur.Faces (l.text level (.array vs) ++ rest)) :
    ReadsTo (value fuel (depth + 1) cur) (.array vs) rest := by
  rw [Layout.text, l.items_eq_map] at hfuel h
  have hcount := l.length_lt_block level '[' ']' (vs.map (l.text (level + 1)))
  rw [List.length_map] at hcount
  obtain ⟨back, hback, hblock⟩ :=
    l.exists_block_eq level '[' ']' (vs.map (l.text (level + 1)))
  rw [hblock, List.map_map, List.cons_append, List.append_assoc, List.append_assoc] at h
  have hread : ReadsTo (items (value fuel depth) fuel [] cur.skip.next) vs rest := by
    apply items_written (l.isGap_inside level) hback hbegin _ (by omega) (h.next rfl)
    intro v hv cur rest hcur
    have hmem : l.text (level + 1) v ∈ vs.map (l.text (level + 1)) := List.mem_map_of_mem hv
    have hlt := l.length_lt_block_of_mem level '[' ']' hmem
    exact hitem v hv (by omega) cur rest (faces_of_rest hcur)
  obtain ⟨after, hread, hafter⟩ := hread
  refine ⟨after, ?_, hafter⟩
  rw [value]
  simp only [peek_eq (h.rest_eq rfl), hread]
  rfl

/-- A written object is read back if its members are. -/
theorem value_object {fuel depth : Nat} {ms : Members} (hnames : (Ordered.names ms).Nodup)
    (hfuel : (l.text level (.object ms)).length < fuel)
    (hitem : ∀ m ∈ ms, (l.text (level + 1) m.2).length < fuel → ∀ cur : Cursor, ∀ rest,
      cur.Faces (l.text (level + 1) m.2 ++ rest) → ReadsTo (value fuel depth cur) m.2 rest)
    (h : cur.Faces (l.text level (.object ms) ++ rest)) :
    ReadsTo (value fuel (depth + 1) cur) (.object ms) rest := by
  rw [Layout.text, l.members_eq_map] at hfuel h
  have hcount := l.length_lt_block level '\x7b' '\x7d' (ms.map (l.member (level + 1)))
  rw [List.length_map] at hcount
  have hlength : ∀ m ∈ ms, m.1.toList.length < fuel ∧ (l.text (level + 1) m.2).length < fuel := by
    intro m hm
    have hmem : l.member (level + 1) m ∈ ms.map (l.member (level + 1)) := List.mem_map_of_mem hm
    have hlt := l.length_lt_block_of_mem level '\x7b' '\x7d' hmem
    have hmember := l.length_lt_member (level + 1) m
    omega
  obtain ⟨back, hback, hblock⟩ :=
    l.exists_block_eq level '\x7b' '\x7d' (ms.map (l.member (level + 1)))
  rw [hblock, List.map_map, List.cons_append, List.append_assoc, List.append_assoc] at h
  have hread : ReadsTo (members fuel (value fuel depth) fuel [] cur.skip.next) ms rest := by
    apply members_written (l.isGap_inside level) hback (fun m hm => (hlength m hm).1) _ (by omega)
      (h.next rfl)
    intro m hm cur rest hcur
    rw [List.append_assoc] at hcur
    exact hitem m hm (hlength m hm).2 cur rest ((faces_of_rest hcur).of_gap l.isGap_colon)
  obtain ⟨after, hread, hafter⟩ := hread
  refine ⟨after, ?_, hafter⟩
  rw [value]
  simp only [peek_eq (h.rest_eq rfl), hread]
  rw [Except.map, Ordered.ofList_eq_self hnames]

/-- A written document is read back, whatever is behind it.  The bound is handed down unchanged,
for no part of a text is longer than the text. -/
theorem value_written {n depth fuel : Nat} {v : Value} (h : v.Legible n) (hdepth : n ≤ depth)
    (hfuel : (l.text level v).length < fuel) (hcur : cur.Faces (l.text level v ++ rest)) :
    ReadsTo (value fuel depth cur) v rest := by
  induction h generalizing depth cur rest level with
  | null => exact value_word fuel depth rfl (by decide) (by decide) rfl hcur
  | bool _ b =>
      cases b with
      | false => exact value_word fuel depth rfl (by decide) (by decide) rfl hcur
      | true => exact value_word fuel depth rfl (by decide) (by decide) rfl hcur
  | string => exact value_string depth hfuel hcur
  | array hitems ih =>
      obtain ⟨depth, rfl⟩ := Nat.exists_eq_add_one.2 (Nat.zero_lt_of_lt hdepth)
      apply value_array hfuel (fun v hv => (hitems v hv).beginsItem l _) _ hcur
      exact fun v hv hfuel _ _ => ih v hv (Nat.le_of_succ_le_succ hdepth) hfuel
  | object hnames _ ih =>
      obtain ⟨depth, rfl⟩ := Nat.exists_eq_add_one.2 (Nat.zero_lt_of_lt hdepth)
      apply value_object hnames hfuel _ hcur
      exact fun m hm hfuel _ _ => ih m hm (Nat.le_of_succ_le_succ hdepth) hfuel

end Cursor

/-- A document is read back from its text, whatever blanks it was written with. -/
theorem Layout.ofChars_text {depth : Nat} {v : Value} (l : Layout) (level : Nat)
    (h : v.Legible depth) (hdepth : depth ≤ Cursor.depthLimit) :
    Value.ofChars (l.text level v) = .ok v := by
  have hcur : (Cursor.ofText (l.text level v)).Faces (l.text level v ++ []) :=
    Cursor.faces_of_rest (List.append_nil _).symm
  obtain ⟨after, hread, hafter⟩ :=
    Cursor.value_written h hdepth (Nat.lt_succ_self (l.text level v).length) hcur
  obtain ⟨line, column, text⟩ := after
  subst hafter
  rw [Value.ofChars, hread]
  rfl

/-! ## The two layouts -/

def Layout.tight : Layout where
  inside _ := []
  behind _ := []
  colon := []
  isGap_inside _ := List.forall_mem_nil _
  isGap_behind _ := List.forall_mem_nil _
  isGap_colon := List.forall_mem_nil _

private theorem Value.isGap_newLine (level : Nat) : IsGap (newLine level) := by
  intro c hc
  rcases List.mem_cons.1 hc with rfl | hc
  · rfl
  · rw [(List.mem_replicate.1 hc).2]
    rfl

/-- One part on a line. -/
def Layout.indented : Layout where
  inside level := Value.newLine (level + 1)
  behind := Value.newLine
  colon := [' ']
  isGap_inside level := Value.isGap_newLine (level + 1)
  isGap_behind := Value.isGap_newLine
  isGap_colon := List.forall_mem_singleton.2 rfl

private theorem Layout.block_tight (level : Nat) (first last : Char) (parts : List (List Char)) :
    tight.block level first last parts = first :: (separate [','] parts ++ [last]) := by
  cases parts with
  | nil => rfl
  | cons part parts => simp [block, tight]

theorem Layout.block_indented (level : Nat) (first last : Char) (parts : List (List Char)) :
    indented.block level first last parts = Value.block level first last parts := by
  cases parts with
  | nil => rfl
  | cons part parts =>
      simp only [block, indented, Value.block, List.map_cons, separate_cons,
        List.flatMap_map, List.append_assoc, List.cons_append, List.nil_append]

namespace Value

theorem compactMembers_eq_map (members : Members) :
    compactMembers members = members.map (Cursor.memberText compactText) := by
  induction members with
  | nil => rfl
  | cons m rest ih =>
      rw [compactMembers, ih, List.map_cons]
      rfl

mutual

theorem compactText_eq_tight (level : Nat) : ∀ v, compactText v = Layout.tight.text level v
  | null => rfl
  | bool true => rfl
  | bool false => rfl
  | number _ => rfl
  | string _ => rfl
  | array items => by
    rw [compactText, Layout.text, Layout.block_tight, compactItems_eq_tight (level + 1) items]
  | object members => by
    rw [compactText, Layout.text, Layout.block_tight, compactMembers_eq_tight (level + 1) members]

theorem compactItems_eq_tight (level : Nat) :
    ∀ items, compactItems items = Layout.tight.items level items
  | [] => rfl
  | v :: rest => by
    rw [compactItems, Layout.items, compactText_eq_tight level v, compactItems_eq_tight level rest]

theorem compactMembers_eq_tight (level : Nat) :
    ∀ members, compactMembers members = Layout.tight.members level members
  | [] => rfl
  | (name, v) :: rest => by
    rw [compactMembers, Layout.members, compactText_eq_tight level v,
      compactMembers_eq_tight level rest]
    rfl

end

mutual

theorem prettyText_eq_indented (level : Nat) : ∀ v, prettyText level v =
    Layout.indented.text level v
  | null => rfl
  | bool true => rfl
  | bool false => rfl
  | number _ => rfl
  | string _ => rfl
  | array items => by
    rw [prettyText, Layout.text, Layout.block_indented, prettyItems_eq_indented (level + 1) items]
  | object members => by
    rw [prettyText, Layout.text, Layout.block_indented,
      prettyMembers_eq_indented (level + 1) members]

theorem prettyItems_eq_indented (level : Nat) :
    ∀ items, prettyItems level items = Layout.indented.items level items
  | [] => rfl
  | v :: rest => by
    rw [prettyItems, Layout.items, prettyText_eq_indented level v,
      prettyItems_eq_indented level rest]

theorem prettyMembers_eq_indented (level : Nat) :
    ∀ members, prettyMembers level members = Layout.indented.members level members
  | [] => rfl
  | (name, v) :: rest => by
    rw [prettyMembers, Layout.members, prettyText_eq_indented level v,
      prettyMembers_eq_indented level rest]
    rfl

end

/-- A document that is written without blanks is read back as it was. -/
theorem ofText_compact {depth : Nat} {v : Value} (h : v.Legible depth)
    (hdepth : depth ≤ Cursor.depthLimit) : ofText v.compact = .ok v := by
  rw [ofText, compact, String.toList_ofList, compactText_eq_tight 0]
  exact Layout.tight.ofChars_text 0 h hdepth

/-- A document that is written with one part on a line is read back as it was. -/
theorem ofText_pretty {depth : Nat} {v : Value} (h : v.Legible depth)
    (hdepth : depth ≤ Cursor.depthLimit) : ofText v.pretty = .ok v := by
  rw [ofText, pretty, String.toList_ofList, prettyText_eq_indented]
  exact Layout.indented.ofChars_text 0 h hdepth

end Value

end NavPolicy.Json
