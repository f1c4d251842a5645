import NavPolicy.Json.Record
import NavPolicy.Proofs.Json.Skipping

/-!
# Reading edited objects

A record is read from an object that someone edited: members of it were deleted, and members that
the record does not know were inserted.  Each member that was kept sets its field, whatever stands
around it, and the inserted members do nothing.
-/

namespace NavPolicy.Json

open Cursor

/-- A member with another name than the known ones.  Its name may be spelled in any way, its value
is whatever the grammar gives, and there may be blanks between its parts. -/
inductive IsForeign (known : List String) : List Char → Prop where
  | member {front body between before value back : List Char} {name : String}
      (hfront : IsGap front) (hbody : Spells body name.toList) (hname : name ∉ known)
      (hbetween : IsGap between) (hbefore : IsGap before) (hvalue : Derives .value value)
      (hback : IsGap back) :
      IsForeign known
        (front ++ '"' :: (body ++ '"' :: (between ++ ':' :: (before ++ (value ++ back)))))

/-- The texts of the members of an object: those that were kept are written in their order, with
foreign members anywhere among them. -/
inductive WithForeign (known : List String) :
    List (String × List Char) → List (List Char) → Prop where
  | nil : WithForeign known [] []
  | kept (m : String × List Char) {ms : List (String × List Char)} {texts : List (List Char)}
      (h : WithForeign known ms texts) : WithForeign known (m :: ms) (memberText id m :: texts)
  | foreign {text : List Char} {ms : List (String × List Char)} {texts : List (List Char)}
      (htext : IsForeign known text) (h : WithForeign known ms texts) :
      WithForeign known ms (text :: texts)

/-- An object with the members that were kept and foreign ones. -/
def IsEditedObject (known : List String) (kept : List (String × List Char)) (text : List Char) :
    Prop :=
  ∃ texts, WithForeign known kept texts ∧ text = '\x7b' :: (separate [','] texts ++ ['\x7d'])

def Value.writtenMembers : Value → List (String × List Char)
  | .object members => members.map fun m => (m.1, m.2.compactText)
  | _ => []

private theorem withForeign_written (known : List String) (ms : List (String × List Char)) :
    WithForeign known ms (ms.map (memberText id)) := by
  induction ms with
  | nil => exact .nil
  | cons m ms ih => exact .kept m ih

/-- An object that nobody edited keeps all its members. -/
theorem isEditedObject_compactText (known : List String) (members : Members) :
    IsEditedObject known (Value.object members).writtenMembers
      (Value.object members).compactText := by
  refine ⟨_, withForeign_written known _, ?_⟩
  rw [Value.compactText, Value.compactMembers_eq_map, Value.writtenMembers, List.map_map]
  rfl

/-- A member that was kept has its text in the object. -/
theorem WithForeign.memberText_mem {known : List String} {ms : List (String × List Char)}
    {texts : List (List Char)} (h : WithForeign known ms texts) {m : String × List Char}
    (hm : m ∈ ms) : memberText id m ∈ texts := by
  induction h with
  | nil => cases hm
  | kept m' _ ih =>
      rcases List.mem_cons.1 hm with rfl | hm
      · exact List.mem_cons_self
      · exact List.mem_cons_of_mem _ (ih hm)
  | foreign _ _ ih => exact List.mem_cons_of_mem _ (ih hm)

theorem IsEditedObject.length_le {known : List String} {kept : List (String × List Char)}
    {text : List Char} (h : IsEditedObject known kept text) {m : String × List Char}
    (hm : m ∈ kept) : m.2.length ≤ text.length := by
  obtain ⟨texts, htexts, rfl⟩ := h
  have hle := length_le_separate_of_mem (htexts.memberText_mem hm)
  simp only [memberText, id, List.length_cons, List.length_append] at hle ⊢
  omega

namespace Cursor

variable {cur : Cursor} {c : Char} {rest : List Char}

/-! ## The members of a record -/

theorem isDelimited_ahead (texts : List (List Char)) (rest : List Char) :
    IsDelimited (partsAhead false texts ++ '\x7d' :: rest) := by
  cases texts with
  | nil => exact ⟨'\x7d', rest, rfl, by decide⟩
  | cons text texts => exact ⟨',', _, rfl, by decide⟩

variable {R : Type} {strings : Nat} {fields : List (TextField R)} {seen : List String} {r : R}
variable {first : Bool} {start : Cursor}

theorem recordMembers_last (fuel : Nat) (h : cur.Faces ('\x7d' :: rest)) :
    ReadsTo (recordMembers strings fields (fuel + 1) first seen r cur) r rest := by
  refine ⟨cur.skip.next, ?_, rest_next_eq (h.rest_eq rfl)⟩
  rw [recordMembers, nextKey?_last first h]

private theorem find?_foreign {name : String} (hname : name ∉ fields.map TextField.name) :
    (fields.find? fun f => f.name == name) = none := by
  rw [List.find?_eq_none]
  intro f hf heq
  exact hname (List.mem_map.2 ⟨f, hf, eq_of_beq heq⟩)

/-- A foreign member does nothing. -/
theorem recordMembers_foreign (fuel : Nat) {text : List Char}
    (htext : IsForeign (fields.map TextField.name) text) (hlength : text.length < strings)
    (hrest : IsDelimited rest)
    (h : cur.Faces ((if first then [] else [',']) ++ (text ++ rest))) :
    ∃ after, recordMembers strings fields (fuel + 1) first seen r cur =
        recordMembers strings fields fuel false seen r after ∧ after.Faces rest := by
  obtain @⟨front, body, between, before, value, back, name, hfront, hbody, hname, hbetween,
    hbefore, hvalue, hback⟩ := htext
  simp only [List.append_assoc, List.cons_append] at h
  simp only [List.length_append, List.length_cons] at hlength
  have hspelled : name.toList.length < strings := by
    have hle := hbody.length_le
    omega
  have hfuel : value.length < strings := by omega
  obtain ⟨start, hnext, hstart⟩ := nextKey?_faces first hfront h
  obtain ⟨behind, hstring, hbehind⟩ := string_spelled hbody hspelled (rest_next_eq hstart)
  obtain ⟨inside, hcolon, hinside⟩ := colon_eq ((faces_of_rest hbehind).of_gap hbetween)
  have hpadded : inside.Faces (before ++ (value ++ back) ++ rest) := by
    simpa only [List.append_assoc] using faces_of_rest hinside
  obtain ⟨after, hskip, hafter⟩ := skipValue_derived hvalue hbefore hback hrest hfuel hpadded
  refine ⟨after, ?_, hafter⟩
  rw [recordMembers, hnext]
  simp only [hstring, find?_foreign hname, hcolon, hskip]

def fieldOf {α : Type} (name : String) (read : Cursor → Read α) (update : R → α → R) :
    TextField R :=
  ⟨name, fun cur r => (read cur).map fun (a, cur) => (update r a, cur)⟩

/-- A member sets its field: the field of its name reads its text, whatever is behind it, and
changes a record as `set` says. -/
def Sets (fields : List (TextField R)) (set : String → R → R) (m : String × List Char) : Prop :=
  ∃ f, (fields.find? fun f => f.name == m.1) = some f ∧
    ∀ {cur : Cursor} {rest : List Char} (r : R), IsDelimited rest → cur.rest = m.2 ++ rest →
      ReadsTo (f.read cur r) (set m.1 r) rest

theorem sets_of_reads {α : Type} {set : String → R → R} {name : String} {text : List Char}
    (read : Cursor → Read α) (update : R → α → R) (a : α)
    (hfind : (fields.find? fun f => f.name == name) = some (fieldOf name read update))
    (hset : ∀ r, set name r = update r a)
    (hread : ∀ {cur : Cursor} {rest : List Char}, IsDelimited rest → cur.rest = text ++ rest →
      ReadsTo (read cur) a rest) : Sets fields set (name, text) := by
  refine ⟨_, hfind, fun {cur rest} r hrest h => ?_⟩
  obtain ⟨after, hvalue, hafter⟩ := hread hrest h
  refine ⟨after, ?_, hafter⟩
  simp only [fieldOf, hvalue, hset]
  rfl

/-- A member that was kept sets its field. -/
theorem recordMembers_kept (fuel : Nat) {set : String → R → R} {m : String × List Char}
    (hset : Sets fields set m) (hseen : m.1 ∉ seen) (hlength : (memberText id m).length ≤ strings)
    (hrest : IsDelimited rest)
    (h : cur.Faces ((if first then [] else [',']) ++ (memberText id m ++ rest))) :
    ∃ after, recordMembers strings fields (fuel + 1) first seen r cur =
        recordMembers strings fields fuel false (m.1 :: seen) (set m.1 r) after ∧
      after.Faces rest := by
  obtain ⟨name, text⟩ := m
  obtain ⟨f, hfind, hread⟩ := hset
  have hname : name.toList.length < strings := by
    have hlt := length_lt_quote name.toList
    simp only [memberText, List.length_append, List.length_cons] at hlength
    omega
  simp only [memberText, quote, List.append_assoc, List.cons_append, List.nil_append] at h
  obtain ⟨start, hnext, hstart⟩ := nextKey?_faces first (List.forall_mem_nil _) h
  obtain ⟨behind, hstring, hbehind⟩ := string_written hname (rest_next_eq hstart)
  obtain ⟨inside, hcolon, hinside⟩ := colon_eq (faces_of_rest hbehind)
  obtain ⟨after, hvalue, hafter⟩ := hread r hrest hinside
  refine ⟨after, ?_, faces_of_rest hafter⟩
  rw [recordMembers, hnext]
  simp [hstring, hfind, hseen, hcolon, hvalue]

/-- All members together set the fields of those that were kept. -/
theorem recordMembers_edited {set : String → R → R} {kept : List (String × List Char)}
    {texts : List (List Char)} (htexts : WithForeign (fields.map TextField.name) kept texts)
    (hset : ∀ m ∈ kept, Sets fields set m) (hnodup : (kept.map Prod.fst).Nodup)
    (hseen : ∀ m ∈ kept, m.1 ∉ seen) (hlength : ∀ text ∈ texts, text.length < strings)
    {fuel : Nat} (hfuel : texts.length < fuel)
    (h : cur.Faces (partsAhead first texts ++ '\x7d' :: rest)) :
    ReadsTo (recordMembers strings fields fuel first seen r cur)
      (kept.foldl (fun r m => set m.1 r) r) rest := by
  -- Only the members that were kept are remembered as seen: foreign names may come twice.
  induction htexts generalizing cur first seen r fuel with
  | nil =>
      obtain ⟨fuel, rfl⟩ := Nat.exists_eq_add_one.2 hfuel
      cases first <;> exact recordMembers_last fuel h
  | @kept m ms texts _ ih =>
      obtain ⟨fuel, rfl⟩ := Nat.exists_eq_add_one.2 (Nat.zero_lt_of_lt hfuel)
      rw [List.forall_mem_cons] at hset hseen hlength
      rw [List.map_cons, List.nodup_cons] at hnodup
      rw [partsAhead_cons, List.append_assoc, List.append_assoc] at h
      obtain ⟨after, hstep, hafter⟩ := recordMembers_kept fuel hset.1 hseen.1
        (Nat.le_of_lt hlength.1) (isDelimited_ahead texts rest) h
      rw [hstep]
      refine ih hset.2 hnodup.2 (fun m' hm' hmem => ?_) hlength.2 (Nat.lt_of_succ_lt_succ hfuel)
        hafter
      rcases List.mem_cons.1 hmem with heq | hmem
      · exact hnodup.1 (heq ▸ List.mem_map_of_mem hm')
      · exact hseen.2 m' hm' hmem
  | foreign htext _ ih =>
      obtain ⟨fuel, rfl⟩ := Nat.exists_eq_add_one.2 (Nat.zero_lt_of_lt hfuel)
      rw [List.forall_mem_cons] at hlength
      rw [partsAhead_cons, List.append_assoc, List.append_assoc] at h
      obtain ⟨after, hstep, hafter⟩ :=
        recordMembers_foreign fuel htext hlength.1 (isDelimited_ahead _ rest) h
      rw [hstep]
      exact ih hset hnodup hseen hlength.2 (Nat.lt_of_succ_lt_succ hfuel) hafter

/-- A record is read from an edited object: the blank record with the fields of the members that
were kept. -/
theorem record_edited {set : String → R → R} {kept : List (String × List Char)} {text : List Char}
    (name : String) (blank : R) (htext : IsEditedObject (fields.map TextField.name) kept text)
    (hset : ∀ m ∈ kept, Sets fields set m) (hnodup : (kept.map Prod.fst).Nodup) {fuel : Nat}
    (hfuel : text.length < fuel) (h : cur.rest = text ++ rest) :
    ReadsTo (cur.record fuel name fields blank) (kept.foldl (fun r m => set m.1 r) blank) rest := by
  obtain ⟨texts, htexts, rfl⟩ := htext
  have hcount := length_le_separate texts
  simp only [List.length_cons, List.length_append, List.length_nil] at hfuel
  rw [List.cons_append, List.append_assoc] at h
  have hlength : ∀ text ∈ texts, text.length < fuel := fun text hmem => by
    have hle := length_le_separate_of_mem hmem
    omega
  have hread : ReadsTo (recordMembers fuel fields fuel true [] blank cur.next)
      (kept.foldl (fun r m => set m.1 r) blank) rest :=
    recordMembers_edited htexts hset hnodup (fun _ _ => List.not_mem_nil) hlength (by omega)
      (faces_of_rest (rest_next_eq h))
  simpa only [record, skip_eq h rfl, peek_eq h] using hread

/-! ## The values of fields -/

/-- A written string is read as the value of a field. -/
theorem stringValue_written {s : String} {fuel : Nat} (hfuel : (quote s.toList).length < fuel)
    (h : cur.rest = quote s.toList ++ rest) : ReadsTo (cur.stringValue fuel) s rest := by
  have hlt := length_lt_quote s.toList
  rw [quote, List.cons_append, List.append_assoc] at h
  rw [stringValue, skip_eq h rfl, if_pos (peek_eq h)]
  exact string_written (by omega) (rest_next_eq h)

/-- A written natural is read as the value of a field. -/
theorem wordValue_written {fuel n : Nat} (hn : n < wordLimit)
    (hfuel : (Nat.toDigits 10 n).length < fuel) (hrest : EndsNumber rest)
    (h : cur.rest = Nat.toDigits 10 n ++ rest) : ReadsTo (cur.wordValue fuel) n rest := by
  obtain ⟨after, hread, hafter⟩ := number_written hn (Nat.le_of_lt hfuel) hrest h
  refine ⟨after, ?_, hafter⟩
  obtain ⟨c, digits, hdigits⟩ := List.exists_cons_of_ne_nil (@Nat.toDigits_ne_nil n 10)
  have hc : c.isDigit = true :=
    Nat.isDigit_of_mem_toDigits (by decide) (by decide) (hdigits.symm ▸ List.mem_cons_self)
  rw [hdigits, List.cons_append] at h
  have hsign : cur.peek ≠ some '-' := by
    rw [peek_eq h]
    rintro ⟨⟩
    cases hc
  rw [wordValue, skip_eq h (canBegin_of_isDigit hc).1]
  simp only [if_neg hsign, atDigit_eq_true hc h, if_true, hread]

/-- The written name of a choice is read as that choice. -/
theorem optionValue_choice {α : Type} {choices : List (String × α)} {name : String} {a : α}
    {fuel : Nat} (hchoice : (choices.find? fun c => c.1 == name) = some (name, a))
    (hfuel : (quote name.toList).length < fuel) (h : cur.rest = quote name.toList ++ rest) :
    ReadsTo (cur.optionValue (choiceValue fuel choices)) (some a) rest := by
  have hlt := length_lt_quote name.toList
  rw [quote, List.cons_append, List.append_assoc] at h
  obtain ⟨after, hread, hafter⟩ := string_written (Nat.lt_trans hlt hfuel) (rest_next_eq h)
  refine ⟨after, ?_, hafter⟩
  simp only [optionValue, choiceValue, choiceName, skip_eq h rfl, peek_eq h, hread, hchoice]
  rfl

end Cursor

end NavPolicy.Json
