import Mathlib.Data.List.DropRight
import NavPolicy.Proofs.Json.Grammar
import NavPolicy.Proofs.Json.Spelling

/-!
# Blanks between parts

A reader skips the blanks in front of what it looks for.  So it does not matter where exactly in
front of the next part a cursor is, and the loops over items and members find the next of them
behind any blanks.
-/

namespace NavPolicy.Json

/-- After the first part, a separator stands in front of each. -/
theorem separate_cons (separator part : List Char) (parts : List (List Char)) :
    separate separator (part :: parts) = part ++ parts.flatMap fun p => separator ++ p := by
  cases parts with
  | nil => rw [separate, List.flatMap_nil, List.append_nil]
  | cons _ _ => rfl

namespace Cursor

variable {cur : Cursor} {c : Char} {text rest : List Char}

theorem rest_skip (cur : Cursor) : cur.skip.rest = cur.rest.dropWhile isSpace := by
  obtain ⟨line, column, text⟩ := cur
  rw [skip]
  induction text generalizing line column with
  | nil => rfl
  | cons c text ih =>
      rw [skipFrom, List.dropWhile_cons]
      split
      · rename_i hline
        rw [ih, hline]
        rfl
      · split
        · exact ih _ _
        · rfl

/-- The cursor is in front of a text, blanks apart. -/
def Faces (cur : Cursor) (text : List Char) : Prop := cur.skip.rest = text.dropWhile isSpace

theorem faces_of_rest (h : cur.rest = text) : cur.Faces text := by
  rw [Faces, rest_skip, h]

theorem Faces.skip (h : cur.Faces text) : cur.skip.Faces text := by
  rw [Faces, rest_skip, h]
  exact List.dropWhile_idempotent _ _

/-- Blanks in front of a text do not count. -/
theorem Faces.of_gap {gap : List Char} (hgap : IsGap gap) (h : cur.Faces (gap ++ text)) :
    cur.Faces text := by
  rwa [Faces, List.dropWhile_append_of_pos hgap] at h

/-- In front of a text that begins without a blank, skipping blanks leads to that text. -/
theorem Faces.rest_eq (h : cur.Faces (c :: text)) (hc : isSpace c = false) :
    cur.skip.rest = c :: text := by
  rwa [Faces, List.dropWhile_cons_of_neg (Bool.eq_false_iff.1 hc)] at h

theorem Faces.next (h : cur.Faces (c :: text)) (hc : isSpace c = false) :
    cur.skip.next.Faces text :=
  faces_of_rest (rest_next_eq (h.rest_eq hc))

/-- A reader that gives nothing stops in front of a text. -/
def StopsAt (read : Except Error Cursor) (rest : List Char) : Prop :=
  ∃ after, read = .ok after ∧ after.rest = rest

/-- The colon after a name may have blanks in front. -/
theorem colon_eq (h : cur.Faces (':' :: rest)) : StopsAt cur.colon rest := by
  have hrest := h.rest_eq rfl
  refine ⟨cur.skip.next, ?_, rest_next_eq hrest⟩
  simp only [colon, peek_eq hrest]

/-! ## The next part -/

/-- The texts of parts that come next: behind a comma, unless they are the first ones. -/
def partsAhead (first : Bool) (texts : List (List Char)) : List Char :=
  if first then separate [','] texts else texts.flatMap fun text => ',' :: text

theorem partsAhead_nil (first : Bool) : partsAhead first [] = [] := by
  cases first <;> rfl

/-- Only the first part has no comma in front. -/
theorem partsAhead_cons (first : Bool) (text : List Char) (texts : List (List Char)) :
    partsAhead first (text :: texts) =
      (if first then [] else [',']) ++ (text ++ partsAhead false texts) := by
  cases first
  · rfl
  · exact separate_cons _ _ _

/-- An item that comes next is found, past a comma and blanks. -/
theorem nextItem?_faces (first : Bool) {front : List Char} (hfront : IsGap front)
    (hspace : isSpace c = false) (hclose : c ≠ ']')
    (h : cur.Faces ((if first then [] else [',']) ++ (front ++ c :: rest))) :
    ∃ start, nextItem? first cur = .ok (true, start) ∧ start.rest = c :: rest := by
  cases first
  · have hrest := h.rest_eq rfl
    have hstart := ((h.next rfl).of_gap hfront).rest_eq hspace
    refine ⟨cur.skip.next.skip, ?_, hstart⟩
    simp [nextItem?, peek_eq hrest, peek_eq hstart]
  · have hstart := (h.of_gap hfront).rest_eq hspace
    refine ⟨cur.skip, ?_, hstart⟩
    simp [nextItem?, peek_eq hstart]

/-- A bracket that closes ends the items. -/
theorem nextItem?_last (first : Bool) (h : cur.Faces (']' :: rest)) :
    nextItem? first cur = .ok (false, cur.skip) := by
  simp only [nextItem?, peek_eq (h.rest_eq rfl)]

/-- A name that comes next is found, past a comma and blanks. -/
theorem nextKey?_faces (first : Bool) {front : List Char} (hfront : IsGap front)
    (h : cur.Faces ((if first then [] else [',']) ++ (front ++ '"' :: rest))) :
    ∃ start, nextKey? first cur = .ok (true, start) ∧ start.rest = '"' :: rest := by
  cases first
  · have hrest := h.rest_eq rfl
    have hstart := ((h.next rfl).of_gap hfront).rest_eq rfl
    refine ⟨cur.skip.next.skip, ?_, hstart⟩
    simp [nextKey?, peek_eq hrest, peek_eq hstart]
  · have hstart := (h.of_gap hfront).rest_eq rfl
    refine ⟨cur.skip, ?_, hstart⟩
    simp [nextKey?, peek_eq hstart]

/-- A brace that closes ends the members. -/
theorem nextKey?_last (first : Bool) (h : cur.Faces ('\x7d' :: rest)) :
    nextKey? first cur = .ok (false, cur.skip) := by
  simp only [nextKey?, peek_eq (h.rest_eq rfl)]

end Cursor

end NavPolicy.Json
