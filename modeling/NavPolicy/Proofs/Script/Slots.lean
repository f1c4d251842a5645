import NavPolicy.Proofs.Json.Numerals
import NavPolicy.Proofs.Json.Printed
import NavPolicy.Proofs.Policy.Content
import NavPolicy.Proofs.Policy.RoundTrip
import NavPolicy.Proofs.Script.Rendered

/-!
# What stands in the slots of a script

Data never changes the structure of a script.  The documents in the slots are written without
line ends, so that every slot keeps to its line whatever the selectors, entries and options hold,
and each of them is read back as it was.  So a script tells what it was made from.
-/

namespace NavPolicy

open NavPolicy.Json

/-- A behaviour is told from its name. -/
theorem Interception.name_injective : Function.Injective Interception.name := by
  intro i j h
  cases i with
  | disabled => cases j <;> first | rfl | exact absurd h (by decide)
  | callback => cases j <;> first | rfl | exact absurd h (by decide)
  | notice => cases j <;> first | rfl | exact absurd h (by decide)

namespace Script

/-! ## Lines -/

def lines (text : String) : List String :=
  (text.toList.splitOnP (· == '\n')).map String.ofList

/-- A line with its line end is the first line of a text that goes on behind it. -/
theorem lines_append {line : String} (h : IsPrinted line.toList) (rest : String) :
    lines (line ++ "\n" ++ rest) = line :: lines rest := by
  have hnone : ∀ c ∈ line.toList, (c == '\n') = false := by
    intro c hc
    apply beq_eq_false_iff_ne.2
    rintro rfl
    exact h.newline_not_mem hc
  have htext : (line ++ "\n" ++ rest).toList = line.toList ++ '\n' :: rest.toList := by
    simp
  rw [lines, htext, List.splitOnP_append_cons_of_forall_mem hnone '\n' rfl, List.map_cons,
    String.ofList_toList]
  rfl

theorem lines_join_append {ls : List String} (h : ∀ line ∈ ls, IsPrinted line.toList)
    (rest : String) : lines (String.join (ls.map (· ++ "\n")) ++ rest) = ls ++ lines rest := by
  induction ls with
  | nil => simp
  | cons line ls ih =>
      rw [List.forall_mem_cons] at h
      rw [List.map_cons, String.join_cons, String.append_assoc, lines_append h.1, ih h.2,
        List.cons_append]

/-! ## The slots and the lines around them -/

def slotLabels : List String := [
  "    hideSelectors: ",
  "    disabledAnchors: ",
  "    marker: ",
  "    interception: ",
  "    bridge: ",
  "    logPrefix: ",
  "    noticeText: ",
  "    noticeDurationMs: "]

def slotLines (s : Slots) : List String :=
  (slotLabels.zip s.values).map fun p => p.1 ++ p.2 ++ ","

def openingLines : List String := [
  "",
  "(function() \x7b",
  "  'use strict';",
  "",
  "  if (window.__navgateInstalled) \x7b",
  "    return;",
  "  \x7d",
  "  window.__navgateInstalled = true;",
  "",
  "  const NG = \x7b"]

def closingLines : List String := [
  "    clickHandlerInstalled: false,",
  "",
  "    init() \x7b",
  "      this.hideElements();",
  "      this.interceptAnchors();",
  "      this.observeMutations();"]

theorem length_slotLines (s : Slots) : (slotLines s).length = 8 := rfl

theorem headLines_eq (s : Slots) : headLines s = openingLines ++ slotLines s ++ closingLines := rfl

private theorem isPrinted_compact (v : Value) : IsPrinted v.compact.toList := by
  rw [Value.compact, String.toList_ofList]
  exact v.isPrinted_compactText

theorem Spec.isPrinted_texts (s : Spec) : ∀ text ∈ s.texts.values, IsPrinted text.toList := by
  intro text htext
  rw [s.values_texts] at htext
  obtain ⟨v, -, rfl⟩ := List.mem_map.1 htext
  exact isPrinted_compact v

private theorem isPrinted_slotLines {s : Slots} (h : ∀ text ∈ s.values, IsPrinted text.toList) :
    ∀ line ∈ slotLines s, IsPrinted line.toList := by
  have hlabels : ∀ label ∈ slotLabels, IsPrinted label.toList :=
    List.all_iff_forall_prop.1 (by decide)
  intro line hline
  obtain ⟨⟨label, text⟩, hmem, rfl⟩ := List.mem_map.1 hline
  obtain ⟨hlabel, htext⟩ := List.of_mem_zip hmem
  rw [String.toList_append, String.toList_append]
  apply isPrinted_append.2 ⟨isPrinted_append.2 ⟨hlabels label hlabel, h text htext⟩, _⟩
  decide

/-- Texts without control characters do not reach the end of their lines. -/
theorem isPrinted_headLines {s : Slots} (h : ∀ text ∈ s.values, IsPrinted text.toList) :
    ∀ line ∈ headLines s, IsPrinted line.toList := by
  have hopening : ∀ line ∈ openingLines, IsPrinted line.toList :=
    List.all_iff_forall_prop.1 (by decide)
  have hclosing : ∀ line ∈ closingLines, IsPrinted line.toList :=
    List.all_iff_forall_prop.1 (by decide)
  rw [headLines_eq, List.forall_mem_append, List.forall_mem_append]
  exact ⟨⟨hopening, isPrinted_slotLines h⟩, hclosing⟩

theorem lines_head_append {s : Slots} (h : ∀ text ∈ s.values, IsPrinted text.toList)
    (rest : String) :
    lines (head s ++ rest) = openingLines ++ slotLines s ++ closingLines ++ lines rest := by
  rw [head, lines_join_append (isPrinted_headLines h), headLines_eq]

/-! ## Reading the slots -/

private theorem AnchorRule.legible_toDocument (depth : Nat) (r : AnchorRule) :
    r.toDocument.Legible (depth + 1) := by
  apply Value.Legible.object
  · simp [Ordered.names]
  · simp only [List.forall_mem_cons]
    exact ⟨.string _ _, .string _ _, .bool _ _, List.forall_mem_nil _⟩

theorem AnchorRule.toDocument_injective : Function.Injective toDocument := by
  intro r r' h
  cases r with
  | mk entry stem exact =>
      cases r' with
      | mk entry' stem' exact' =>
          simp only [toDocument, Value.object.injEq, List.cons.injEq, Prod.mk.injEq,
            Value.string.injEq, Value.bool.injEq, true_and, and_true] at h
          obtain ⟨rfl, rfl, rfl⟩ := h
          rfl

theorem ofText_string (s : String) : Value.ofText (Value.string s).compact = .ok (.string s) :=
  Value.ofText_compact (.string 0 s) (by decide)

/-- Every document in a slot is read back as it was. -/
theorem Spec.ofText_documents (s : Spec) : ∀ v ∈ s.documents, Value.ofText v.compact = .ok v := by
  have hhide : (Value.ofStrings s.hideSelectors).Legible 1 := legible_ofStrings 0 s.hideSelectors
  have hanchors : (Value.array (s.anchorRules.map AnchorRule.toDocument)).Legible 2 := by
    apply Value.Legible.array
    intro v hv
    obtain ⟨r, -, rfl⟩ := List.mem_map.1 hv
    exact r.legible_toDocument 0
  have hduration : s.options.noticeDurationMs.toNat < Cursor.wordLimit := UInt64.toNat_lt _
  simp only [documents, List.forall_mem_cons]
  exact ⟨Value.ofText_compact hhide (by decide), Value.ofText_compact hanchors (by decide),
    ofText_string _, ofText_string _, ofText_string _, ofText_string _, ofText_string _,
    Value.ofText_compact_ofNat hduration, List.forall_mem_nil _⟩

/-! ## What a script is made from -/

/-- What a script says: the values in its slots and the destination's own scripts. -/
structure Content where
  hideSelectors : List String
  anchorRules : List AnchorRule
  markerAttribute : String
  interception : Interception
  bridgeObject : String
  logPrefix : String
  noticeText : String
  noticeDurationMs : UInt64
  customScript : String

def Spec.content (s : Spec) : Content where
  hideSelectors := s.hideSelectors
  anchorRules := s.anchorRules
  markerAttribute := s.options.markerAttribute
  interception := s.interception
  bridgeObject := s.options.bridgeObject
  logPrefix := s.options.logPrefix
  noticeText := s.options.noticeText
  noticeDurationMs := s.options.noticeDurationMs
  customScript := s.customScript

theorem Slots.values_injective : Function.Injective Slots.values := by
  intro a b h
  cases a with
  | mk =>
      cases b with
      | mk =>
          simp only [values, List.cons.injEq, and_true] at h
          obtain ⟨rfl, rfl, rfl, rfl, rfl, rfl, rfl, rfl⟩ := h
          rfl

theorem values_eq_of_slotLines {a b : Slots} (h : slotLines a = slotLines b) :
    a.values = b.values := by
  simpa [slotLines, slotLabels, Slots.values, String.append_left_inj, String.append_right_inj]
    using h

theorem customSection_of_eq {custom : String} (h : custom = "") : customSection custom = "" := by
  rw [customSection, if_pos (String.isEmpty_iff.2 h)]

theorem customSection_of_ne {custom : String} (h : custom ≠ "") :
    customSection custom = custom ++ "\n" := by
  rw [customSection, if_neg (mt String.isEmpty_iff.1 h)]

theorem customSection_injective : Function.Injective customSection := by
  have hline : ∀ custom : String, custom ++ "\n" ≠ "" := by simp
  intro custom custom' h
  by_cases hempty : custom = ""
  · by_cases hempty' : custom' = ""
    · rw [hempty, hempty']
    · rw [customSection_of_eq hempty, customSection_of_ne hempty'] at h
      exact absurd h.symm (hline custom')
  · by_cases hempty' : custom' = ""
    · rw [customSection_of_ne hempty, customSection_of_eq hempty'] at h
      exact absurd h (hline custom)
    · rw [customSection_of_ne hempty, customSection_of_ne hempty'] at h
      exact (String.append_left_inj "\n").1 h

namespace Spec

variable {s s' : Spec}

/-- The lines of a script: what is fixed, the slots, what is fixed again, and the custom section
with the body. -/
theorem lines_text (s : Spec) :
    lines s.text = openingLines ++ slotLines s.texts ++ closingLines ++
      lines (customSection s.customScript ++ body) := by
  rw [text, String.append_assoc, lines_head_append s.isPrinted_texts]

/-- The slots can be told from the text of a script. -/
theorem texts_eq_of_text (h : s.text = s'.text) : s.texts = s'.texts := by
  have hlines : lines s.text = lines s'.text := congrArg lines h
  rw [lines_text, lines_text, List.append_assoc, List.append_assoc, List.append_assoc,
    List.append_assoc] at hlines
  have hlength : (slotLines s.texts).length = (slotLines s'.texts).length := by
    rw [length_slotLines, length_slotLines]
  have hslots : slotLines s.texts = slotLines s'.texts :=
    List.append_inj_left (List.append_cancel_left hlines) hlength
  exact Slots.values_injective (values_eq_of_slotLines hslots)

/-- The texts in the slots of a script tell the documents in them. -/
theorem documents_eq_of_texts (h : s.texts = s'.texts) : s.documents = s'.documents := by
  have hread : ∀ s : Spec, s.texts.values.map Value.ofText = s.documents.map .ok := by
    intro s
    rw [s.values_texts, List.map_map]
    exact List.map_congr_left s.ofText_documents
  have hok : s.documents.map (Except.ok (ε := Error)) = s'.documents.map .ok := by
    rw [← hread s, ← hread s', h]
  exact (List.map_inj_right fun _ _ => Except.ok.inj).1 hok

theorem customScript_eq_of_text (h : s.text = s'.text) : s.customScript = s'.customScript := by
  have htexts : s.texts = s'.texts := texts_eq_of_text h
  rw [text, text, htexts, String.append_left_inj, String.append_right_inj] at h
  exact customSection_injective h

/-- Two specifications with the same script say the same. -/
theorem content_eq_of_text (h : s.text = s'.text) : s.content = s'.content := by
  have hdocuments : s.documents = s'.documents := documents_eq_of_texts (texts_eq_of_text h)
  simp only [documents, List.cons.injEq, and_true, ofStrings_inj, Value.array.injEq,
    Value.string.injEq, Value.ofNat, Value.number.injEq, Number.natural.injEq, UInt64.toNat_inj,
    AnchorRule.toDocument_injective.list_map.eq_iff,
    Interception.name_injective.eq_iff] at hdocuments
  obtain ⟨hhide, hanchors, hmarker, hinterception, hbridge, hprefix, htext, hduration⟩ := hdocuments
  have hcustom : s.customScript = s'.customScript := customScript_eq_of_text h
  simp only [content, hhide, hanchors, hmarker, hinterception, hbridge, hprefix, htext, hduration,
    hcustom]

/-- How a script with texts in its slots holds what it is made from. -/
structure Delimits (s : Spec) (slots : Slots) (script : String) : Prop where
  parts : script = head slots ++ customSection s.customScript ++ body
  /-- The slots come on eight lines in a row, behind and in front of lines that never change. -/
  placed : lines script = openingLines ++ slotLines slots ++ closingLines ++
    lines (customSection s.customScript ++ body)
  closed : ∀ text ∈ slots.values, '\n' ∉ text.toList ∧ '\r' ∉ text.toList
  /-- The slots are read as the values that they are to hold. -/
  read : slots.values.map Value.ofText = [
    .ok (.array (s.hideSelectors.map .string)),
    .ok (.array (s.anchorRules.map fun r => .object
      [("entry", .string r.entry), ("prefix", .string r.stem), ("exact", .bool r.exact)])),
    .ok (.string s.options.markerAttribute),
    .ok (.string s.interception.name),
    .ok (.string s.options.bridgeObject),
    .ok (.string s.options.logPrefix),
    .ok (.string s.options.noticeText),
    .ok (.number (.natural s.options.noticeDurationMs.toNat))]
  custom_empty : s.customScript = "" → customSection s.customScript = ""
  custom_verbatim : s.customScript ≠ "" → customSection s.customScript = s.customScript ++ "\n"
  /-- Whatever else has this script says the same. -/
  content : ∀ s' : Spec, s'.render = .ok script → s'.content = s.content

/-- There is always a script.  Data does not change its structure, and can be told from it. -/
theorem render_delimits (s : Spec) :
    ∃ slots script, s.render = .ok script ∧ s.Delimits slots script := by
  refine ⟨s.texts, s.text, s.render_eq, ?_⟩
  exact {
    parts := rfl
    placed := s.lines_text
    closed := fun text htext =>
      ⟨(s.isPrinted_texts text htext).newline_not_mem,
        (s.isPrinted_texts text htext).return_not_mem⟩
    read := by
      rw [s.values_texts, List.map_map]
      exact List.map_congr_left s.ofText_documents
    custom_empty := customSection_of_eq
    custom_verbatim := customSection_of_ne
    content := fun s' h => content_eq_of_text (Except.ok.inj (s'.render_eq.symm.trans h)) }

end Spec

end Script

end NavPolicy
