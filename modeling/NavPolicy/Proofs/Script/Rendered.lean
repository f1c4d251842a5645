import NavPolicy.Script.Spec

/-!
# Every script can be written

What is put into the slots of a script are strings, lists of strings and lists of records with
fixed names, so nothing in it refuses to be written.
-/

namespace NavPolicy.Script

open NavPolicy.Json

def Slots.values (s : Slots) : List String :=
  [s.hide, s.anchors, s.marker, s.interception, s.bridge, s.logPrefix, s.noticeText,
    s.noticeDuration]

namespace Spec

def documents (s : Spec) : List Value := [
  .ofStrings s.hideSelectors,
  .array (s.anchorRules.map AnchorRule.toDocument),
  .string s.options.markerAttribute,
  .string s.interception.name,
  .string s.options.bridgeObject,
  .string s.options.logPrefix,
  .string s.options.noticeText,
  .ofNat s.options.noticeDurationMs.toNat]

def texts (s : Spec) : Slots where
  hide := (Value.ofStrings s.hideSelectors).compact
  anchors := (Value.array (s.anchorRules.map AnchorRule.toDocument)).compact
  marker := (Value.string s.options.markerAttribute).compact
  interception := (Value.string s.interception.name).compact
  bridge := (Value.string s.options.bridgeObject).compact
  logPrefix := (Value.string s.options.logPrefix).compact
  noticeText := (Value.string s.options.noticeText).compact
  noticeDuration := (Value.ofNat s.options.noticeDurationMs.toNat).compact

theorem values_texts (s : Spec) : s.texts.values = s.documents.map Value.compact := rfl

private theorem slots_eq (s : Spec) : s.slots = .ok s.texts := by
  have hanchors := Data.compact_eq (Data.encode_list AnchorRule.encode_toData s.anchorRules)
  have hduration : (Value.ofNat s.options.noticeDurationMs.toNat).compact =
      toString s.options.noticeDurationMs.toNat := String.ofList_toList
  rw [slots, texts, hanchors, Data.compact_eq (Data.encode_strings _), hduration]
  rfl

/-- The text of the script. -/
def text (s : Spec) : String := head s.texts ++ customSection s.customScript ++ body

/-- Every specification has a script. -/
theorem render_eq (s : Spec) : s.render = .ok s.text := by
  rw [render, slots_eq]
  rfl

end Spec

end NavPolicy.Script
