import NavPolicy.Options.Basic
import NavPolicy.Script.Anchor
import NavPolicy.Script.Body

/-!
# Scripts

The script for a destination is a fixed text with eight slots, each of which holds one
value as JSON on a line of its own, then the destination's own scripts as they are, and
then the body that is the same for all.
-/

namespace NavPolicy.Script

open NavPolicy.Json

/-- What a script is made from. -/
structure Spec where
  dom : Option DomRules
  mode : Option FilterMode
  options : ScriptOptions
  interception : Interception

/-- The members of a list, each where it first comes. -/
def firstOccurrences (names : List String) : List String :=
  names.foldl (fun found s => if found.contains s then found else found ++ [s]) []

namespace Spec

/-- The selectors to hide: those of the destination and then those of the mode, each once. -/
def hideSelectors (s : Spec) : List String :=
  firstOccurrences ((s.dom.map DomRules.hide).getD [] ++
    (s.mode.map FilterMode.hideSelectors).getD [])

/-- The links that lead nowhere; none if clicks are left alone. -/
def anchorRules (s : Spec) : List AnchorRule :=
  if s.interception = .disabled then []
  else ((s.dom.map DomRules.disableAnchorsTo).getD []).filterMap AnchorRule.ofEntry?

/-- The scripts of the destination and of the mode, as they are. -/
def customScript (s : Spec) : String :=
  "\n".intercalate ((s.dom.bind DomRules.script).toList ++
    (s.mode.map FilterMode.scriptlets).getD [])

end Spec

/-- The texts in the slots of a script. -/
structure Slots where
  hide : String
  anchors : String
  marker : String
  interception : String
  bridge : String
  logPrefix : String
  noticeText : String
  noticeDuration : String

def Spec.slots (s : Spec) : Except EncodeError Slots := do
  return {
    hide := ← (Data.strings s.hideSelectors).compact
    anchors := ← (Data.list (s.anchorRules.map AnchorRule.toData)).compact
    marker := ← (Data.string s.options.markerAttribute).compact
    interception := ← (Data.string s.interception.name).compact
    bridge := ← (Data.string s.options.bridgeObject).compact
    logPrefix := ← (Data.string s.options.logPrefix).compact
    noticeText := ← (Data.string s.options.noticeText).compact
    noticeDuration := toString s.options.noticeDurationMs.toNat }

/-- The lines of a script in front of the destination's own scripts. -/
def headLines (s : Slots) : List String := [
  "",
  "(function() \x7b",
  "  'use strict';",
  "",
  "  if (window.__navgateInstalled) \x7b",
  "    return;",
  "  \x7d",
  "  window.__navgateInstalled = true;",
  "",
  "  const NG = \x7b",
  "    hideSelectors: " ++ s.hide ++ ",",
  "    disabledAnchors: " ++ s.anchors ++ ",",
  "    marker: " ++ s.marker ++ ",",
  "    interception: " ++ s.interception ++ ",",
  "    bridge: " ++ s.bridge ++ ",",
  "    logPrefix: " ++ s.logPrefix ++ ",",
  "    noticeText: " ++ s.noticeText ++ ",",
  "    noticeDurationMs: " ++ s.noticeDuration ++ ",",
  "    clickHandlerInstalled: false,",
  "",
  "    init() \x7b",
  "      this.hideElements();",
  "      this.interceptAnchors();",
  "      this.observeMutations();"]

def head (s : Slots) : String := String.join ((headLines s).map (· ++ "\n"))

/-- The section of the destination's own scripts: empty, or the scripts and a line end. -/
def customSection (custom : String) : String :=
  if custom.isEmpty then "" else custom ++ "\n"

/-- The script, or the error of the first slot that cannot be filled. -/
def Spec.render (s : Spec) : Except EncodeError String := do
  return head (← s.slots) ++ customSection s.customScript ++ body

end NavPolicy.Script
