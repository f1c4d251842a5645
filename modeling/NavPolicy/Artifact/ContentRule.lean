import NavPolicy.Json.Data
import NavPolicy.Policy.Basic

/-!
# Content rules

A web view with content rules blocks what matches the filter of a rule, everywhere or only
on some hosts.  The filter is an expression, so a block pattern is escaped to stand for its
own text.
-/

namespace NavPolicy.Artifact

open NavPolicy.Json

/-- The characters that have a meaning in filters. -/
def isFilterMeta (c : Char) : Bool :=
  ['.', '*', '+', '?', '^', '$', '\x7b', '\x7d', '(', ')', '|', '[', ']', '\\'].contains c

/-- A text as a filter that matches it. -/
def filterChars (cs : List Char) : List Char :=
  cs.flatMap fun c => if isFilterMeta c then ['\\', c] else [c]

/-- A pattern as a filter, taken as it was written. -/
def urlFilter (pattern : String) : String :=
  String.ofList (filterChars pattern.toList)

structure ContentRule where
  urlFilter : String
  /-- The hosts for which the rule holds; all of them if none are given. -/
  ifDomain : Option (List String)
  deriving DecidableEq, Repr

def ContentRule.toDocument (r : ContentRule) : Value :=
  .object [
    ("trigger", .object ([("url-filter", .string r.urlFilter)] ++
      match r.ifDomain with
      | none => []
      | some hosts => [("if-domain", .ofStrings hosts)])),
    ("action", .object [("type", .string "block")])]

/-- A rule as data: a trigger without hosts does not mention them. -/
def ContentRule.toData (r : ContentRule) : Data :=
  .record [
    ("trigger", .record ([("url-filter", .string r.urlFilter)] ++
      match r.ifDomain with
      | none => []
      | some hosts => [("if-domain", .strings hosts)])),
    ("action", .record [("type", .string "block")])]

theorem ContentRule.encode_toData (r : ContentRule) : r.toData.encode = .ok r.toDocument := by
  obtain ⟨filter, hosts⟩ := r
  cases hosts <;> simp [toData, toDocument, Data.encode, Data.encodeFields, Except.map]

/-- The text of content rules. -/
def contentRulesText (rules : List ContentRule) : Except EncodeError String :=
  (Data.list (rules.map ContentRule.toData)).compact

/-- Every list of rules has a text. -/
theorem contentRulesText_eq (rules : List ContentRule) :
    contentRulesText rules = .ok (Value.array (rules.map ContentRule.toDocument)).compact :=
  Data.compact_eq (Data.encode_list ContentRule.encode_toData rules)

/-- Content rules with their text. -/
structure ContentRuleList where
  rules : List ContentRule
  text : String
  isText : contentRulesText rules = .ok text
  deriving DecidableEq

def ContentRuleList.ofRules (rules : List ContentRule) : Except EncodeError ContentRuleList :=
  match h : contentRulesText rules with
  | .ok text => .ok ⟨rules, text, h⟩
  | .error e => .error e

/-- The rules of a destination: its own patterns on the host where it starts, and those of
the mode everywhere. -/
def contentRules (d : Destination) (mode : Option String) (host : Option String) :
    List ContentRule :=
  d.block.map (fun p => ⟨urlFilter p, host.map fun h => [h]⟩) ++
    (((d.mode? mode).map FilterMode.blockUrls).getD []).map fun p => ⟨urlFilter p, none⟩

end NavPolicy.Artifact
