import NavPolicy.Artifact.Basic
import NavPolicy.Proofs.Script.Rendered
import NavPolicy.Proofs.Success

/-!
# Compiled destinations

Every list of rules and every script can be written.  So a destination is compiled on every
platform exactly if it starts at an address, and the artifact depends on its modes and options
only as written in `Destination.compile_eq_ok`.
-/

namespace NavPolicy

open NavPolicy.Artifact NavPolicy.Json

namespace Artifact.ContentRuleList

def of (rules : List ContentRule) : ContentRuleList where
  rules := rules
  text := (Value.array (rules.map ContentRule.toDocument)).compact
  isText := contentRulesText_eq rules

/-- Making a list of rules never fails. -/
theorem ofRules_eq (rules : List ContentRule) : ofRules rules = .ok (of rules) := by
  have htext := contentRulesText_eq rules
  unfold ofRules
  split
  · rename_i text h
    cases htext.symm.trans h
    rfl
  · rename_i e h
    cases htext.symm.trans h

end Artifact.ContentRuleList

namespace Destination

variable {d : Destination} {platform : Platform} {mode : Option String} {o : Options}

def nativeRules (d : Destination) (p : Platform) (mode : Option String) (start : Url) :
    NativeRules :=
  match p with
  | .ios => .contentRules (.of (contentRules d mode (start.host.map Url.Host.text)))
  | .android => .blockUrls (d.effectiveBlock mode)
  | .desktop => .requestFilters ((d.effectiveBlock mode).map fun pattern =>
      ⟨[resolveBlock pattern start], ResourceType.filtered⟩)

theorem compileRules_eq (d : Destination) (p : Platform) (mode : Option String) (start : Url) :
    d.compileRules p mode start = .ok (d.nativeRules p mode start) := by
  cases p with
  | ios =>
      rw [compileRules, ContentRuleList.ofRules_eq]
      rfl
  | android => rfl
  | desktop => rfl

def script (d : Destination) (p : Platform) (mode : Option String) (o : ScriptOptions) : String :=
  Script.Spec.text ⟨d.dom, d.mode? mode, o, o.interception p⟩

private theorem renderScript_eq (d : Destination) (p : Platform) (mode : Option String)
    (o : ScriptOptions) : d.renderScript p mode o = .ok (d.script p mode o) :=
  Script.Spec.render_eq _

def Starts (d : Destination) : Prop := ∃ u, Url.parse d.start = .ok u

private theorem startUrl_eq_ok {u : Url} : d.startUrl = .ok u ↔ Url.parse d.start = .ok u := by
  rw [startUrl]
  cases Url.parse d.start <;> simp

/-- Compiling fails only where the start is no address. -/
theorem compile_eq (d : Destination) (platform : Platform) (mode : Option String) (o : Options) :
    d.compile platform mode o = d.startUrl.map fun start => {
      native := d.nativeRules platform mode start
      script := d.script platform mode (o.of platform)
      matchers := d.matchers mode
      startUrl := d.start } := by
  rw [compile]
  cases d.startUrl with
  | error e => rfl
  | ok start =>
      simp only [compileRules_eq, renderScript_eq]
      rfl

/-- What a destination is compiled to. -/
theorem compile_eq_ok {a : Artifact} :
    d.compile platform mode o = .ok a ↔ ∃ start, Url.parse d.start = .ok start ∧ a = {
      native := d.nativeRules platform mode start
      script := d.script platform mode (o.of platform)
      matchers := d.matchers mode
      startUrl := d.start } := by
  rw [compile_eq, map_eq_ok]
  exact exists_congr fun start => and_congr startUrl_eq_ok eq_comm

/-- A destination that starts at an address is compiled, to rules for that address. -/
theorem exists_compile {start : Url} (hstart : Url.parse d.start = .ok start)
    (platform : Platform) (mode : Option String) (o : Options) :
    ∃ a, d.compile platform mode o = .ok a ∧ a.native = d.nativeRules platform mode start ∧
      a.matchers = d.matchers mode :=
  ⟨_, compile_eq_ok.2 ⟨start, hstart, rfl⟩, rfl, rfl⟩

/-- Whether a destination is compiled depends on its start alone. -/
theorem exists_compile_iff : (∃ a, d.compile platform mode o = .ok a) ↔ d.Starts := by
  constructor
  · rintro ⟨a, h⟩
    obtain ⟨start, hstart, -⟩ := compile_eq_ok.1 h
    exact ⟨start, hstart⟩
  · rintro ⟨start, hstart⟩
    exact ⟨_, compile_eq_ok.2 ⟨start, hstart, rfl⟩⟩

end Destination

end NavPolicy
