import NavPolicy.Artifact.Basic
import NavPolicy.Proofs.Artifact.ContentRules
import NavPolicy.Proofs.Policy.RoundTrip

/-!
# The text of content rules

The content rules of a destination are handed over as text, and each filter in it is a text again:
an expression for the block pattern, with its signs escaped.  Both are read back: the text as one
rule for each block pattern in effect, in their order, and each filter as an expression that is
found exactly where the pattern stands.
-/

namespace NavPolicy

open NavPolicy.Artifact NavPolicy.Json NavPolicy.Regex

namespace Artifact

/-- Whether a document is a rule that blocks what a filter is found in, on some hosts or on all. -/
structure IsBlockRule (filter : String) (hosts : Option (List String)) (doc : Value) : Prop where
  filter : (doc.member? "trigger").bind (·.member? "url-filter") = some (.string filter)
  hosts : (doc.member? "trigger").bind (·.member? "if-domain") = hosts.map Value.ofStrings
  action : (doc.member? "action").bind (·.member? "type") = some (.string "block")
  /-- The rule says nothing else. -/
  only : ∃ trigger action,
    doc = .object [("trigger", .object trigger), ("action", .object action)] ∧
    (∀ name ∈ Ordered.names trigger, name = "url-filter" ∨ name = "if-domain") ∧
    Ordered.names action = ["type"]

/-- Whether an expression is accepted, if it is not too large, and found exactly where a text
stands. -/
def IsLiteral (expression text : String) : Prop :=
  IsWithinSize expression.toList → ∃ e, parse expression.toList = some e ∧
    ∀ c : String, e.isFoundIn c.toList = true ↔ text.toList <:+: c.toList

variable {pattern : String}

/-! ## Filters -/

theorem isLiteral_urlFilter (pattern : String) : IsLiteral (urlFilter pattern) pattern := by
  intro hsize
  rw [toList_urlFilter] at hsize
  obtain ⟨e, hparse, hfound⟩ := filterSpelling.exists_parse_text hsize
  rw [← toList_urlFilter] at hparse
  exact ⟨e, hparse, fun c => hfound c.toList⟩

theorem isWithinSize_urlFilter
    (hlength : Piece.stateSize * (pattern.length + 1) ≤ Piece.costLimit) :
    IsWithinSize (urlFilter pattern).toList := by
  rw [toList_urlFilter]
  exact filterSpelling.isWithinSize_text hlength

theorem urlFilter_injective : Function.Injective urlFilter := by
  intro p q h
  have htext : filterSpelling.text p.toList = filterSpelling.text q.toList := by
    rw [← toList_urlFilter, ← toList_urlFilter, h]
  exact String.toList_inj.1 (filterSpelling.text_injective htext)

/-! ## Rules -/

/-- A rule is written as a rule that blocks. -/
theorem ContentRule.isBlockRule_toDocument (r : ContentRule) :
    IsBlockRule r.urlFilter r.ifDomain r.toDocument := by
  obtain ⟨filter, hosts⟩ := r
  cases hosts <;> exact {
    filter := by simp [toDocument, Value.member?, Ordered.get?_cons]
    hosts := by simp [toDocument, Value.member?, Ordered.get?_cons]
    action := by simp [toDocument, Value.member?, Ordered.get?_cons]
    only := ⟨_, _, rfl, by simp [Ordered.names], rfl⟩ }

private theorem ContentRule.legible_toDocument (depth : Nat) (r : ContentRule) :
    r.toDocument.Legible (depth + 3) := by
  obtain ⟨filter, hosts⟩ := r
  have haction : (Value.object [("type", .string "block")]).Legible (depth + 2) :=
    .object (by simp [Ordered.names]) (List.forall_mem_singleton.2 (.string _ _))
  refine .object (by simp [Ordered.names]) ?_
  rw [List.forall_mem_cons, List.forall_mem_singleton]
  refine ⟨.object ?_ ?_, haction⟩
  · cases hosts <;> simp [Ordered.names]
  · rw [List.forall_mem_append, List.forall_mem_singleton]
    refine ⟨.string _ _, ?_⟩
    cases hosts with
    | none => exact List.forall_mem_nil _
    | some hosts => exact List.forall_mem_singleton.2 (legible_ofStrings depth hosts)

/-- The text of content rules is read back as their documents. -/
theorem ContentRuleList.ofText_text (list : ContentRuleList) :
    Value.ofText list.text = .ok (.array (list.rules.map ContentRule.toDocument)) := by
  obtain ⟨rules, text, htext⟩ := list
  rw [contentRulesText_eq, Except.ok.injEq] at htext
  subst htext
  have hlegible : (Value.array (rules.map ContentRule.toDocument)).Legible 4 := by
    refine .array fun v hv => ?_
    obtain ⟨r, -, rfl⟩ := List.mem_map.1 hv
    exact r.legible_toDocument 0
  exact Value.ofText_compact hlegible (by decide)

/-- The documents of the rules that are made from some patterns. -/
theorem forall₂_isBlockRule (patterns : List String) (hosts : Option (List String)) :
    List.Forall₂ (fun p => IsBlockRule (urlFilter p) hosts) patterns
      ((patterns.map fun p => (⟨urlFilter p, hosts⟩ : ContentRule)).map
        ContentRule.toDocument) := by
  rw [List.map_map, List.forall₂_map_right_iff, List.forall₂_same]
  exact fun p _ => ContentRule.isBlockRule_toDocument ⟨urlFilter p, hosts⟩

end Artifact

/-- A destination that is compiled for a web view with content rules gets one rule for each block
pattern in effect, in their order: those of its own patterns hold on the host where it starts, if
there is one, and those of the mode everywhere.  Each filter is an expression that is found exactly
where the pattern stands, and no two patterns have the same one. -/
theorem Destination.contentRules_faithful {d : Destination} {mode : Option String} {o : Options}
    {a : Artifact} (h : d.compile .ios mode o = .ok a) :
    ∃ start text urls base extra, Url.parse d.start = .ok start ∧
      urls = ((d.mode? mode).map FilterMode.blockUrls).getD [] ∧
      d.effectiveBlock mode = d.block ++ urls ∧
      Ordered.get? a.members "contentRules" = some (.string text) ∧
      Value.ofText text = .ok (.array (base ++ extra)) ∧
      List.Forall₂ (fun p => IsBlockRule (urlFilter p) (start.host.map fun host => [host.text]))
        d.block base ∧
      List.Forall₂ (fun p => IsBlockRule (urlFilter p) none) urls extra ∧
      (∀ p ∈ d.effectiveBlock mode, IsLiteral (urlFilter p) p) ∧
      Function.Injective urlFilter := by
  obtain ⟨start, hstart, rfl⟩ := compile_eq_ok.1 h
  let list := ContentRuleList.of (contentRules d mode (start.host.map Url.Host.text))
  refine ⟨start, list.text, _, _, _, hstart, rfl, rfl, rfl, ?_, forall₂_isBlockRule _ _,
    forall₂_isBlockRule _ _, fun p _ => isLiteral_urlFilter p, urlFilter_injective⟩
  have hrules : list.rules = contentRules d mode (start.host.map Url.Host.text) := rfl
  rw [list.ofText_text, hrules, contentRules, Option.map_map, List.map_append]
  rfl

/-- A destination on a machine without a name, with patterns full of signs. -/
def symbolHome : Destination where
  start := "http://[::1]/"
  allow := []
  block := ["/a.b*(\"c\")"]
  filterModes := some [("quiet", { blockUrls := ["x\\y\n"] })]

/-- Patterns full of signs, one of them on a machine without a name. -/
theorem Destination.contentRules_faithful_symbols :
    ∃ a text base extra, symbolHome.compile .ios (some "quiet") {} = .ok a ∧
      Ordered.get? a.members "contentRules" = some (.string text) ∧
      Value.ofText text = .ok (.array [base, extra]) ∧
      IsBlockRule "/a\\.b\\*\\(\"c\"\\)" (some ["[::1]"]) base ∧
      IsBlockRule "x\\\\y\n" none extra ∧
      ∃ e, parse "/a\\.b\\*\\(\"c\"\\)".toList = some e ∧
        e.isFoundIn "http://[::1]/a.b*(\"c\")/".toList = true ∧
        e.isFoundIn "http://[::1]/axb(c)".toList = false := by
  have hparse : ∃ start, Url.parse symbolHome.start = .ok start ∧
      start.host.map (fun host => [host.text]) = some ["[::1]"] :=
    ⟨{ scheme := "http"
       hasAuthority := true
       host := some (.ipv6 [0, 0, 0, 0, 0, 0, 0, 1])
       path := "/" }, by decide, by decide⟩
  obtain ⟨start, hparse, hhost⟩ := hparse
  obtain ⟨a, ha, -⟩ := exists_compile hparse .ios (some "quiet") {}
  obtain ⟨start', text, urls, base, extra, hstart, hurls, -, htext, hread, hbase, hextra, hliteral,
    -⟩ := contentRules_faithful ha
  rw [hparse, Except.ok.injEq] at hstart
  subst hstart
  rw [hhost] at hbase
  have hblock : symbolHome.block = ["/a.b*(\"c\")"] := rfl
  have hmode : urls = ["x\\y\n"] := hurls
  rw [hblock] at hbase
  rw [hmode] at hextra
  obtain ⟨first, _, hfirst, hnil, rfl⟩ := List.forall₂_cons_left_iff.1 hbase
  obtain ⟨second, _, hsecond, hnil', rfl⟩ := List.forall₂_cons_left_iff.1 hextra
  rw [List.forall₂_nil_left_iff] at hnil hnil'
  subst hnil hnil'
  have hfilter : urlFilter "/a.b*(\"c\")" = "/a\\.b\\*\\(\"c\"\\)" := by
    decide
  have hfilter' : urlFilter "x\\y\n" = "x\\\\y\n" := by
    decide
  obtain ⟨e, he, hfound⟩ := hliteral "/a.b*(\"c\")" List.mem_cons_self
    (isWithinSize_urlFilter (by decide))
  rw [hfilter] at hfirst he
  rw [hfilter'] at hsecond
  refine ⟨a, text, first, second, ha, htext, hread, hfirst, hsecond, e, he, ?_, ?_⟩
  · exact (hfound _).2 (by decide)
  · rw [Bool.eq_false_iff, ne_eq, hfound]
    decide

end NavPolicy
