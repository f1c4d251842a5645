import NavPolicy.Proofs.Artifact.Compiled
import NavPolicy.Proofs.Artifact.ContentRulesText

/-!
# Documents of artifacts

What the document of an artifact shows, told member by member and without the functions that write
it.  Nothing is lost in it: a matcher follows from its pattern and the text of content rules from
the rules, so an artifact that was compiled can be told from its document.
-/

namespace NavPolicy

open NavPolicy.Artifact NavPolicy.Json NavPolicy.Pattern

/-! ## Lists -/

section Lists

variable {α β : Type} {shows : α → Value → Prop} {as bs : List α} {v : Option Value}

/-- Whether what is found in a document is a list that shows things one by one. -/
def ShownIn (shows : α → Value → Prop) (as : List α) (v : Option Value) : Prop :=
  ∃ docs, v = some (.array docs) ∧ List.Forall₂ shows as docs

private theorem shownIn_map {doc : α → Value} (h : ∀ a, shows a (doc a)) (as : List α) :
    ShownIn shows as (some (.array (as.map doc))) := by
  refine ⟨_, rfl, ?_⟩
  rw [List.forall₂_map_right_iff, List.forall₂_same]
  exact fun a _ => h a

/-- What can be told of one thing can be told of a list. -/
private theorem ShownIn.map_eq {f : α → β}
    (h : ∀ a b doc, shows a doc → shows b doc → f a = f b)
    (has : ShownIn shows as v) (hbs : ShownIn shows bs v) : as.map f = bs.map f := by
  obtain ⟨docs, rfl, has⟩ := has
  obtain ⟨_, heq, hbs⟩ := hbs
  cases heq
  induction has generalizing bs with
  | nil =>
      cases hbs
      rfl
  | cons ha _ ih =>
      cases hbs with
      | cons hb hbs => rw [List.map_cons, List.map_cons, h _ _ _ ha hb, ih hbs]

private theorem ShownIn.unique (h : ∀ a b doc, shows a doc → shows b doc → a = b)
    (has : ShownIn shows as v) (hbs : ShownIn shows bs v) : as = bs := by
  have hmap := has.map_eq (f := id) h hbs
  rwa [List.map_id, List.map_id] at hmap

end Lists

private theorem ResourceType.ofName_name (t : ResourceType) : ofName t.name = .ok t := by
  cases t <;> rfl

theorem ResourceType.name_injective : Function.Injective name := by
  intro s t h
  rw [← Except.ok.injEq (ε := Mismatch), ← ofName_name s, h, ofName_name t]

/-! ## What documents show -/

/-- Whether a document shows a matcher: its pattern as it was written, how that was read and the
expression that came of it. -/
structure Pattern.Matcher.IsShownBy (m : Matcher) (doc : Value) : Prop where
  pattern : doc.member? "pattern" = some (.string m.pattern)
  kind : doc.member? "kind" = some (.string (match m.compiled with
    | none => "never"
    | some c => if c.written = .regex then "regex" else "glob"))
  expression : doc.member? "expression" = some (match m.compiled with
    | none => .null
    | some c => .string c.text)

/-- Whether a document shows a request filter. -/
structure Artifact.RequestFilter.IsShownBy (f : RequestFilter) (doc : Value) : Prop where
  urls : doc.member? "urls" = some (.ofStrings f.urls)
  types : doc.member? "types" = some (.ofStrings (f.types.map ResourceType.name))

/-- Whether a document shows the rules and the script for a platform, under the names that this
platform has for them.  Content rules are a text that holds a document of its own. -/
def NativeRules.IsShownBy (native : NativeRules) (script : String) (doc : Value) : Prop :=
  match native with
  | .contentRules list => doc.member? "platform" = some (.string "ios") ∧
      (∃ text rules, doc.member? "contentRules" = some (.string text) ∧
        Value.ofText text = .ok rules ∧
        ShownIn (fun r => IsBlockRule r.urlFilter r.ifDomain) list.rules (some rules)) ∧
      doc.member? "userScript" = some (.string script)
  | .blockUrls urls => doc.member? "platform" = some (.string "android") ∧
      doc.member? "blockUrls" = some (.ofStrings urls) ∧
      doc.member? "domScript" = some (.string script)
  | .requestFilters filters => doc.member? "platform" = some (.string "desktop") ∧
      ShownIn RequestFilter.IsShownBy filters (doc.member? "webRequestFilters") ∧
      doc.member? "contentScript" = some (.string script)

/-- Whether a document shows an artifact. -/
structure Artifact.IsShownBy (a : Artifact) (doc : Value) : Prop where
  native : a.native.IsShownBy a.script doc
  allow : ShownIn Matcher.IsShownBy a.matchers.allow
    ((doc.member? "matchers").bind (·.member? "allow"))
  block : ShownIn Matcher.IsShownBy a.matchers.block
    ((doc.member? "matchers").bind (·.member? "block"))
  startUrl : doc.member? "startUrl" = some (.string a.startUrl)

namespace Artifact

/-! ## Written documents -/

private theorem isShownBy_matcherDocument (m : Matcher) : m.IsShownBy (matcherDocument m) where
  pattern := by simp [matcherDocument, Value.member?, Ordered.get?_cons]
  kind := by
    obtain ⟨pattern, _ | ⟨written, text, expr⟩⟩ := m
    · simp [matcherDocument, Value.member?, Ordered.get?_cons, Matcher.kind, Kind.name]
    · cases written <;>
        simp [matcherDocument, Value.member?, Ordered.get?_cons, Matcher.kind, Kind.name]
  expression := by
    obtain ⟨pattern, _ | c⟩ := m <;>
      simp [matcherDocument, Value.member?, Ordered.get?_cons, Matcher.expression?, Value.ofOption]

private theorem isShownBy_filterDocument (f : RequestFilter) : f.IsShownBy f.toDocument where
  urls := by simp [RequestFilter.toDocument, Value.member?, Ordered.get?_cons]
  types := by simp [RequestFilter.toDocument, Value.member?, Ordered.get?_cons]

/-- An artifact is written as a document that shows it. -/
theorem isShownBy_toDocument (a : Artifact) : a.IsShownBy a.toDocument := by
  obtain ⟨native, script, matchers, start⟩ := a
  have hallow := shownIn_map isShownBy_matcherDocument matchers.allow
  have hblock := shownIn_map isShownBy_matcherDocument matchers.block
  cases native with
  | contentRules list =>
      have hrules := shownIn_map ContentRule.isBlockRule_toDocument list.rules
      exact ⟨⟨rfl, ⟨_, _, rfl, list.ofText_text, hrules⟩, rfl⟩, hallow, hblock, rfl⟩
  | blockUrls urls => exact ⟨⟨rfl, rfl, rfl⟩, hallow, hblock, rfl⟩
  | requestFilters filters =>
      have hfilters := shownIn_map isShownBy_filterDocument filters
      exact ⟨⟨rfl, hfilters, rfl⟩, hallow, hblock, rfl⟩

private theorem legible_matcherDocument (depth : Nat) (m : Matcher) :
    (matcherDocument m).Legible (depth + 1) := by
  refine .object (by simp [Ordered.names]) ?_
  simp only [List.forall_mem_cons]
  refine ⟨.string _ _, .string _ _, ?_, List.forall_mem_nil _⟩
  cases m.expression? with
  | none => exact .null _
  | some text => exact .string _ text

private theorem legible_filterDocument (depth : Nat) (f : RequestFilter) :
    f.toDocument.Legible (depth + 2) := by
  refine .object (by simp [Ordered.names]) ?_
  simp only [List.forall_mem_cons]
  exact ⟨legible_ofStrings depth _, legible_ofStrings depth _, List.forall_mem_nil _⟩

private theorem legible_array_map {α : Type} {depth : Nat} {doc : α → Value}
    (h : ∀ a, (doc a).Legible depth) (as : List α) :
    (Value.array (as.map doc)).Legible (depth + 1) := by
  refine .array fun v hv => ?_
  obtain ⟨a, -, rfl⟩ := List.mem_map.1 hv
  exact h a

/-- The document of an artifact is read back wherever it stands. -/
theorem legible_toDocument (depth : Nat) (a : Artifact) : a.toDocument.Legible (depth + 4) := by
  obtain ⟨native, script, matchers, start⟩ := a
  have hmatchers : (matchersDocument matchers).Legible (depth + 3) := by
    refine .object (by simp [Ordered.names]) ?_
    simp only [List.forall_mem_cons]
    exact ⟨legible_array_map (legible_matcherDocument depth) _,
      legible_array_map (legible_matcherDocument depth) _, List.forall_mem_nil _⟩
  refine .object ?_ ?_
  · cases native <;> simp [Ordered.names, members]
  · rw [List.forall_mem_cons, members, List.forall_mem_append]
    simp only [List.forall_mem_cons]
    refine ⟨.string _ _, ?_, hmatchers, .string _ _, List.forall_mem_nil _⟩
    cases native with
    | contentRules list => simp [Value.Legible.string]
    | blockUrls urls => simp [Value.Legible.string, legible_ofStrings (depth + 2) urls]
    | requestFilters filters =>
        simp [Value.Legible.string, legible_array_map (legible_filterDocument depth) filters]

/-! ## Telling artifacts from their documents -/

private theorem text_unique {o : Option Value} {s t : String} (hs : o = some (.string s))
    (ht : o = some (.string t)) : s = t :=
  Value.string.inj (Option.some.inj (hs.symm.trans ht))

private theorem texts_unique {o : Option Value} {ss ts : List String}
    (hs : o = some (.ofStrings ss)) (ht : o = some (.ofStrings ts)) : ss = ts :=
  ofStrings_inj.1 (Option.some.inj (hs.symm.trans ht))

private theorem isBlockRule_unique (r s : ContentRule) (doc : Value)
    (hr : IsBlockRule r.urlFilter r.ifDomain doc) (hs : IsBlockRule s.urlFilter s.ifDomain doc) :
    r = s := by
  obtain ⟨filter, hosts⟩ := r
  obtain ⟨filter', hosts'⟩ := s
  have hfilter : filter = filter' := text_unique hr.filter hs.filter
  have hhosts : hosts = hosts' :=
    Option.map_injective (fun _ _ => ofStrings_inj.1) (hr.hosts.symm.trans hs.hosts)
  rw [hfilter, hhosts]

private theorem filterDocument_unique (f g : RequestFilter) (doc : Value) (hf : f.IsShownBy doc)
    (hg : g.IsShownBy doc) : f = g := by
  obtain ⟨urls, types⟩ := f
  obtain ⟨urls', types'⟩ := g
  have hurls : urls = urls' := texts_unique hf.urls hg.urls
  have htypes : types = types' :=
    List.map_injective_iff.2 ResourceType.name_injective (texts_unique hf.types hg.types)
  rw [hurls, htypes]

private theorem ContentRuleList.eq_of_rules_eq {list list' : ContentRuleList}
    (h : list.rules = list'.rules) : list = list' := by
  obtain ⟨rules, text, htext⟩ := list
  obtain ⟨rules', text', htext'⟩ := list'
  subst h
  cases htext.symm.trans htext'
  rfl

private theorem nativeRules_unique {native native' : NativeRules} {script script' : String}
    {doc : Value} (h : native.IsShownBy script doc) (h' : native'.IsShownBy script' doc) :
    native = native' ∧ script = script' := by
  cases native with
  | contentRules list =>
      obtain ⟨hname, ⟨text, rules, htext, hread, hrules⟩, hscript⟩ := h
      cases native' with
      | contentRules list' =>
          obtain ⟨-, ⟨text', rules', htext', hread', hrules'⟩, hscript'⟩ := h'
          cases htext.symm.trans htext'
          cases hread.symm.trans hread'
          rw [ContentRuleList.eq_of_rules_eq (hrules.unique isBlockRule_unique hrules')]
          exact ⟨rfl, text_unique hscript hscript'⟩
      | blockUrls => simp [h'.1] at hname
      | requestFilters => simp [h'.1] at hname
  | blockUrls urls =>
      obtain ⟨hname, hurls, hscript⟩ := h
      cases native' with
      | contentRules => simp [h'.1] at hname
      | blockUrls urls' =>
          obtain ⟨-, hurls', hscript'⟩ := h'
          rw [texts_unique hurls hurls']
          exact ⟨rfl, text_unique hscript hscript'⟩
      | requestFilters => simp [h'.1] at hname
  | requestFilters filters =>
      obtain ⟨hname, hfilters, hscript⟩ := h
      cases native' with
      | contentRules => simp [h'.1] at hname
      | blockUrls => simp [h'.1] at hname
      | requestFilters filters' =>
          obtain ⟨-, hfilters', hscript'⟩ := h'
          rw [hfilters.unique filterDocument_unique hfilters']
          exact ⟨rfl, text_unique hscript hscript'⟩

/-- Whether an artifact is what some destination is compiled to. -/
def IsCompiled (a : Artifact) : Prop :=
  ∃ (d : Destination) (platform : Platform) (mode : Option String) (o : Options),
    d.compile platform mode o = .ok a

private theorem IsCompiled.matchers_eq {a : Artifact} (h : a.IsCompiled) :
    a.matchers = .compile (a.matchers.allow.map Matcher.pattern)
      (a.matchers.block.map Matcher.pattern) := by
  obtain ⟨d, platform, mode, o, h⟩ := h
  obtain ⟨start, -, rfl⟩ := Destination.compile_eq_ok.1 h
  have hpatterns : ∀ ps : List String, (ps.map Matcher.compile).map Matcher.pattern = ps := by
    intro ps
    rw [List.map_map]
    exact List.map_id' ps
  simp only [Destination.matchers, Matchers.compile, hpatterns]

/-- No two artifacts that were compiled are shown by one document. -/
theorem eq_of_isShownBy {a b : Artifact} {doc : Value} (ha : a.IsCompiled) (hb : b.IsCompiled)
    (hadoc : a.IsShownBy doc) (hbdoc : b.IsShownBy doc) : a = b := by
  have hpattern : ∀ (m m' : Matcher) (doc : Value), m.IsShownBy doc → m'.IsShownBy doc →
      m.pattern = m'.pattern := by
    intro m m' doc h h'
    exact text_unique h.pattern h'.pattern
  have hmatchers : a.matchers = b.matchers := by
    rw [ha.matchers_eq, hb.matchers_eq, hadoc.allow.map_eq hpattern hbdoc.allow,
      hadoc.block.map_eq hpattern hbdoc.block]
  obtain ⟨hnative, hscript⟩ := nativeRules_unique hadoc.native hbdoc.native
  have hstart : a.startUrl = b.startUrl := text_unique hadoc.startUrl hbdoc.startUrl
  obtain ⟨native, script, matchers, start⟩ := a
  obtain ⟨native', script', matchers', start'⟩ := b
  cases hnative
  cases hscript
  cases hmatchers
  cases hstart
  rfl

/-- Whether a document shows an artifact, and no other that was compiled. -/
structure IsToldBy (a : Artifact) (doc : Value) : Prop where
  shown : a.IsShownBy doc
  only : ∀ b : Artifact, b.IsCompiled → b.IsShownBy doc → b = a

/-- An artifact that was compiled can be told from its document. -/
theorem IsCompiled.isToldBy_toDocument {a : Artifact} (h : a.IsCompiled) :
    a.IsToldBy a.toDocument where
  shown := a.isShownBy_toDocument
  only _ hb hshown := eq_of_isShownBy hb h hshown a.isShownBy_toDocument

end Artifact

end NavPolicy
