import NavPolicy.Proofs.Artifact.Compiled

/-!
# One destination on every platform

A destination is compiled on every platform or on none.  What decides is the same everywhere,
and the rules in a platform's own form take the block patterns in effect one by one, in the
order of the block matchers.  Each list asks for the mode on its own, some by the name as it
was given and some by the name once it is known to be one of the destination's; a name that
the destination does not have makes no difference to any of them.
-/

namespace NavPolicy

open NavPolicy.Artifact NavPolicy.Pattern

namespace Destination

theorem compile_eq_error {d : Destination} {reason : Url.UrlError}
    (h : Url.parse d.start = .error reason) (platform : Platform) (mode : Option String)
    (o : Options) : d.compile platform mode o = .error (.invalidStart d.start reason) := by
  rw [compile_eq, startUrl, h]
  rfl

theorem platform_nativeRules (d : Destination) (platform : Platform) (mode : Option String)
    (start : Url) : (d.nativeRules platform mode start).platform = platform := by
  cases platform <;> rfl

end Destination

/-- Whether native rules are made from block patterns, one from each and in their order: a
content rule filters by the pattern, a block list holds it, and a request filter resolves it
against the address where the destination starts. -/
def NativeRules.Follows (start : Url) (block : List String) : NativeRules → Prop
  | .contentRules list => list.rules.map ContentRule.urlFilter = block.map urlFilter
  | .blockUrls urls => urls = block
  | .requestFilters filters =>
      filters.map RequestFilter.urls = block.map fun pattern => [resolveBlock pattern start]

def NativeRules.count : NativeRules → Nat
  | .contentRules list => list.rules.length
  | .blockUrls urls => urls.length
  | .requestFilters filters => filters.length

theorem NativeRules.Follows.count_eq {start : Url} {block : List String} {rules : NativeRules}
    (h : rules.Follows start block) : rules.count = block.length := by
  cases rules with
  | contentRules list => simpa [Follows, count] using congrArg List.length h
  | blockUrls urls => exact congrArg List.length h
  | requestFilters filters => simpa [Follows, count] using congrArg List.length h

/-- The patterns of the destination and of the mode become rules one after the other, as they
stand in the list of the block patterns in effect. -/
theorem Artifact.map_urlFilter_contentRules (d : Destination) (mode host : Option String) :
    (contentRules d mode host).map ContentRule.urlFilter =
      (d.effectiveBlock mode).map urlFilter := by
  simp only [contentRules, Destination.effectiveBlock, List.map_append, List.map_map]
  rfl

private theorem Destination.follows_nativeRules (d : Destination) (platform : Platform)
    (mode : Option String) (start : Url) :
    (d.nativeRules platform mode start).Follows start (d.effectiveBlock mode) := by
  cases platform with
  | ios => exact map_urlFilter_contentRules d mode _
  | android => rfl
  | desktop =>
      change List.map RequestFilter.urls (List.map _ _) = _
      rw [List.map_map]
      rfl

private theorem Pattern.Matcher.map_pattern_compile (patterns : List String) :
    (patterns.map Matcher.compile).map Matcher.pattern = patterns := by
  rw [List.map_map]
  exact List.map_id patterns

/-- Either the destination cannot be compiled on any platform, for the same reason, or it is
compiled on all of them: with the same matchers, those of its allow patterns and of the block
patterns of the mode that it has; with its start as written; with the same answer to every
question about an address; and with native rules that follow the block patterns in effect. -/
theorem compile_alike (d : Destination) (mode : Option String) (o : Options) :
    (∃ reason, Url.parse d.start = .error reason ∧
      ∀ p, d.compile p mode o = .error (.invalidStart d.start reason)) ∨
    ∃ (start : Url) (artifact : Platform → Artifact),
      Url.parse d.start = .ok start ∧
      (∀ p, d.compile p mode o = .ok (artifact p) ∧ (artifact p).platform = p) ∧
      (∀ p, (artifact p).matchers =
          .compile d.allow (d.effectiveBlock (d.activeMode mode)) ∧
        (artifact p).startUrl = d.start) ∧
      (∀ p q url, (artifact p).verdict url = (artifact q).verdict url ∧
        (artifact p).allowsResource url = (artifact q).allowsResource url ∧
        (artifact p).blocks url = (artifact q).blocks url ∧
        (artifact p).nearestRoute url = (artifact q).nearestRoute url) ∧
      ∀ p, (artifact p).matchers.block.map Matcher.pattern = d.effectiveBlock mode ∧
        (artifact p).native.Follows start (d.effectiveBlock mode) ∧
        (artifact p).native.count = (d.effectiveBlock mode).length := by
  cases hstart : Url.parse d.start with
  | error reason =>
      exact Or.inl ⟨reason, rfl, fun p => Destination.compile_eq_error hstart p mode o⟩
  | ok start =>
      let artifact (p : Platform) : Artifact := {
        native := d.nativeRules p mode start
        script := d.script p mode (o.of p)
        matchers := d.matchers mode
        startUrl := d.start }
      have hcompile : ∀ p, d.compile p mode o = .ok (artifact p) := fun p =>
        Destination.compile_eq_ok.2 ⟨start, hstart, rfl⟩
      have hfollows : ∀ p, (artifact p).native.Follows start (d.effectiveBlock mode) := fun p =>
        d.follows_nativeRules p mode start
      refine Or.inr ⟨start, artifact, rfl, fun p => ⟨hcompile p, ?_⟩, fun p => ⟨?_, rfl⟩, ?_, ?_⟩
      · exact d.platform_nativeRules p mode start
      · rfl
      · exact fun p q url => ⟨rfl, rfl, rfl, rfl⟩
      · intro p
        refine ⟨?_, hfollows p, (hfollows p).count_eq⟩
        calc
          (artifact p).matchers.block.map Matcher.pattern
              = (Matchers.compile d.allow (d.effectiveBlock mode)).block.map Matcher.pattern := by
            rw [← d.matchers_eq]
          _ = d.effectiveBlock mode := Matcher.map_pattern_compile (d.effectiveBlock mode)

end NavPolicy
