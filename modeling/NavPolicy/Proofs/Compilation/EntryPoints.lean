import Mathlib.Data.List.Basic
import NavPolicy.Proofs.Artifact.Compiled
import NavPolicy.Proofs.Cache.Transparency

/-!
# One destination, however it is compiled

A destination is compiled alone, among the others for one platform, among the others for every
platform, or by a snapshot that is asked for it.  Each of these settles on its own which mode
applies, and all of them arrive at the same artifact.  An artifact depends on a mode only through
what the destination has under its name, so a name that it does not have is as good as none.
-/

namespace NavPolicy

open NavPolicy.Artifact NavPolicy.Json

namespace Destination

variable {d : Destination} {mode : Option String} {o : Options}

/-- Two names for the same mode, or for none, give the same artifact. -/
theorem compile_congr {mode' : Option String} (h : d.mode? mode = d.mode? mode')
    (platform : Platform) (o : Options) :
    d.compile platform mode o = d.compile platform mode' o := by
  have hblock : d.effectiveBlock mode = d.effectiveBlock mode' := by
    rw [effectiveBlock, effectiveBlock, h]
  have hrules : ∀ host, contentRules d mode host = contentRules d mode' host := by
    intro host
    rw [contentRules, contentRules, h]
  have hnative : ∀ start,
      d.nativeRules platform mode start = d.nativeRules platform mode' start := by
    intro start
    simp only [nativeRules, hblock, hrules]
  simp only [compile_eq, hnative, script, h, matchers_eq, hblock]

/-- A mode that a destination does not have is as good as none. -/
theorem compile_undeclared {name : String} (h : d.filterMode? name = none) (platform : Platform)
    (o : Options) : d.compile platform (some name) o = d.compile platform none o := by
  apply compile_congr
  exact h

/-- Compiling for every platform is compiling for each of them. -/
theorem compile_eq_artifact {c : CompiledDestination} (h : d.compileAll mode o = .ok c)
    (platform : Platform) : d.compile platform mode o = .ok (c.artifact platform) := by
  obtain ⟨ios, hios, h⟩ := bind_eq_ok.1 h
  obtain ⟨android, handroid, h⟩ := bind_eq_ok.1 h
  obtain ⟨desktop, hdesktop, h⟩ := bind_eq_ok.1 h
  cases h
  cases platform with
  | ios => exact hios
  | android => exact handroid
  | desktop => exact hdesktop

end Destination

namespace Policy

variable {p : Policy} {o : Options} {id : String} {d : Destination}

/-- What stands under a name among the results comes from the destination of that name. -/
theorem get?_compileEach {ε α : Type} {each : String → Destination → Except ε α}
    {ds : Ordered Destination} {found : Ordered α} (h : compileEach each ds = .ok found)
    (hd : Ordered.get? ds id = some d) :
    ∃ a, Ordered.get? found id = some a ∧ each id d = .ok a := by
  induction ds generalizing found with
  | nil => cases hd
  | cons e ds ih =>
      obtain ⟨name, first⟩ := e
      rw [compileEach] at h
      cases hfirst : each name first with
      | error err =>
          rw [hfirst] at h
          cases h
      | ok a =>
          rw [hfirst] at h
          obtain ⟨rest, hrest, rfl⟩ := map_eq_ok.1 h
          rw [Ordered.get?_cons] at hd ⊢
          by_cases hname : name = id
          · rw [if_pos hname] at hd ⊢
            cases hd
            exact ⟨a, rfl, hname ▸ hfirst⟩
          · rw [if_neg hname] at hd ⊢
            exact ih hrest hd

/-- The level that the policy names can be taken as it is: where the destination has no such
mode, its name changes nothing. -/
theorem compile_defaultMode? (hd : p.destination? id = some d) (platform : Platform) (o : Options) :
    d.compile platform (p.defaultMode? id) o =
      d.compile platform (p.filterModeDefault.map FilterLevel.name) o := by
  apply Destination.compile_congr
  cases hlevel : p.filterModeDefault with
  | none => simp [defaultMode?, hlevel]
  | some level =>
      cases hmode : d.filterMode? level.name with
      | none => simp [defaultMode?, hlevel, hd, hmode, Destination.mode?]
      | some m => simp [defaultMode?, hlevel, hd, hmode]

/-- A single destination is compiled with the mode that applies to it by default. -/
theorem compile_some (hd : p.destination? id = some d) (platform : Platform) (o : Options) :
    p.compile platform (some id) o =
      (d.compile platform (p.defaultMode? id) o).map .single := by
  simp only [compile, compileOne, destination, hd]
  rfl

theorem get?_of_compile (hd : p.destination? id = some d) {platform : Platform} {c : Compilation}
    (h : p.compile platform none o = .ok c) :
    ∃ artifacts a, c = .all artifacts ∧ Ordered.get? artifacts id = some a ∧
      d.compile platform (p.defaultMode? id) o = .ok a := by
  obtain ⟨artifacts, hall, rfl⟩ := map_eq_ok.1 h
  obtain ⟨a, ha, hcompile⟩ := get?_compileEach hall hd
  exact ⟨artifacts, a, rfl, ha, hcompile⟩

theorem get?_of_compileAll (hd : p.destination? id = some d) {c : CompiledPolicy}
    (h : p.compileAll o = .ok c) (platform : Platform) :
    ∃ found, Ordered.get? c.destinations id = some found ∧
      d.compile platform (p.defaultMode? id) o = .ok (found.artifact platform) := by
  obtain ⟨all, hall, rfl⟩ := map_eq_ok.1 h
  obtain ⟨found, hfound, hcompile⟩ := get?_compileEach hall hd
  exact ⟨found, hfound, Destination.compile_eq_artifact hcompile platform⟩

/-- Where no mode is asked for, the default one applies. -/
theorem compiled_none (hd : p.destination? id = some d) (platform : Platform) (o : Options) :
    p.compiled o id platform none = d.compile platform (p.defaultMode? id) o := by
  simp only [compiled, hd, requestedMode]

/-- A mode that is asked for is compiled, and one that is not there adds nothing. -/
theorem compiled_some (hd : p.destination? id = some d) (platform : Platform) (o : Options)
    (name : String) : p.compiled o id platform (some name) = d.compile platform (some name) o := by
  simp only [compiled, hd, requestedMode]
  cases hmode : d.filterMode? name with
  | none => exact (Destination.compile_undeclared hmode platform o).symm
  | some m => rfl

/-- What the snapshot in effect after a run answers, after any further run, to a request for an
artifact. -/
def answerLater (fallback : Policy) (o : Options) (before after : List Cache.Action) (id : String)
    (platform : Platform) (mode : Option String) : Except CompileError Artifact :=
  let taken := (Cache.new fallback o).run before
  ((taken.run after).ask taken.currentNumber (·.request id platform mode)).map
    fun r => r.1.artifact

/-- Whether an answer is the one that a policy gives for a destination with its default mode,
however it is asked. -/
structure Yields (p : Policy) (o : Options) (platform : Platform) (id : String)
    (answer : Except CompileError Artifact) : Prop where
  /-- The destination is compiled alone. -/
  alone : p.compile platform (some id) o = answer.map .single
  /-- It is compiled with the others for one platform. -/
  onPlatform : ∀ c, p.compile platform none o = .ok c →
    ∃ artifacts a, c = .all artifacts ∧ Ordered.get? artifacts id = some a ∧ answer = .ok a
  /-- It is compiled with the others for every platform. -/
  onAll : ∀ c, p.compileAll o = .ok c →
    ∃ found, Ordered.get? c.destinations id = some found ∧ answer = .ok (found.artifact platform)
  /-- A snapshot of the policy is asked for it, whatever happened before and since. -/
  snapshot : ∀ fallback before after, Cache.served fallback before = p →
    answerLater fallback o before after id platform none = answer

theorem yields_compile (hd : p.destination? id = some d) (platform : Platform) (o : Options) :
    p.Yields o platform id (d.compile platform (p.defaultMode? id) o) where
  alone := compile_some hd platform o
  onPlatform _ h := get?_of_compile hd h
  onAll _ h := get?_of_compileAll hd h platform
  snapshot fallback before after hserved := by
    calc
      answerLater fallback o before after id platform none
          = (Cache.served fallback before).compiled o id platform none :=
        Cache.taken_request_eq fallback o before after id platform none
      _ = d.compile platform (p.defaultMode? id) o := by
        rw [hserved, compiled_none hd]

/-- Every way to compile a destination gives the artifact of its default mode, which is that of
the level that the policy names; a snapshot that is asked for a mode gives the artifact of that
mode; and under a name that the destination does not have this is the artifact without a mode. -/
theorem entry_points_agree (hd : p.destination? id = some d) (platform : Platform) (o : Options) :
    p.Yields o platform id (d.compile platform (p.defaultMode? id) o) ∧
    d.compile platform (p.defaultMode? id) o =
      d.compile platform (p.filterModeDefault.map FilterLevel.name) o ∧
    (∀ name fallback before after, Cache.served fallback before = p →
      answerLater fallback o before after id platform (some name) =
        d.compile platform (some name) o) ∧
    ∀ name, d.filterMode? name = none →
      d.compile platform (some name) o = d.compile platform none o := by
  refine ⟨yields_compile hd platform o, compile_defaultMode? hd platform o, ?_, ?_⟩
  · intro name fallback before after hserved
    calc
      answerLater fallback o before after id platform (some name)
          = (Cache.served fallback before).compiled o id platform (some name) :=
        Cache.taken_request_eq fallback o before after id platform (some name)
      _ = d.compile platform (some name) o := by
        rw [hserved, compiled_some hd]
  · intro name hname
    exact Destination.compile_undeclared hname platform o

def tiered : Destination where
  start := "https://video.example.com/feed"
  allow := ["/watch*"]
  block := ["/shorts/*"]
  filterModes := some [("safe", { blockUrls := ["ads.example.net"] })]

/-- A policy whose default mode only one of two destinations has. -/
def tieredPolicy : Policy where
  version := "1"
  filterModeDefault := some .safe
  destinations := [("news", { tiered with filterModes := none }), ("video", tiered)]

private theorem starts_tiered : tiered.Starts :=
  ⟨{ scheme := "https"
     hasAuthority := true
     host := some (.name "video.example.com")
     path := "/feed" }, by decide +kernel⟩

/-- There is an artifact for the default mode, and it blocks more than the one without a mode. -/
theorem tieredPolicy_entry_points :
    tieredPolicy.destination? "video" = some tiered ∧
      ∃ strict plain, tieredPolicy.compile .ios (some "video") {} = .ok (.single strict) ∧
        answerLater tieredPolicy {} [] [.reset] "video" .ios none = .ok strict ∧
        answerLater tieredPolicy {} [] [.reset] "video" .ios (some "strict") = .ok plain ∧
        tiered.compile .ios none {} = .ok plain ∧
        strict.matchers.block.map (·.pattern) = ["/shorts/*", "ads.example.net"] ∧
        plain.matchers.block.map (·.pattern) = ["/shorts/*"] := by
  have hd : tieredPolicy.destination? "video" = some tiered := rfl
  obtain ⟨hyields, -, hasked, hundeclared⟩ := entry_points_agree hd .ios {}
  obtain ⟨start, hstart⟩ := starts_tiered
  obtain ⟨strict, hstrict, -, hblock⟩ := Destination.exists_compile hstart .ios (some "safe") {}
  obtain ⟨plain, hplain, -, hblock'⟩ := Destination.exists_compile hstart .ios none {}
  have hdefault : tiered.compile .ios (tieredPolicy.defaultMode? "video") {} = .ok strict := hstrict
  rw [hdefault] at hyields
  refine ⟨hd, strict, plain, hyields.alone, hyields.snapshot tieredPolicy [] [.reset] rfl, ?_,
    hplain, ?_, ?_⟩
  · rw [hasked "strict" tieredPolicy [] [.reset] rfl, hundeclared "strict" rfl, hplain]
  · rw [hblock]
    rfl
  · rw [hblock']
    rfl

end Policy

end NavPolicy
