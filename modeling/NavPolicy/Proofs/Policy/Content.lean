import NavPolicy.Policy.Reader
import NavPolicy.Proofs.Json.Records

/-!
# What a policy document holds

The policy that a document holds is described member by member, without the check and without
the reader.
-/

namespace NavPolicy

open NavPolicy.Json

/-! ## What documents hold -/

/-- The members of an object hold the rules for pages; a list that is not given is empty. -/
structure DomRules.HeldIn (r : DomRules) (ms : Members) : Prop where
  hide : (given (Ordered.get? ms "hide")).getD (.ofStrings []) = .ofStrings r.hide
  disableAnchorsTo :
    (given (Ordered.get? ms "disableAnchorsTo")).getD (.ofStrings []) =
      .ofStrings r.disableAnchorsTo
  script : given (Ordered.get? ms "script") = r.script.map .string

/-- The members of an object hold a filter mode. -/
structure FilterMode.HeldIn (m : FilterMode) (ms : Members) : Prop where
  blockUrls : (given (Ordered.get? ms "blockUrls")).getD (.ofStrings []) = .ofStrings m.blockUrls
  hideSelectors :
    (given (Ordered.get? ms "hideSelectors")).getD (.ofStrings []) = .ofStrings m.hideSelectors
  scriptlets : (given (Ordered.get? ms "scriptlets")).getD (.ofStrings []) = .ofStrings m.scriptlets

/-- The members of an object hold a destination.  What is not given is not set. -/
structure Destination.HeldIn (d : Destination) (ms : Members) : Prop where
  start : Ordered.get? ms "start" = some (.string d.start)
  absolute : Uri.isAbsolute d.start.toList = true
  allow : Ordered.get? ms "allow" = some (.ofStrings d.allow)
  block : Ordered.get? ms "block" = some (.ofStrings d.block)
  dom : Option.Rel (HoldsRecord DomRules.HeldIn) (given (Ordered.get? ms "dom")) d.dom
  filterModes : Option.Rel (HoldsEntries (HoldsRecord FilterMode.HeldIn))
    (given (Ordered.get? ms "filterModes")) d.filterModes
  quickActions : Option.Rel (HoldsEntries fun v s => v = .string s)
    (given (Ordered.get? ms "quickActions")) d.quickActions

/-- The members of an object hold a policy. -/
structure Policy.HeldIn (p : Policy) (ms : Members) : Prop where
  version : Ordered.get? ms "version" = some (.string p.version)
  filterModeDefault :
    given (Ordered.get? ms "filterModeDefault") = p.filterModeDefault.map fun l => .string l.name
  destinations : ∃ v, Ordered.get? ms "destinations" = some v ∧
    HoldsEntries (HoldsRecord Destination.HeldIn) v p.destinations

/-! ## The members of the records -/

/-- A list of strings can be told from its document. -/
theorem ofStrings_inj {ss ts : List String} : Value.ofStrings ss = .ofStrings ts ↔ ss = ts := by
  rw [Value.ofStrings, Value.ofStrings, Value.array.injEq]
  exact List.map_inj_right fun _ _ => Value.string.inj

private theorem given_getD_iff {o : Option Value} {ss : List String} :
    (given o).getD (.ofStrings []) = .ofStrings ss ↔
      ∃ x : Option (List String), given o = x.map Value.ofStrings ∧ x.getD [] = ss := by
  cases given o with
  | none =>
      rw [Option.getD_none, ofStrings_inj]
      constructor
      · intro h
        exact ⟨none, rfl, h⟩
      · rintro ⟨x, hx, rfl⟩
        rw [Option.map_eq_none_iff.1 hx.symm, Option.getD_none]
  | some v =>
      rw [Option.getD_some]
      constructor
      · intro h
        exact ⟨some ss, congrArg some h, rfl⟩
      · rintro ⟨x, hx, rfl⟩
        obtain ⟨ss, rfl, rfl⟩ := Option.map_eq_some_iff.1 hx.symm
        rfl

/-- A list that may be `null` is read as the empty list where it is not given. -/
theorem reads_optionalStrings :
    Policy.optionalStringsSchema.ReadsMember false decodeStrings [] fun o ss =>
      (given o).getD (.ofStrings []) = .ofStrings ss where
  admits_iff {o} ho := by
    rw [Policy.optionalStringsSchema, Policy.stringSchema,
      (Schema.reads_strings true).optional.admits_iff ho]
    simp [rel_eq_iff, given_getD_iff]
  readsAs {o ss} ho h := by
    obtain ⟨x, hx, rfl⟩ := given_getD_iff.1 h
    have hread := (Schema.reads_strings true).optional.readsAs ho (rel_eq_iff.2 hx)
    cases o with
    | none => exact congrArg (·.getD []) hread
    | some v => exact congrArg (·.map (·.getD [])) hread

private theorem DomRules.components :
    form.Component "hide" hide decodeStrings ∧
      form.Component "disableAnchorsTo" disableAnchorsTo decodeStrings ∧
      form.Component "script" script (decodeOption decodeString) := by
  refine ⟨⟨rfl, ?_, ?_⟩, ⟨rfl, ?_, ?_⟩, ⟨rfl, ?_, ?_⟩⟩ <;> simp [form, map_eq_ok]

private theorem DomRules.admits_iff {ms : Members} (hms : (Value.object ms).Distinct) :
    Policy.domSchema.Admits (.object ms) ↔ ∃ r : DomRules, r.HeldIn ms := by
  have hhide := reads_optionalStrings.admits_iff (hms.of_get? "hide")
  have hanchors := reads_optionalStrings.admits_iff (hms.of_get? "disableAnchorsTo")
  have hscript := Schema.reads_optionalString.optional.admits_iff (hms.of_get? "script")
  simp only [Bool.false_eq_true, false_implies, true_and, rel_eq_iff] at hhide hanchors hscript
  rw [Policy.domSchema, Schema.admits_object_iff]
  simp only [List.forall_mem_cons, hhide, hanchors, hscript]
  constructor
  · rintro ⟨-, ⟨⟨hide, hhide⟩, ⟨anchors, hanchors⟩, ⟨script, hscript⟩, -⟩, -⟩
    exact ⟨⟨hide, anchors, script⟩, hhide, hanchors, hscript⟩
  · rintro ⟨r, h⟩
    exact ⟨by simp, ⟨⟨_, h.hide⟩, ⟨_, h.disableAnchorsTo⟩, ⟨_, h.script⟩, by simp⟩, by simp⟩

private theorem DomRules.decode_eq {ms : Members} {r : DomRules} (hms : (Value.object ms).Distinct)
    (h : r.HeldIn ms) : form.decode (.object ms) = .ok r := by
  have hhide := reads_optionalStrings.readsAs (hms.of_get? "hide") h.hide
  have hanchors := reads_optionalStrings.readsAs (hms.of_get? "disableAnchorsTo") h.disableAnchorsTo
  have hscript := Schema.reads_optionalString.optional.readsAs (hms.of_get? "script")
    (rel_eq_iff.2 h.script)
  cases hms with
  | object hnames _ =>
      refine form.decode_eq hnames ?_ (by simp [form]) fun r' hr' => ?_
      · simp only [form, List.forall_mem_cons]
        exact ⟨hhide.exists_read _, hanchors.exists_read _, hscript.exists_read _, by simp⟩
      · obtain ⟨chide, canchors, cscript⟩ := components
        calc
          r' = ⟨r'.hide, r'.disableAnchorsTo, r'.script⟩ := rfl
          _ = ⟨r.hide, r.disableAnchorsTo, r.script⟩ := by
            rw [(chide.readsAs hnames hr').unique hhide,
              (canchors.readsAs hnames hr').unique hanchors,
              (cscript.readsAs hnames hr').unique hscript]

/-- The rules for pages are read as the document holds them. -/
theorem DomRules.reads : Policy.domSchema.Reads true form.decode (HoldsRecord HeldIn) :=
  Schema.reads_record true admits_iff decode_eq

private theorem FilterMode.components :
    form.Component "blockUrls" blockUrls decodeStrings ∧
      form.Component "hideSelectors" hideSelectors decodeStrings ∧
      form.Component "scriptlets" scriptlets decodeStrings := by
  refine ⟨⟨rfl, ?_, ?_⟩, ⟨rfl, ?_, ?_⟩, ⟨rfl, ?_, ?_⟩⟩ <;> simp [form, map_eq_ok]

private theorem FilterMode.admits_iff {ms : Members} (hms : (Value.object ms).Distinct) :
    Policy.filterModeSchema.Admits (.object ms) ↔ ∃ m : FilterMode, m.HeldIn ms := by
  have hblock := reads_optionalStrings.admits_iff (hms.of_get? "blockUrls")
  have hhide := reads_optionalStrings.admits_iff (hms.of_get? "hideSelectors")
  have hscripts := reads_optionalStrings.admits_iff (hms.of_get? "scriptlets")
  simp only [Bool.false_eq_true, false_implies, true_and] at hblock hhide hscripts
  rw [Policy.filterModeSchema, Schema.admits_object_iff]
  simp only [List.forall_mem_cons, hblock, hhide, hscripts]
  constructor
  · rintro ⟨-, ⟨⟨block, hblock⟩, ⟨hide, hhide⟩, ⟨scripts, hscripts⟩, -⟩, -⟩
    exact ⟨⟨block, hide, scripts⟩, hblock, hhide, hscripts⟩
  · rintro ⟨m, h⟩
    exact ⟨by simp, ⟨⟨_, h.blockUrls⟩, ⟨_, h.hideSelectors⟩, ⟨_, h.scriptlets⟩, by simp⟩, by simp⟩

theorem FilterMode.decode_eq {ms : Members} {m : FilterMode} (hms : (Value.object ms).Distinct)
    (h : m.HeldIn ms) : form.decode (.object ms) = .ok m := by
  have hblock := reads_optionalStrings.readsAs (hms.of_get? "blockUrls") h.blockUrls
  have hhide := reads_optionalStrings.readsAs (hms.of_get? "hideSelectors") h.hideSelectors
  have hscripts := reads_optionalStrings.readsAs (hms.of_get? "scriptlets") h.scriptlets
  cases hms with
  | object hnames _ =>
      refine form.decode_eq hnames ?_ (by simp [form]) fun r hr => ?_
      · simp only [form, List.forall_mem_cons]
        exact ⟨hblock.exists_read _, hhide.exists_read _, hscripts.exists_read _, by simp⟩
      · obtain ⟨cblock, chide, cscripts⟩ := components
        calc
          r = ⟨r.blockUrls, r.hideSelectors, r.scriptlets⟩ := rfl
          _ = ⟨m.blockUrls, m.hideSelectors, m.scriptlets⟩ := by
            rw [(cblock.readsAs hnames hr).unique hblock, (chide.readsAs hnames hr).unique hhide,
              (cscripts.readsAs hnames hr).unique hscripts]

/-- A filter mode is read as the document holds it. -/
theorem FilterMode.reads : Policy.filterModeSchema.Reads false form.decode (HoldsRecord HeldIn) :=
  Schema.reads_record false admits_iff decode_eq

private theorem Destination.components :
    form.Component "start" start decodeString ∧
      form.Component "allow" allow (decodeList decodeString) ∧
      form.Component "block" block (decodeList decodeString) ∧
      form.Component "dom" dom (decodeOption DomRules.form.decode) ∧
      form.Component "filterModes" filterModes (decodeOption (decodeMap FilterMode.form.decode)) ∧
      form.Component "quickActions" quickActions (decodeOption (decodeMap decodeString)) := by
  refine ⟨⟨rfl, ?_, ?_⟩, ⟨rfl, ?_, ?_⟩, ⟨rfl, ?_, ?_⟩, ⟨rfl, ?_, ?_⟩, ⟨rfl, ?_, ?_⟩,
    ⟨rfl, ?_, ?_⟩⟩ <;> simp [form, map_eq_ok]

private theorem Destination.admits_iff {ms : Members} (hms : (Value.object ms).Distinct) :
    Policy.destinationSchema.Admits (.object ms) ↔ ∃ d : Destination, d.HeldIn ms := by
  have hstart := (Schema.reads_uri.required "").admits_iff (hms.of_get? "start")
  have hallow := ((Schema.reads_strings false).required []).admits_iff (hms.of_get? "allow")
  have hblock := ((Schema.reads_strings false).required []).admits_iff (hms.of_get? "block")
  have hdom := DomRules.reads.optional.admits_iff (hms.of_get? "dom")
  have hmodes := (Schema.reads_entries true FilterMode.reads).optional.admits_iff
    (hms.of_get? "filterModes")
  have hactions := (Schema.reads_entries true Schema.reads_string).optional.admits_iff
    (hms.of_get? "quickActions")
  simp only [Bool.false_eq_true, false_implies, true_and] at hdom hmodes hactions
  rw [Policy.destinationSchema, Policy.stringSchema, Schema.admits_object_iff]
  simp only [List.forall_mem_cons, hdom, hmodes, hactions]
  constructor
  · rintro ⟨⟨rstart, rallow, rblock, -⟩, ⟨kstart, kallow, kblock, ⟨dom, hdom⟩, ⟨modes, hmodes⟩,
      ⟨actions, hactions⟩, -⟩, -⟩
    obtain ⟨start, _, start_eq, rfl, habsolute⟩ := hstart.1 ⟨fun _ => rstart, kstart⟩
    obtain ⟨allow, _, allow_eq, rfl⟩ := hallow.1 ⟨fun _ => rallow, kallow⟩
    obtain ⟨block, _, block_eq, rfl⟩ := hblock.1 ⟨fun _ => rblock, kblock⟩
    exact ⟨⟨start, allow, block, dom, modes, actions⟩, start_eq, habsolute, allow_eq, block_eq,
      hdom, hmodes, hactions⟩
  · rintro ⟨d, h⟩
    obtain ⟨rstart, kstart⟩ := hstart.2 ⟨d.start, _, h.start, rfl, h.absolute⟩
    obtain ⟨rallow, kallow⟩ := hallow.2 ⟨d.allow, _, h.allow, rfl⟩
    obtain ⟨rblock, kblock⟩ := hblock.2 ⟨d.block, _, h.block, rfl⟩
    exact ⟨⟨rstart rfl, rallow rfl, rblock rfl, by simp⟩, ⟨kstart, kallow, kblock, ⟨_, h.dom⟩,
      ⟨_, h.filterModes⟩, ⟨_, h.quickActions⟩, by simp⟩, by simp⟩

theorem Destination.decode_eq {ms : Members} {d : Destination} (hms : (Value.object ms).Distinct)
    (h : d.HeldIn ms) : form.decode (.object ms) = .ok d := by
  have hstart := (Schema.reads_uri.required "").readsAs (hms.of_get? "start")
    ⟨_, h.start, rfl, h.absolute⟩
  have hallow := ((Schema.reads_strings false).required []).readsAs (hms.of_get? "allow")
    ⟨_, h.allow, rfl⟩
  have hblock := ((Schema.reads_strings false).required []).readsAs (hms.of_get? "block")
    ⟨_, h.block, rfl⟩
  have hdom := DomRules.reads.optional.readsAs (hms.of_get? "dom") h.dom
  have hmodes := (Schema.reads_entries true FilterMode.reads).optional.readsAs
    (hms.of_get? "filterModes") h.filterModes
  have hactions := (Schema.reads_entries true Schema.reads_string).optional.readsAs
    (hms.of_get? "quickActions") h.quickActions
  cases hms with
  | object hnames _ =>
      refine form.decode_eq hnames ?_ (by simp [form, h.start, h.allow, h.block]) fun e he => ?_
      · simp only [form, List.forall_mem_cons]
        exact ⟨hstart.exists_read _, hallow.exists_read _, hblock.exists_read _,
          hdom.exists_read _, hmodes.exists_read _, hactions.exists_read _, by simp⟩
      · obtain ⟨cstart, callow, cblock, cdom, cmodes, cactions⟩ := components
        calc
          e = ⟨e.start, e.allow, e.block, e.dom, e.filterModes, e.quickActions⟩ := rfl
          _ = ⟨d.start, d.allow, d.block, d.dom, d.filterModes, d.quickActions⟩ := by
            rw [(cstart.readsAs hnames he).unique hstart, (callow.readsAs hnames he).unique hallow,
              (cblock.readsAs hnames he).unique hblock, (cdom.readsAs hnames he).unique hdom,
              (cmodes.readsAs hnames he).unique hmodes,
              (cactions.readsAs hnames he).unique hactions]

/-- A destination is read as the document holds it. -/
theorem Destination.reads : Policy.destinationSchema.Reads false form.decode (HoldsRecord HeldIn) :=
  Schema.reads_record false admits_iff decode_eq

theorem FilterLevel.reads :
    (Schema.plain (.choice Policy.levelNames)).Reads true (decodeChoice choices) fun v l =>
      v = .string l.name where
  admits_iff _ := by
    rw [Schema.admits_choice_iff]
    refine or_congr (by simp) ⟨?_, ?_⟩
    · rintro ⟨s, hs, rfl⟩
      simp only [Policy.levelNames, List.mem_cons, List.not_mem_nil, or_false] at hs
      rcases hs with rfl | rfl
      · exact ⟨safe, rfl⟩
      · exact ⟨aggressive, rfl⟩
    · rintro ⟨l, rfl⟩
      cases l with
      | safe => exact ⟨_, List.mem_cons_self, rfl⟩
      | aggressive => exact ⟨_, List.mem_cons_of_mem _ List.mem_cons_self, rfl⟩
  decode_eq {v l} _ h := by
    rw [h]
    cases l <;> rfl
  ne_null h := by simp [h]

private theorem Policy.components :
    form.Component "version" version decodeString ∧
      form.Component "filterModeDefault" filterModeDefault
        (decodeOption (decodeChoice FilterLevel.choices)) ∧
      form.Component "destinations" destinations (decodeMap Destination.form.decode) := by
  refine ⟨⟨rfl, ?_, ?_⟩, ⟨rfl, ?_, ?_⟩, ⟨rfl, ?_, ?_⟩⟩ <;> simp [form, map_eq_ok]

private theorem Policy.admits_iff {ms : Members} (hms : (Value.object ms).Distinct) :
    policySchema.Admits (.object ms) ↔ ∃ p : Policy, p.HeldIn ms := by
  have hversion := (Schema.reads_string.required "").admits_iff (hms.of_get? "version")
  have hdefault := FilterLevel.reads.optional.admits_iff (hms.of_get? "filterModeDefault")
  have hdestinations := ((Schema.reads_entries false Destination.reads).required []).admits_iff
    (hms.of_get? "destinations")
  simp only [Bool.false_eq_true, false_implies, true_and, rel_eq_iff] at hdefault
  rw [policySchema, Schema.admits_object_iff]
  simp only [List.forall_mem_cons, hdefault]
  constructor
  · rintro ⟨⟨rversion, rdestinations, -⟩, ⟨kversion, ⟨level, hlevel⟩, kdestinations, -⟩, -⟩
    obtain ⟨version, _, version_eq, rfl⟩ := hversion.1 ⟨fun _ => rversion, kversion⟩
    obtain ⟨destinations, hentries⟩ := hdestinations.1 ⟨fun _ => rdestinations, kdestinations⟩
    exact ⟨⟨version, level, destinations⟩, version_eq, hlevel, hentries⟩
  · rintro ⟨p, h⟩
    obtain ⟨rversion, kversion⟩ := hversion.2 ⟨p.version, _, h.version, rfl⟩
    obtain ⟨rdestinations, kdestinations⟩ := hdestinations.2 ⟨p.destinations, h.destinations⟩
    exact ⟨⟨rversion rfl, rdestinations rfl, by simp⟩, ⟨kversion, ⟨_, h.filterModeDefault⟩,
      kdestinations, by simp⟩, by simp⟩

private theorem Policy.decode_eq {ms : Members} {p : Policy} (hms : (Value.object ms).Distinct)
    (h : p.HeldIn ms) : form.decode (.object ms) = .ok p := by
  have hversion := (Schema.reads_string.required "").readsAs (hms.of_get? "version")
    ⟨_, h.version, rfl⟩
  have hdefault := FilterLevel.reads.optional.readsAs (hms.of_get? "filterModeDefault")
    (rel_eq_iff.2 h.filterModeDefault)
  obtain ⟨v, hv, hentries⟩ := h.destinations
  have hdestinations := ((Schema.reads_entries false Destination.reads).required []).readsAs
    (hms.of_get? "destinations") h.destinations
  cases hms with
  | object hnames _ =>
      refine form.decode_eq hnames ?_ (by simp [form, h.version, hv]) fun q hq => ?_
      · simp only [form, List.forall_mem_cons]
        exact ⟨hversion.exists_read _, hdefault.exists_read _, hdestinations.exists_read _, by simp⟩
      · obtain ⟨cversion, cdefault, cdestinations⟩ := components
        calc
          q = ⟨q.version, q.filterModeDefault, q.destinations⟩ := rfl
          _ = ⟨p.version, p.filterModeDefault, p.destinations⟩ := by
            rw [(cversion.readsAs hnames hq).unique hversion,
              (cdefault.readsAs hnames hq).unique hdefault,
              (cdestinations.readsAs hnames hq).unique hdestinations]

/-- A document that the schema of policies admits is read as the policy that it holds. -/
theorem Policy.reads : policySchema.Reads false form.decode (HoldsRecord HeldIn) :=
  Schema.reads_record false admits_iff decode_eq

/-! ## What is read from documents -/

namespace Policy

variable {doc : Value} {p : Policy}

/-- A document passes the check if the schema finds nothing. -/
theorem check_eq_nil_iff : check doc = [] ↔ policySchema.violations doc = [] := by
  rw [check, List.map_eq_nil_iff, ← List.length_eq_zero_iff, List.length_mergeSort,
    List.length_map, List.length_eq_zero_iff]

/-- A document is a policy if nothing is wrong with it and it can be read. -/
theorem ofDocument_eq_ok :
    ofDocument doc = .ok p ↔ policySchema.violationsAt [] doc = [] ∧ form.decode doc = .ok p := by
  have hcheck : check doc = [] ↔ policySchema.violationsAt [] doc = [] := by
    rw [check_eq_nil_iff, Schema.violations, List.map_eq_nil_iff]
  rw [← hcheck, ofDocument]
  split
  · rename_i hnil
    cases hread : form.decode doc with
    | ok q => simp [hnil]
    | error m => simp
  · rename_i hne
    simp only [reduceCtorEq, false_iff, not_and]
    exact fun hnil => absurd hnil hne

/-- A document in which nothing is wrong is a document that holds a policy. -/
theorem check_eq_nil_iff_holds (hdistinct : doc.Distinct) :
    check doc = [] ↔ ∃ p, HoldsRecord HeldIn doc p := by
  rw [check_eq_nil_iff, Schema.violations, List.map_eq_nil_iff]
  exact (reads.admits_iff hdistinct).trans (by simp)

/-- The policy that a document holds is the one that is read from it. -/
theorem ofDocument_of_holds (hdistinct : doc.Distinct) (h : HoldsRecord HeldIn doc p) :
    ofDocument doc = .ok p := by
  have hadmits : policySchema.Admits doc := (reads.admits_iff hdistinct).2 (Or.inr ⟨p, h⟩)
  exact ofDocument_eq_ok.2 ⟨hadmits, reads.decode_eq hdistinct h⟩

/-- What is read from a document is what the document holds. -/
theorem holds_of_ofDocument (hdistinct : doc.Distinct) (h : ofDocument doc = .ok p) :
    HoldsRecord HeldIn doc p := by
  obtain ⟨hadmits, hread⟩ := ofDocument_eq_ok.1 h
  rcases (reads.admits_iff hdistinct).1 hadmits with ⟨hfalse, -⟩ | ⟨q, hq⟩
  · cases hfalse
  · rw [reads.decode_eq hdistinct hq] at hread
    cases hread
    exact hq

/-- A policy that is read from a document declares only starts that are absolute. -/
theorem isAbsolute_start (hdistinct : doc.Distinct) (h : ofDocument doc = .ok p) :
    ∀ e ∈ p.destinations, Uri.isAbsolute e.2.start.toList = true := by
  intro e he
  obtain ⟨ms, rfl, hp⟩ := holds_of_ofDocument hdistinct h
  obtain ⟨v, hv, hentries⟩ := hp.destinations
  obtain ⟨w, -, ms', -, hd⟩ := hentries.exists_of_mem (hdistinct.of_get? _ v hv) he
  exact hd.absolute

end Policy

end NavPolicy
