import NavPolicy.Policy.Printer
import NavPolicy.Proofs.Json.Walk
import NavPolicy.Proofs.Policy.Essence

/-!
# The errors of a policy document

The check finds violations keyword by keyword and brings them into the order of the document
afterwards.  The walk below meets them in this order, and says nothing of schemas, pointers or
positions.  The two give the same list, and a document is refused with this list or it is read.
-/

namespace NavPolicy.Policy

open NavPolicy.Json

/-! ## The walk through a policy document -/

def stringWalk : Value → List Departure := Walk.plain (.types [.string])

def startWalk : Value → List Departure
  | .string s => if Uri.isAbsolute s.toList then [] else [([], .unmet .uri (.string s))]
  | v => stringWalk v

def stringsWalk : Value → List Departure := Walk.list (.types [.array]) stringWalk

def optionalStringsWalk : Value → List Departure := Walk.list (.types [.array, .null]) stringWalk

/-- A member that is not looked at. -/
def noWalk : Value → List Departure := fun _ => []

def domWalk : Value → List Departure :=
  Walk.record (.types [.object, .null]) [] fun
    | "hide" => optionalStringsWalk
    | "disableAnchorsTo" => optionalStringsWalk
    | "script" => Walk.plain (.types [.string, .null])
    | _ => noWalk

def filterModeWalk : Value → List Departure :=
  Walk.record (.types [.object]) [] fun
    | "blockUrls" => optionalStringsWalk
    | "hideSelectors" => optionalStringsWalk
    | "scriptlets" => optionalStringsWalk
    | _ => noWalk

def destinationWalk : Value → List Departure :=
  Walk.record (.types [.object]) ["start", "allow", "block"] fun
    | "start" => startWalk
    | "allow" => stringsWalk
    | "block" => stringsWalk
    | "dom" => domWalk
    | "filterModes" => Walk.record (.types [.object, .null]) [] fun _ => filterModeWalk
    | "quickActions" => Walk.record (.types [.object, .null]) [] fun _ => stringWalk
    | _ => noWalk

def policyWalk : Value → List Departure :=
  Walk.record (.types [.object]) ["version", "destinations"] fun
    | "version" => stringWalk
    | "filterModeDefault" => Walk.plain (.choice levelNames)
    | "destinations" => Walk.record (.types [.object]) [] fun _ => destinationWalk
    | _ => noWalk

def fieldError (d : Departure) : FieldError :=
  ⟨".".intercalate d.1, violationText d.2⟩

/-- Everything that is wrong with a document, as the walk comes to it. -/
def fieldErrors (doc : Value) : List FieldError :=
  (policyWalk doc).map fieldError

/-! ## The walk goes by the schema -/

theorem visitedBy_string : stringSchema.VisitedBy stringWalk :=
  Schema.visitedBy_types [.string]

private theorem departures_start (v : Value) : (Schema.plain .uri).departures v = startWalk v := by
  cases v with
  | string s =>
      rw [Schema.departures, Schema.violationsAt, Demand.isMet, startWalk]
      split <;> rfl
  | _ => rfl

theorem eq_nil_of_mem_stringWalk {v : Value} {d : Departure} (h : d ∈ stringWalk v) : d.1 = [] :=
  Walk.eq_nil_of_mem_plain h

theorem eq_nil_of_mem_startWalk {v : Value} {d : Departure} (h : d ∈ startWalk v) : d.1 = [] := by
  cases v with
  | string s =>
      rw [startWalk] at h
      split at h
      · cases h
      · rw [List.mem_singleton.1 h]
  | _ => exact eq_nil_of_mem_stringWalk h

theorem visitedBy_start : (Schema.plain .uri).VisitedBy startWalk :=
  .of_departures departures_start fun _ _ => eq_nil_of_mem_startWalk

/-- A list of strings is found in order, for nothing is looked at in its items. -/
theorem visitedBy_list (nullable : Bool) :
    (Schema.list nullable stringSchema).VisitedBy
      (Walk.list (orNull nullable .array) stringWalk) := by
  have hitem : stringSchema.departures = stringWalk := funext (Schema.departures_types [.string])
  rw [← hitem]
  apply Schema.visitedBy_list
  intro v d hd
  exact eq_nil_of_mem_stringWalk (hitem ▸ hd)

theorem visitedBy_strings : stringsSchema.VisitedBy stringsWalk := visitedBy_list false

theorem visitedBy_optionalStrings : optionalStringsSchema.VisitedBy optionalStringsWalk :=
  visitedBy_list true

theorem goesBy_noWalk {known : List (String × Schema)} {name : String}
    (h : name ∉ Ordered.names known) :
    Schema.GoesBy noWalk (Schema.memberSchema known none name) := by
  rw [Schema.memberSchema, Ordered.get?_eq_none_iff.2 h]
  exact fun _ => rfl

/-- The entries of an object are found in order if each is. -/
theorem visitedBy_entries (nullable : Bool) {s : Schema} {walk : Value → List Departure}
    (h : s.VisitedBy walk) :
    (Schema.record nullable [] [] (some s)).VisitedBy
      (Walk.record (orNull nullable .object) [] fun _ => walk) :=
  Schema.visitedBy_record nullable [] List.nodup_nil fun _ => h

private theorem visitedBy_dom : domSchema.VisitedBy domWalk := by
  refine Schema.visitedBy_record true [] (by decide) fun name => ?_
  split
  · exact visitedBy_optionalStrings
  · exact visitedBy_optionalStrings
  · exact Schema.visitedBy_types _
  · rename_i hhide hanchors hscript
    exact goesBy_noWalk (by simpa [Ordered.names] using ⟨hhide, hanchors, hscript⟩)

private theorem visitedBy_filterMode : filterModeSchema.VisitedBy filterModeWalk := by
  refine Schema.visitedBy_record false [] (by decide) fun name => ?_
  split
  · exact visitedBy_optionalStrings
  · exact visitedBy_optionalStrings
  · exact visitedBy_optionalStrings
  · rename_i hblock hhide hscripts
    exact goesBy_noWalk (by simpa [Ordered.names] using ⟨hblock, hhide, hscripts⟩)

private theorem visitedBy_destination : destinationSchema.VisitedBy destinationWalk := by
  refine Schema.visitedBy_record false _ (by decide) fun name => ?_
  split
  · exact visitedBy_start
  · exact visitedBy_strings
  · exact visitedBy_strings
  · exact visitedBy_dom
  · exact visitedBy_entries true visitedBy_filterMode
  · exact visitedBy_entries true visitedBy_string
  · rename_i hstart hallow hblock hdom hmodes hactions
    exact goesBy_noWalk
      (by simpa [Ordered.names] using ⟨hstart, hallow, hblock, hdom, hmodes, hactions⟩)

private theorem visitedBy_policy : policySchema.VisitedBy policyWalk := by
  refine Schema.visitedBy_record false _ (by decide) fun name => ?_
  split
  · exact visitedBy_string
  · exact Schema.visitedBy_choice _
  · exact visitedBy_entries false visitedBy_destination
  · rename_i hversion hdefault hdestinations
    exact goesBy_noWalk (by simpa [Ordered.names] using ⟨hversion, hdefault, hdestinations⟩)

/-! ## The check gives what the walk comes to -/

variable {doc : Value}

private theorem fieldKeys_ofKeys (path : List String) (x : Violation) :
    fieldKeys (Pointer.ofKeys path) x = x.field path := by
  cases x with
  | missing name => rw [fieldKeys, Pointer.keys_ofKeys, Violation.field]
  | unmet demand v => rw [fieldKeys, Pointer.keys_ofKeys, Violation.field]

private theorem map_locate (doc : Value) :
    (policySchema.violations doc).map (locate doc) =
      (policySchema.departures doc).map fun d => (position doc d.1, fieldError d) := by
  rw [Schema.violations, Schema.departures, List.map_map, List.map_map]
  refine List.map_congr_left fun found _ => ?_
  simp only [Function.comp_apply, locate, fieldKeys_ofKeys, fieldError]

/-- Sorting by position brings the violations into the order of the walk. -/
theorem check_eq_fieldErrors (hdistinct : doc.Distinct) : check doc = fieldErrors doc := by
  have hsorted : ((policyWalk doc).map fun d => (position doc d.1, fieldError d)).Pairwise
      fun a b => positionLe a.1 b.1 = true :=
    List.pairwise_map.2 (visitedBy_policy.sorted hdistinct)
  have hsame : ∀ k, ((policyWalk doc).map fun d => (position doc d.1, fieldError d)).filter
        (·.1 = k) =
      ((policySchema.departures doc).map fun d => (position doc d.1, fieldError d)).filter
        (·.1 = k) := by
    intro k
    rw [List.filter_map, List.filter_map]
    exact congrArg _ (visitedBy_policy.same hdistinct k)
  rw [check, map_locate, mergeSort_eq hsorted hsame, fieldErrors, List.map_map]
  rfl

/-! ## What a validation tells -/

theorem ofDocument_of_check_ne_nil (h : check doc ≠ []) : ofDocument doc = .error ⟨check doc⟩ := by
  rw [ofDocument]
  split
  · rename_i hnil
    exact absurd hnil h
  · rfl

/-- A document is checked by going through it from its beginning to its end, and is read unless
something is wrong with it. -/
structure ReportsInOrder (doc : Value) : Prop where
  check : check doc = fieldErrors doc
  refused : ∀ e, ofDocument doc = .error e ↔ fieldErrors doc ≠ [] ∧ e = ⟨fieldErrors doc⟩
  accepted : (∃ p, ofDocument doc = .ok p) ↔ fieldErrors doc = []
  report : validate doc =
    if fieldErrors doc = [] then .valid else .invalid ((fieldErrors doc).map FieldError.text)
  /-- The written report says whether the document was read. -/
  valid : (validate doc).toDocument.member? "valid" = some (.bool (fieldErrors doc).isEmpty)
  /-- The written report lists the errors only if there are any. -/
  errors : (validate doc).toDocument.member? "errors" =
    if fieldErrors doc = [] then none
    else some (.ofStrings ((fieldErrors doc).map FieldError.text))

/-- Every document in which no name comes twice is reported on in order.  What is read from a text
is such a document (`Value.distinct_of_ofText`). -/
theorem reportsInOrder (hdistinct : doc.Distinct) : ReportsInOrder doc := by
  have hcheck := check_eq_fieldErrors hdistinct
  by_cases hnil : fieldErrors doc = []
  · obtain ⟨p, hholds⟩ := (check_eq_nil_iff_holds hdistinct).1 (hcheck.trans hnil)
    have hp := ofDocument_of_holds hdistinct hholds
    have hvalidate : validate doc = .valid := by rw [validate, hp]
    exact {
      check := hcheck
      refused := by simp [hp, hnil]
      accepted := iff_of_true ⟨p, hp⟩ hnil
      report := by rw [hvalidate, if_pos hnil]
      valid := by
        rw [hvalidate, hnil]
        rfl
      errors := by
        rw [hvalidate, if_pos hnil]
        rfl }
  · have hp := ofDocument_of_check_ne_nil (hcheck ▸ hnil)
    rw [hcheck] at hp
    have hvalidate : validate doc = .invalid ((fieldErrors doc).map FieldError.text) := by
      rw [validate, hp]
      rfl
    exact {
      check := hcheck
      refused := by simp [hp, hnil, eq_comm]
      accepted := by simp [hp, hnil]
      report := by rw [hvalidate, if_neg hnil]
      valid := by
        rw [hvalidate, List.isEmpty_eq_false_iff.2 hnil]
        rfl
      errors := by
        rw [hvalidate, if_neg hnil]
        rfl }

/-- A document with errors at several depths, whose keys hold the signs of pointers and paths. -/
def faultyDocument : Value :=
  .object [
    ("destinations", .object [
      ("x/y~1.0", .object [("block", .array [.bool true, .string "/", .null]),
        ("note", .array [.null]), ("start", .string "/feed"),
        ("filterModes", .object [("m", .object [("scriptlets", .object [("0", .null)])])])]),
      ("b", .string "c")]),
    ("filterModeDefault", .string "strict")]

/-- Faults at several depths, in the order of the document. -/
theorem check_faultyDocument :
    faultyDocument.Distinct ∧ check faultyDocument = [
      ⟨"destinations.x/y~1.0.block.0", "Expected string, received boolean"⟩,
      ⟨"destinations.x/y~1.0.block.2", "Expected string, received null"⟩,
      ⟨"destinations.x/y~1.0.start", "Invalid url (\"/feed\" is not a \"uri\")"⟩,
      ⟨"destinations.x/y~1.0.filterModes.m.scriptlets",
        "\x7b\"0\":null\x7d is not of types \"array\", \"null\""⟩,
      ⟨"destinations.x/y~1.0.allow", "Required"⟩,
      ⟨"destinations.b", "Expected object, received string"⟩,
      ⟨"filterModeDefault",
        "Invalid enum value. Expected 'safe' | 'aggressive', received 'strict'"⟩,
      ⟨"version", "Required"⟩] := by
  have hdistinct : faultyDocument.Distinct := by decide
  exact ⟨hdistinct, (reportsInOrder hdistinct).check.trans (by decide +kernel)⟩

end NavPolicy.Policy
