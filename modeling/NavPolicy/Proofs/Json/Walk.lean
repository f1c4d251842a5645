import Mathlib.Data.List.Basic
import NavPolicy.Proofs.Json.Admission
import NavPolicy.Proofs.Json.Places

/-!
# Walks through a document

A schema lists departures keyword by keyword.  A walk lists them as one meets them when one goes
through the document from its beginning to its end, the missing members of an object behind those
that are there.  A walk that goes by the schema finds what the schema finds, and in an order that
sorting by position brings about.
-/

namespace NavPolicy.Json

/-- The keys that lead to a field, and how it departs from what is asked of it. -/
abbrev Departure := List String × Violation

/-- Departures in the member or item with a key. -/
def below (key : String) (found : List Departure) : List Departure :=
  found.map fun d => (key :: d.1, d.2)

namespace Walk

/-- A value whose parts are not looked at. -/
def plain (demand : Demand) (v : Value) : List Departure :=
  if demand.isMet v then [] else [([], .unmet demand v)]

def items (item : Value → List Departure) (vs : List Value) : List Departure :=
  vs.zipIdx.flatMap fun v => below (toString v.2) (item v.1)

def members (member : String → Value → List Departure) (ms : Members) : List Departure :=
  ms.flatMap fun m => below m.1 (member m.1 m.2)

/-- The required members that are not there. -/
def missing (required : List String) (ms : Members) : List Departure :=
  (required.filter fun name => (Ordered.get? ms name).isNone).map fun name =>
    ([name], .missing name)

/-- An array, or what is there instead. -/
def list (demand : Demand) (item : Value → List Departure) : Value → List Departure
  | .array vs => items item vs
  | v => plain demand v

/-- An object, or what is there instead. -/
def record (demand : Demand) (required : List String) (member : String → Value → List Departure) :
    Value → List Departure
  | .object ms => members member ms ++ missing required ms
  | v => plain demand v

theorem list_of_ne {demand : Demand} {item : Value → List Departure} {v : Value}
    (h : ∀ vs, v ≠ .array vs) : list demand item v = plain demand v := by
  cases v with
  | array vs => exact absurd rfl (h vs)
  | _ => rfl

theorem record_of_ne {demand : Demand} {required : List String}
    {member : String → Value → List Departure} {v : Value} (h : ∀ ms, v ≠ .object ms) :
    record demand required member v = plain demand v := by
  cases v with
  | object ms => exact absurd rfl (h ms)
  | _ => rfl

/-- A value whose parts are not looked at departs only as a whole. -/
theorem eq_nil_of_mem_plain {demand : Demand} {v : Value} {d : Departure} (h : d ∈ plain demand v) :
    d.1 = [] := by
  rw [plain] at h
  split at h
  · cases h
  · rw [List.mem_singleton.1 h]

end Walk

def Violation.field (keys : List String) : Violation → List String
  | .missing name => keys ++ [name]
  | .unmet _ _ => keys

namespace Schema

/-! ## What a schema finds -/

/-- The departures of a document from a schema, in the order of the schema. -/
def departures (s : Schema) (v : Value) : List Departure :=
  (s.violationsAt [] v).map fun found => (found.2.field found.1.reverse, found.2)

/-- What is found in a member or an item is found there with its key in front. -/
theorem map_violationsAt_singleton (key : String) (s : Schema) (v : Value) :
    (s.violationsAt [key] v).map (fun found => (found.2.field found.1.reverse, found.2)) =
      below key (s.departures v) := by
  rw [← List.nil_append [key], violationsAt_append, departures, below, List.map_map, List.map_map]
  refine List.map_congr_left fun found _ => ?_
  obtain ⟨path, x⟩ := found
  cases x <;> simp [Violation.field]

theorem departures_types (allowed : List TypeName) (v : Value) :
    (Schema.plain (.types allowed)).departures v = Walk.plain (.types allowed) v := by
  simp only [departures, violationsAt, Walk.plain]
  split <;> rfl

theorem departures_choice (names : List String) (v : Value) :
    (Schema.plain (.choice names)).departures v = Walk.plain (.choice names) v := by
  simp only [departures, violationsAt, Walk.plain]
  split <;> rfl

theorem departures_record_of_ne {required : List String} {nullable : Bool}
    {known : List (String × Schema)} {rest : Option Schema} {v : Value}
    (h : ∀ ms, v ≠ .object ms) :
    (Schema.record nullable required known rest).departures v =
      Walk.plain (orNull nullable .object) v := by
  rw [departures, violationsAt_record_of_ne h, Walk.plain]
  split <;> rfl

theorem departures_list (nullable : Bool) (item : Schema) (v : Value) :
    (Schema.list nullable item).departures v =
      Walk.list (orNull nullable .array) item.departures v := by
  by_cases harray : ∃ vs, v = .array vs
  · obtain ⟨vs, rfl⟩ := harray
    rw [departures, violationsAt, List.map_flatMap, List.mapIdx_eq_zipIdx_map, List.flatMap_map]
    exact List.flatMap_congr fun v _ => map_violationsAt_singleton (toString v.2) item v.1
  · have hne : ∀ vs, v ≠ .array vs := fun vs h => harray ⟨vs, h⟩
    rw [departures, violationsAt_list_of_ne hne, Walk.list_of_ne hne, Walk.plain]
    split <;> rfl

def memberDepartures (ms : Members) (k : String × Schema) : List Departure :=
  match Ordered.get? ms k.1 with
  | none => []
  | some v => below k.1 (k.2.departures v)

def knownDepartures (ms : Members) (known : List (String × Schema)) : List Departure :=
  known.flatMap (memberDepartures ms)

def restDepartures (names : List String) (ms : Members) : Option Schema → List Departure
  | none => []
  | some s => ms.flatMap fun m => below m.1 (if names.contains m.1 then [] else s.departures m.2)

private theorem flatMap_filter_not {α β : Type} (skip : α → Bool) (f : α → List β) (l : List α) :
    (l.filter fun a => !skip a).flatMap f = l.flatMap fun a => if skip a then [] else f a := by
  induction l with
  | nil => rfl
  | cons a l ih => cases h : skip a <;> simp [h, ih]

theorem departures_object (nullable : Bool) (required : List String)
    (known : List (String × Schema)) (rest : Option Schema) (ms : Members) :
    (Schema.record nullable required known rest).departures (.object ms) =
      Walk.missing required ms ++ knownDepartures ms known ++
        restDepartures (Ordered.names known) ms rest := by
  rw [departures, violationsAt, List.map_append, List.map_append]
  congr 1
  · congr 1
    · rw [Walk.missing, List.map_map]
      rfl
    · induction known with
      | nil => simp [knownViolations, knownDepartures]
      | cons k known ih =>
          simp only [knownViolations, List.map_append, ih, knownDepartures, List.flatMap_cons,
            memberDepartures]
          cases Ordered.get? ms k.1 with
          | none => rfl
          | some v => rw [map_violationsAt_singleton]
  · cases rest with
    | none => simp [restViolations, restDepartures]
    | some s =>
        rw [restViolations, restDepartures, List.map_flatMap, flatMap_filter_not]
        refine List.flatMap_congr fun m _ => ?_
        rw [map_violationsAt_singleton, Ordered.names]
        split <;> rfl

/-! ## Walks that go by a schema -/

/-- A walk goes by a schema if it comes to the departures from it in the order of their
positions, and to those at one position in the order of the schema. -/
structure VisitedBy (s : Schema) (walk : Value → List Departure) : Prop where
  sorted : ∀ {v}, v.Distinct →
    (walk v).Pairwise fun a b => positionLe (position v a.1) (position v b.1) = true
  same : ∀ {v}, v.Distinct → ∀ k,
    (walk v).filter (position v ·.1 = k) = (s.departures v).filter (position v ·.1 = k)

/-- Where a walk finds what the schema finds, at most at the value itself, there is nothing
to sort. -/
theorem VisitedBy.of_departures {s : Schema} {walk : Value → List Departure}
    (hwalk : ∀ v, s.departures v = walk v) (hself : ∀ v, ∀ d ∈ walk v, d.1 = []) :
    s.VisitedBy walk where
  sorted {v} _ := by
    refine List.pairwise_of_forall_mem_list fun a ha b hb => ?_
    rw [hself v a ha, hself v b hb]
    exact positionLe_refl _
  same _ _ := by rw [hwalk]

theorem visitedBy_types (allowed : List TypeName) :
    (Schema.plain (.types allowed)).VisitedBy (Walk.plain (.types allowed)) :=
  .of_departures (departures_types allowed) fun _ _ => Walk.eq_nil_of_mem_plain

theorem visitedBy_choice (names : List String) :
    (Schema.plain (.choice names)).VisitedBy (Walk.plain (.choice names)) :=
  .of_departures (departures_choice names) fun _ _ => Walk.eq_nil_of_mem_plain

private theorem item_position_le {i j count : Nat} (hij : i < j) (hj : j < count) :
    (if i < Nat.pow 2 64 then i else count) ≤ if j < Nat.pow 2 64 then j else count := by
  split <;> split <;> omega

/-- The items of an array are found in order, as long as their parts are not looked at. -/
theorem visitedBy_list (nullable : Bool) {item : Schema}
    (hself : ∀ v, ∀ d ∈ item.departures v, d.1 = []) :
    (Schema.list nullable item).VisitedBy (Walk.list (orNull nullable .array) item.departures) where
  sorted {v} _ := by
    by_cases harray : ∃ vs, v = .array vs
    · obtain ⟨vs, rfl⟩ := harray
      have hposition : ∀ w ∈ vs.zipIdx, ∀ d ∈ below (toString w.2) (item.departures w.1),
          position (.array vs) d.1 = [if w.2 < Nat.pow 2 64 then w.2 else vs.length] := by
        intro w _ d hd
        obtain ⟨e, he, rfl⟩ := List.mem_map.1 hd
        rw [hself _ e he]
        exact position_item vs w.2
      refine List.pairwise_flatMap.2 ⟨fun w hw => ?_, ?_⟩
      · refine List.pairwise_of_forall_mem_list fun a ha b hb => ?_
        rw [hposition w hw a ha, hposition w hw b hb]
        exact positionLe_refl _
      · rw [List.pairwise_iff_getElem]
        intro i j hi hj hij a ha b hb
        rw [hposition _ (List.getElem_mem hi) a ha, hposition _ (List.getElem_mem hj) b hb]
        rw [List.length_zipIdx] at hi hj
        simp only [List.getElem_zipIdx, Nat.zero_add]
        rcases Nat.lt_or_eq_of_le (item_position_le hij hj) with hlt | heq
        · exact positionLe_cons_iff.2 (Or.inl hlt)
        · rw [heq]
          exact positionLe_refl _
    · have hne : ∀ vs, v ≠ .array vs := fun vs h => harray ⟨vs, h⟩
      rw [Walk.list_of_ne hne]
      refine List.pairwise_of_forall_mem_list fun a ha b hb => ?_
      rw [Walk.eq_nil_of_mem_plain ha, Walk.eq_nil_of_mem_plain hb]
      exact positionLe_refl _
  same _ _ := by rw [departures_list]

end Schema

/-! ## The members of an object -/

namespace Ordered

variable {α β : Type}

/-- Where only the entry of one name gives something, it alone is left. -/
theorem flatMap_eq_of_names {entries : Ordered α} (hnames : (names entries).Nodup) {name : String}
    {f : String × α → List β} (hf : ∀ e ∈ entries, e.1 ≠ name → f e = []) :
    entries.flatMap f = ((get? entries name).map fun a => f (name, a)).getD [] := by
  induction entries with
  | nil => rfl
  | cons e rest ih =>
      simp only [names, List.map_cons, List.nodup_cons] at hnames
      rw [List.forall_mem_cons] at hf
      rw [List.flatMap_cons, get?_cons, ih hnames.2 hf.2]
      split
      · rename_i hname
        have habsent : get? rest name = none := get?_eq_none_iff.2 (hname ▸ hnames.1)
        rw [habsent, ← hname]
        exact List.append_nil _
      · rename_i hname
        rw [hf.1 hname, List.nil_append]

/-- Where no name comes twice, entries come in the order of their names' places. -/
theorem pairwise_idxOf {entries : Ordered α} (hnames : (names entries).Nodup) :
    entries.Pairwise fun a b => (names entries).idxOf a.1 < (names entries).idxOf b.1 := by
  have hindex : ∀ i, ∀ hi : i < entries.length, (names entries).idxOf entries[i].1 = i := by
    intro i hi
    have hnames := hnames.idxOf_getElem i (by rw [names, List.length_map]; exact hi)
    simpa [names] using hnames
  rw [List.pairwise_iff_getElem]
  intro i j hi hj hij
  rw [hindex i hi, hindex j hj]
  exact hij

theorem idxOf_lt_length {entries : Ordered α} {name : String} {a : α}
    (h : get? entries name = some a) : (names entries).idxOf name < entries.length := by
  have hmem : name ∈ names entries := mem_names_of_get? h
  have hlt := List.idxOf_lt_length_of_mem hmem
  rwa [names, List.length_map] at hlt

end Ordered

namespace Schema

section Places

variable {ms : Members} {name : String} {v : Value}

/-- What is found in a member is found at the member's place. -/
theorem filter_below (h : Ordered.get? ms name = some v) (found : List Departure) (i : Nat)
    (k : List Nat) :
    (below name found).filter (position (.object ms) ·.1 = i :: k) =
      if (Ordered.names ms).idxOf name = i then below name (found.filter (position v ·.1 = k))
      else [] := by
  rw [below, List.filter_map]
  split
  · rename_i hi
    rw [below]
    congr 1
    refine List.filter_congr fun d _ => ?_
    simp [position_member h, hi]
  · rename_i hi
    rw [List.map_eq_nil_iff, List.filter_eq_nil_iff]
    intro d _
    simp [position_member h, hi]

/-- At the place of a member is what is found in this member. -/
theorem filter_members (hnames : (Ordered.names ms).Nodup) (h : Ordered.get? ms name = some v)
    (f : String → Value → List Departure) (k : List Nat) :
    (Walk.members f ms).filter
        (position (.object ms) ·.1 = (Ordered.names ms).idxOf name :: k) =
      below name ((f name v).filter (position v ·.1 = k)) := by
  have hname : name ∈ Ordered.names ms := Ordered.mem_names_of_get? h
  have hother : ∀ m ∈ ms, m.1 ≠ name → (below m.1 (f m.1 m.2)).filter
      (position (.object ms) ·.1 = (Ordered.names ms).idxOf name :: k) = [] := by
    intro m hm hne
    rw [filter_below (Ordered.get?_of_mem hnames hm), if_neg]
    intro hindex
    exact hne ((List.idxOf_inj hname).1 hindex.symm).symm
  rw [Walk.members, List.filter_flatMap, Ordered.flatMap_eq_of_names hnames hother, h,
    Option.map_some, Option.getD_some, filter_below h, if_pos rfl]

theorem filter_known {known : List (String × Schema)} (hknown : (Ordered.names known).Nodup)
    (h : Ordered.get? ms name = some v) (k : List Nat) :
    (knownDepartures ms known).filter
        (position (.object ms) ·.1 = (Ordered.names ms).idxOf name :: k) =
      ((Ordered.get? known name).map fun s =>
        below name ((s.departures v).filter (position v ·.1 = k))).getD [] := by
  have hname : name ∈ Ordered.names ms := Ordered.mem_names_of_get? h
  have hother : ∀ e ∈ known, e.1 ≠ name → (memberDepartures ms e).filter
      (position (.object ms) ·.1 = (Ordered.names ms).idxOf name :: k) = [] := by
    intro e _ hne
    rw [memberDepartures]
    cases hget : Ordered.get? ms e.1 with
    | none => rfl
    | some w =>
        rw [filter_below hget, if_neg]
        intro hindex
        exact hne ((List.idxOf_inj hname).1 hindex.symm).symm
  rw [knownDepartures, List.filter_flatMap, Ordered.flatMap_eq_of_names hknown hother]
  simp only [memberDepartures, h, filter_below h, if_true]

def InMembers (ms : Members) (found : List Departure) : Prop :=
  ∀ d ∈ found, ∃ name v keys, Ordered.get? ms name = some v ∧ d.1 = name :: keys

theorem inMembers_below (h : Ordered.get? ms name = some v) (found : List Departure) :
    InMembers ms (below name found) := by
  intro d hd
  obtain ⟨e, -, rfl⟩ := List.mem_map.1 hd
  exact ⟨name, v, e.1, h, rfl⟩

theorem inMembers_members (hnames : (Ordered.names ms).Nodup)
    (f : String → Value → List Departure) : InMembers ms (Walk.members f ms) := by
  intro d hd
  obtain ⟨m, hm, hd⟩ := List.mem_flatMap.1 hd
  exact inMembers_below (Ordered.get?_of_mem hnames hm) _ d hd

theorem inMembers_known (known : List (String × Schema)) :
    InMembers ms (knownDepartures ms known) := by
  intro d hd
  obtain ⟨k, -, hd⟩ := List.mem_flatMap.1 hd
  rw [memberDepartures] at hd
  cases hget : Ordered.get? ms k.1 with
  | none =>
      rw [hget] at hd
      cases hd
  | some w =>
      rw [hget] at hd
      exact inMembers_below hget _ d hd

/-- Where no member has its place, nothing is found in the members. -/
theorem InMembers.filter_eq_nil {found : List Departure} (hfound : InMembers ms found)
    {k : List Nat} (hk : ∀ i rest, k = i :: rest → ∀ name v, Ordered.get? ms name = some v →
      (Ordered.names ms).idxOf name ≠ i) :
    found.filter (position (.object ms) ·.1 = k) = [] := by
  rw [List.filter_eq_nil_iff]
  intro d hd
  obtain ⟨name, v, keys, hget, hkeys⟩ := hfound d hd
  rw [decide_eq_true_eq, hkeys, position_member hget]
  intro heq
  exact hk _ _ heq.symm name v hget rfl

theorem position_of_mem_missing {required : List String} {d : Departure}
    (h : d ∈ Walk.missing required ms) : position (.object ms) d.1 = [ms.length] := by
  obtain ⟨name, hname, rfl⟩ := List.mem_map.1 h
  exact position_missing (Option.isNone_iff_eq_none.1 (List.mem_filter.1 hname).2)

theorem filter_missing_eq_nil {required : List String} {k : List Nat} (hk : k ≠ [ms.length]) :
    (Walk.missing required ms).filter (position (.object ms) ·.1 = k) = [] := by
  rw [List.filter_eq_nil_iff]
  intro d hd
  rw [decide_eq_true_eq, position_of_mem_missing hd]
  exact hk.symm

end Places

/-! ## Walks through objects -/

def departures? : Option Schema → Value → List Departure
  | none, _ => []
  | some s, v => s.departures v

def memberSchema (known : List (String × Schema)) (rest : Option Schema) (name : String) :
    Option Schema :=
  (Ordered.get? known name).or rest

/-- A walk through a member goes by its schema, and finds nothing in a member without one. -/
def GoesBy (walk : Value → List Departure) : Option Schema → Prop
  | none => ∀ v, walk v = []
  | some s => s.VisitedBy walk

section Record

variable {known : List (String × Schema)} {rest : Option Schema} {ms : Members} {v : Value}

theorem GoesBy.sorted {walk : Value → List Departure} {s : Option Schema} (h : GoesBy walk s)
    (hv : v.Distinct) :
    (walk v).Pairwise fun a b => positionLe (position v a.1) (position v b.1) = true := by
  cases s with
  | none => rw [h v]; exact List.Pairwise.nil
  | some s => exact VisitedBy.sorted h hv

private theorem GoesBy.same {walk : Value → List Departure} {s : Option Schema} (h : GoesBy walk s)
    (hv : v.Distinct) (k : List Nat) :
    (walk v).filter (position v ·.1 = k) = (departures? s v).filter (position v ·.1 = k) := by
  cases s with
  | none => rw [h v]; rfl
  | some s => exact VisitedBy.same h hv k

theorem restDepartures_eq_members (ms : Members) :
    restDepartures (Ordered.names known) ms rest =
      Walk.members (fun name v =>
        if (Ordered.names known).contains name then [] else departures? rest v) ms := by
  cases rest with
  | some s => rfl
  | none =>
      refine (List.flatMap_eq_nil_iff.2 fun m _ => ?_).symm
      simp [departures?, below]

/-- At the place of a member is what its schema finds in it. -/
theorem filter_departures (hknown : (Ordered.names known).Nodup)
    (hnames : (Ordered.names ms).Nodup) {name : String} (h : Ordered.get? ms name = some v)
    (k : List Nat) :
    (knownDepartures ms known ++ restDepartures (Ordered.names known) ms rest).filter
        (position (.object ms) ·.1 = (Ordered.names ms).idxOf name :: k) =
      below name ((departures? (memberSchema known rest name) v).filter (position v ·.1 = k)) := by
  rw [List.filter_append, filter_known hknown h, restDepartures_eq_members,
    filter_members hnames h, memberSchema]
  cases hget : Ordered.get? known name with
  | none =>
      have habsent : name ∉ Ordered.names known := Ordered.get?_eq_none_iff.1 hget
      simp [habsent]
  | some s =>
      have hpresent : name ∈ Ordered.names known := Ordered.mem_names_of_get? hget
      simp [hpresent, departures?, below]

/-- A walk through an object that goes by the schema of each member, and ends with what is
missing, goes by the schema of the object. -/
theorem visitedBy_record (nullable : Bool) (required : List String)
    {member : String → Value → List Departure} (hknown : (Ordered.names known).Nodup)
    (hmember : ∀ name, GoesBy (member name) (memberSchema known rest name)) :
    (Schema.record nullable required known rest).VisitedBy
      (Walk.record (orNull nullable .object) required member) where
  sorted {v} hv := by
    by_cases hobject : ∃ ms, v = .object ms
    · obtain ⟨ms, rfl⟩ := hobject
      cases hv with
      | object hnames hmembers =>
          refine List.pairwise_append.2 ⟨List.pairwise_flatMap.2 ⟨fun m hm => ?_, ?_⟩, ?_, ?_⟩
          · have hget := Ordered.get?_of_mem hnames hm
            refine List.pairwise_map.2 ((hmember m.1).sorted (hmembers m hm) |>.imp fun h => ?_)
            rw [position_member hget, position_member hget, positionLe_cons_iff]
            exact Or.inr ⟨rfl, h⟩
          · refine (Ordered.pairwise_idxOf hnames).imp_of_mem fun ha hb hlt x hx y hy => ?_
            obtain ⟨x, -, rfl⟩ := List.mem_map.1 hx
            obtain ⟨y, -, rfl⟩ := List.mem_map.1 hy
            rw [position_member (Ordered.get?_of_mem hnames ha),
              position_member (Ordered.get?_of_mem hnames hb), positionLe_cons_iff]
            exact Or.inl hlt
          · refine List.pairwise_of_forall_mem_list fun a ha b hb => ?_
            rw [position_of_mem_missing ha, position_of_mem_missing hb]
            exact positionLe_refl _
          · intro a ha b hb
            obtain ⟨name, w, keys, hget, hkeys⟩ := inMembers_members hnames member a ha
            rw [position_of_mem_missing hb, hkeys, position_member hget, positionLe_cons_iff]
            exact Or.inl (Ordered.idxOf_lt_length hget)
    · have hne : ∀ ms, v ≠ .object ms := fun ms h => hobject ⟨ms, h⟩
      rw [Walk.record_of_ne hne]
      refine List.pairwise_of_forall_mem_list fun a ha b hb => ?_
      rw [Walk.eq_nil_of_mem_plain ha, Walk.eq_nil_of_mem_plain hb]
      exact positionLe_refl _
  same {v} hv k := by
    by_cases hobject : ∃ ms, v = .object ms
    · obtain ⟨ms, rfl⟩ := hobject
      cases hv with
      | object hnames hmembers =>
          rw [departures_object, Walk.record, List.append_assoc, List.filter_append,
            List.filter_append]
          by_cases hplace : ∃ name w rest, Ordered.get? ms name = some w ∧
              k = (Ordered.names ms).idxOf name :: rest
          · obtain ⟨name, w, k, hget, rfl⟩ := hplace
            have hw : w.Distinct := hmembers _ (Ordered.mem_of_get? hget)
            have hlt := Ordered.idxOf_lt_length hget
            rw [filter_missing_eq_nil (by simp; omega), filter_members hnames hget,
              filter_departures hknown hnames hget, (hmember name).same hw, List.append_nil,
              List.nil_append]
          · have hk : ∀ i rest, k = i :: rest → ∀ name v, Ordered.get? ms name = some v →
                (Ordered.names ms).idxOf name ≠ i := by
              rintro i rest rfl name w hget rfl
              exact hplace ⟨name, w, rest, hget, rfl⟩
            rw [(inMembers_members hnames member).filter_eq_nil hk, List.filter_append,
              (inMembers_known known).filter_eq_nil hk, restDepartures_eq_members,
              (inMembers_members hnames _).filter_eq_nil hk, List.nil_append, List.nil_append,
              List.append_nil]
    · have hne : ∀ ms, v ≠ .object ms := fun ms h => hobject ⟨ms, h⟩
      rw [Walk.record_of_ne hne, departures_record_of_ne hne]

end Record

end Schema

end NavPolicy.Json
