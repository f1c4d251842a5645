import NavPolicy.Json.Value

/-!
# Policies

A policy lists destinations.  Each destination says where it starts, which pages may be
visited, which are blocked, and what is hidden in them.  Filter modes add to the blocks
and to what is hidden; a policy may name the mode that applies unless another is asked for.
-/

namespace NavPolicy

open NavPolicy.Json

/-- What is changed inside the pages of a destination. -/
structure DomRules where
  /-- Selectors of the elements to hide. -/
  hide : List String := []
  /-- Links that lead nowhere. -/
  disableAnchorsTo : List String := []
  /-- A script to run as it is. -/
  script : Option String := none
  deriving DecidableEq, Repr

/-- A named tier of strictness.  It only adds. -/
structure FilterMode where
  /-- More block patterns. -/
  blockUrls : List String := []
  /-- More selectors of elements to hide. -/
  hideSelectors : List String := []
  /-- More scripts to run as they are. -/
  scriptlets : List String := []
  deriving DecidableEq, Repr

/-- The modes that a policy may name as its default. -/
inductive FilterLevel where
  | safe
  | aggressive
  deriving DecidableEq, Repr

def FilterLevel.name : FilterLevel → String
  | safe => "safe"
  | aggressive => "aggressive"

def FilterLevel.choices : List (String × FilterLevel) :=
  [("safe", safe), ("aggressive", aggressive)]

structure Destination where
  /-- The address where the destination starts, and where denied navigations are sent. -/
  start : String
  allow : List String
  block : List String
  dom : Option DomRules := none
  filterModes : Option (Ordered FilterMode) := none
  /-- Named short cuts, which decide nothing. -/
  quickActions : Option (Ordered String) := none
  deriving DecidableEq, Repr

namespace Destination

def filterMode? (d : Destination) (name : String) : Option FilterMode :=
  d.filterModes.bind (Ordered.get? · name)

def mode? (d : Destination) (name : Option String) : Option FilterMode :=
  name.bind d.filterMode?

/-- The block patterns, with those of a mode behind them. -/
def effectiveBlock (d : Destination) (mode : Option String) : List String :=
  d.block ++ ((d.mode? mode).map FilterMode.blockUrls).getD []

def withDom (d : Destination) (dom : DomRules) : Destination :=
  { d with dom := some dom }

def withFilterMode (d : Destination) (name : String) (mode : FilterMode) : Destination :=
  { d with filterModes := some (Ordered.insert name mode (d.filterModes.getD [])) }

end Destination

structure Policy where
  version : String
  filterModeDefault : Option FilterLevel := none
  destinations : Ordered Destination
  deriving DecidableEq, Repr

namespace Policy

/-- The names of the destinations, in the order of the policy. -/
def ids (p : Policy) : List String := Ordered.names p.destinations

def destination? (p : Policy) (id : String) : Option Destination :=
  Ordered.get? p.destinations id

/-- The mode that applies to a destination unless another is asked for: the one that the
policy names, if the destination has it. -/
def defaultMode? (p : Policy) (id : String) : Option String := do
  let level ← p.filterModeDefault
  let d ← p.destination? id
  (d.filterMode? level.name).map fun _ => level.name

end Policy

end NavPolicy
