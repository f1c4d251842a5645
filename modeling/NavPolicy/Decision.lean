import NavPolicy.Pattern.Matcher
import NavPolicy.Targets

/-!
# Decisions

A navigation is allowed only if an allow pattern matches it, and allow patterns win over
block patterns.  Any other resource loads unless a block pattern matches it.  Every query
has an answer: a text that is no address is tested as it is.
-/

namespace NavPolicy

open NavPolicy.Pattern

/-- The verdict on a navigation, with the pattern that decided it. -/
inductive Decision where
  /-- An allow pattern matches. -/
  | allowed (pattern : String)
  /-- A block pattern matches and no allow pattern does. -/
  | blocked (pattern : String)
  /-- No pattern matches; the navigation is denied. -/
  | unmatched
  deriving DecidableEq, Repr

namespace Decision

def isAllowed : Decision → Bool
  | allowed _ => true
  | _ => false

def pattern? : Decision → Option String
  | allowed p => some p
  | blocked p => some p
  | unmatched => none

end Decision

def firstHit (targets : List String) (matchers : List Matcher) : Option Matcher :=
  matchers.find? fun m => targets.any m.isMatch

/-- The rules of a destination, compiled. -/
structure Matchers where
  allow : List Matcher
  block : List Matcher

namespace Matchers

def compile (allow block : List String) : Matchers :=
  ⟨allow.map Matcher.compile, block.map Matcher.compile⟩

/-- The verdict on a navigation. -/
def verdict (m : Matchers) (url : String) : Decision :=
  let ts := targets url
  match firstHit ts m.allow with
  | some hit => .allowed hit.pattern
  | none =>
    match firstHit ts m.block with
    | some hit => .blocked hit.pattern
    | none => .unmatched

def allowsNavigation (m : Matchers) (url : String) : Bool :=
  (m.verdict url).isAllowed

/-- Whether some block pattern matches, whatever the allow patterns say. -/
def blocks (m : Matchers) (url : String) : Bool :=
  (firstHit (targets url) m.block).isSome

def allowsResource (m : Matchers) (url : String) : Bool :=
  !m.blocks url

end Matchers

/-- Where a denied navigation is sent: to the start of its destination. -/
def nearestRoute (_url : String) (_allow : List Matcher) (start : String) : String := start

end NavPolicy
