/-!
# Platforms

The environments in which a policy is enforced, and the kinds of requests that the
desktop browser tells apart.
-/

namespace NavPolicy

/-- An environment that enforces policies. -/
inductive Platform where
  /-- A web view with lists of content rules. -/
  | ios
  /-- A web view with a list of blocked addresses and an injected script. -/
  | android
  /-- A browser whose network requests are filtered. -/
  | desktop
  deriving DecidableEq, Repr

namespace Platform

def all : List Platform := [ios, android, desktop]

def name : Platform → String
  | ios => "ios"
  | android => "android"
  | desktop => "desktop"

def ofName? (name : String) : Option Platform := all.find? fun p => p.name == name

@[simp]
theorem ofName?_name (p : Platform) : ofName? p.name = some p := by
  cases p <;> rfl

end Platform

end NavPolicy
