import NavPolicy.Url.Parser

/-!
# Targets

Patterns are tested against several projections of an address, so that a pattern may
name a path, a whole address or a host.  `targets` lists them without repetition: the
text as it was given, and, if it is an address, its origin with its path, its path, its
path with its query, and its host.
-/

namespace NavPolicy

/-- The query with its question mark, or nothing if it is missing or empty. -/
def Url.search (u : Url) : String :=
  match u.query with
  | none => ""
  | some q => if q.isEmpty then "" else "?" ++ q

def Url.projections (u : Url) : List String :=
  [u.originText ++ u.path, u.path, u.path ++ u.search, u.hostText]

/-- Add a target unless it is empty or there already. -/
def addTarget (found : List String) (target : String) : List String :=
  if target.isEmpty || found.contains target then found else found ++ [target]

/-- The targets of a text. -/
def targets (text : String) : List String :=
  match Url.parse text with
  | .error _ => [text]
  | .ok u => u.projections.foldl addTarget [text]

end NavPolicy
