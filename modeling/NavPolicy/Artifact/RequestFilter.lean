import NavPolicy.Json.Data
import NavPolicy.ResourceType
import NavPolicy.Url.Parser
import NavPolicy.Wildcard

/-!
# Request filters

The desktop browser refuses requests of some types to addresses that a wildcard matches.
A block pattern becomes a wildcard for whole addresses; one that is no address yet is put
behind the origin of the page where the destination starts.
-/

namespace NavPolicy.Artifact

open NavPolicy.Json

/-- A filter: wildcards for addresses, and the types of requests that it applies to. -/
structure RequestFilter where
  urls : List String
  types : List ResourceType
  deriving DecidableEq, Repr

namespace RequestFilter

/-- The wildcards of a filter; those that are refused match nothing. -/
def wildcards (f : RequestFilter) : List (List Wildcard.Token) :=
  f.urls.filterMap Wildcard.ofText?

def covers (f : RequestFilter) (url : String) (type : ResourceType) : Bool :=
  f.types.contains type && f.wildcards.any fun w => Wildcard.isMatch w url.toList

def toDocument (f : RequestFilter) : Value :=
  .object [("urls", .ofStrings f.urls), ("types", .ofStrings (f.types.map ResourceType.name))]

def toData (f : RequestFilter) : Data :=
  .record [("urls", .strings f.urls), ("types", .strings (f.types.map ResourceType.name))]

/-- A filter can always be written. -/
theorem encode_toData (f : RequestFilter) : f.toData.encode = .ok f.toDocument := by
  simp [toData, toDocument, Data.encode, Data.encodeFields, Except.map]

end RequestFilter

/-- A block pattern as a wildcard for whole addresses. -/
def resolveBlock (pattern : String) (start : Url) : String :=
  if pattern.startsWith "http" || pattern.contains "://" then pattern
  else if pattern.startsWith "//" then start.scheme ++ ":" ++ pattern
  else if pattern.startsWith "/" then start.originText ++ pattern
  else start.originText ++ "/" ++ pattern

end NavPolicy.Artifact
