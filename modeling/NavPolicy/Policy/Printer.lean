import NavPolicy.Policy.Reader

/-!
# Writing policies

A policy is written with the fields in a fixed order and without those that are not set.
The lists of a rule set are always written, be they empty.
-/

namespace NavPolicy

open NavPolicy.Json

/-- A member that is written only if it is set. -/
def optionalMember {α : Type} (name : String) (write : α → Value) : Option α → Members
  | none => []
  | some a => [(name, write a)]

def writeEntries {α : Type} (write : α → Value) (entries : Ordered α) : Value :=
  .object (entries.map fun e => (e.1, write e.2))

def DomRules.toDocument (r : DomRules) : Value :=
  .object ([("hide", .ofStrings r.hide), ("disableAnchorsTo", .ofStrings r.disableAnchorsTo)] ++
    optionalMember "script" .string r.script)

def FilterMode.toDocument (m : FilterMode) : Value :=
  .object [("blockUrls", .ofStrings m.blockUrls), ("hideSelectors", .ofStrings m.hideSelectors),
    ("scriptlets", .ofStrings m.scriptlets)]

def Destination.toDocument (d : Destination) : Value :=
  .object ([("start", .string d.start), ("allow", .ofStrings d.allow),
      ("block", .ofStrings d.block)] ++
    optionalMember "dom" DomRules.toDocument d.dom ++
    optionalMember "filterModes" (writeEntries FilterMode.toDocument) d.filterModes ++
    optionalMember "quickActions" (writeEntries .string) d.quickActions)

def Policy.toDocument (p : Policy) : Value :=
  .object ([("version", .string p.version)] ++
    optionalMember "filterModeDefault" (fun l => .string l.name) p.filterModeDefault ++
    [("destinations", writeEntries Destination.toDocument p.destinations)])

def Policy.text (p : Policy) : String := p.toDocument.compact

def Policy.Report.toDocument : Policy.Report → Value
  | .valid => .object [("valid", .bool true)]
  | .invalid messages => .object [("valid", .bool false), ("errors", .ofStrings messages)]

end NavPolicy
