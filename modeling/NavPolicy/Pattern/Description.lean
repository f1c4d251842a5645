import NavPolicy.Pattern.Matcher
import NavPolicy.Text.Quoted

/-!
# Descriptions of matchers

A matcher in full, on one line, for messages that are read by developers.
-/

namespace NavPolicy.Pattern

def Kind.title : Kind → String
  | regex => "Regex"
  | glob => "Glob"
  | never => "Never"

def optionalText : Option String → String
  | none => "None"
  | some s => "Some(" ++ Text.inQuotes s ++ ")"

def Matcher.description (m : Matcher) : String :=
  "Matcher \x7b pattern: " ++ Text.inQuotes m.pattern ++ ", kind: " ++ m.kind.title ++
    ", expression: " ++ optionalText m.expression? ++ " \x7d"

end NavPolicy.Pattern
