import NavPolicy.Json.Printer
import NavPolicy.Text.Quoted

/-!
# What is wrong with a document

A text may fail to be JSON, and a document may fail to have the form that a record asks
for.  Both are causes with a message; an `Error` adds the place in the text.
-/

namespace NavPolicy.Json

/-- Why a text is not JSON. -/
inductive Fault where
  | endInValue
  | endInArray
  | endInObject
  | endInString
  | expectedValue
  | expectedWord
  | expectedColon
  | expectedCommaInArray
  | expectedCommaInObject
  | keyNotString
  | trailingComma
  | trailingCharacters
  | invalidNumber
  | numberOutOfRange
  | invalidEscape
  | endOfHexEscape
  | loneSurrogate
  | controlCharacter
  | tooDeep
  deriving DecidableEq, Repr

def Fault.message : Fault → String
  | endInValue => "EOF while parsing a value"
  | endInArray => "EOF while parsing a list"
  | endInObject => "EOF while parsing an object"
  | endInString => "EOF while parsing a string"
  | expectedValue => "expected value"
  | expectedWord => "expected ident"
  | expectedColon => "expected `:`"
  | expectedCommaInArray => "expected `,` or `]`"
  | expectedCommaInObject => "expected `,` or `\x7d`"
  | keyNotString => "key must be a string"
  | trailingComma => "trailing comma"
  | trailingCharacters => "trailing characters"
  | invalidNumber => "invalid number"
  | numberOutOfRange => "number out of range"
  | invalidEscape => "invalid escape"
  | endOfHexEscape => "unexpected end of hex escape"
  | loneSurrogate => "lone leading surrogate in hex escape"
  | controlCharacter => "control character (\\u0000-\\u001F) found while parsing a string"
  | tooDeep => "recursion limit exceeded"

/-- What was found where something else was expected. -/
inductive Found where
  | null
  | bool (b : Bool)
  | integer (text : String)
  | float (text : String)
  | string (s : String)
  | array
  | object
  deriving DecidableEq, Repr

def Found.message : Found → String
  | null => "null"
  | bool true => "boolean `true`"
  | bool false => "boolean `false`"
  | integer text => s!"integer `{text}`"
  | float text => s!"floating point `{text}`"
  | string s => s!"string {Text.inQuotes s}"
  | array => "sequence"
  | object => "map"

def Found.ofNumber : Number → Found
  | .float x => .float x.text
  | n => .integer n.text

def Found.ofValue : Value → Found
  | .null => .null
  | .bool b => .bool b
  | .number n => .ofNumber n
  | .string s => .string s
  | .array _ => .array
  | .object _ => .object

/-- Why a document does not have the form of a record. -/
inductive Mismatch where
  /-- A document of another type. -/
  | wrongType (found : Found) (expected : String)
  /-- A document of the right type with a value that is not allowed. -/
  | wrongValue (found : Found) (expected : String)
  /-- An array of the wrong length. -/
  | wrongLength (length : Nat) (expected : String)
  /-- A required member that is not there. -/
  | missingField (name : String)
  /-- A member that is there twice. -/
  | duplicateField (name : String)
  /-- A name that is none of the choices. -/
  | unknownVariant (name : String) (choices : List String)
  deriving DecidableEq, Repr

def listChoices : List String → String
  | [] => ""
  | [a] => s!"`{a}`"
  | [a, b] => s!"`{a}` or `{b}`"
  | choices => "one of " ++ ", ".intercalate (choices.map fun c => s!"`{c}`")

def Mismatch.message : Mismatch → String
  | wrongType found expected => s!"invalid type: {found.message}, expected {expected}"
  | wrongValue found expected => s!"invalid value: {found.message}, expected {expected}"
  | wrongLength length expected => s!"invalid length {length}, expected {expected}"
  | missingField name => s!"missing field `{name}`"
  | duplicateField name => s!"duplicate field `{name}`"
  | unknownVariant name choices => s!"unknown variant `{name}`, expected {listChoices choices}"

/-- A place in a text: lines count from one, and columns are bytes since the line's start. -/
structure Position where
  line : Nat
  column : Nat
  deriving DecidableEq, Repr

/-- What is wrong with a text, and where. -/
structure Error where
  message : String
  position : Position
  deriving DecidableEq, Repr

def Error.text (e : Error) : String :=
  s!"{e.message} at line {e.position.line} column {e.position.column}"

end NavPolicy.Json
