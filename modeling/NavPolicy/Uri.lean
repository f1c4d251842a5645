import NavPolicy.Url.Ip

/-!
# Absolute identifiers

The start of a destination must be an absolute identifier of the generic grammar: a
scheme, a colon, and a path that an authority may precede and a query and a fragment may
follow, in ASCII and with every percent sign encoding a byte.
-/

namespace NavPolicy.Uri

open NavPolicy.Text

/-- Whether a character has no meaning of its own in any part. -/
def isUnreserved (c : Char) : Bool :=
  c.isAlphanum || c == '-' || c == '.' || c == '_' || c == '~'

/-- Whether a character may separate parts of a part. -/
def isSubDelimiter (c : Char) : Bool :=
  ['!', '$', '&', '\x27', '(', ')', '*', '+', ',', ';', '='].contains c

/-- Whether a text consists of allowed characters and encoded bytes. -/
def isEncoded (allowed : Char → Bool) : List Char → Bool
  | [] => true
  | '%' :: a :: b :: rest =>
    (hexDigit? a).isSome && (hexDigit? b).isSome && isEncoded allowed rest
  | c :: rest => c != '%' && allowed c && isEncoded allowed rest

def isNameChar (c : Char) : Bool := isUnreserved c || isSubDelimiter c

def isPathChar (c : Char) : Bool := isNameChar c || c == ':' || c == '@' || c == '/'

def isTailChar (c : Char) : Bool := isPathChar c || c == '?'

/-- Whether a text in brackets is an address of a later version: `v`, digits, a point and
the address. -/
def isFutureAddress (text : List Char) : Bool :=
  match text with
  | v :: rest =>
    (v == 'v' || v == 'V') &&
      !(rest.takeWhile (· != '.')).isEmpty &&
      (rest.takeWhile (· != '.')).all (fun c => (hexDigit? c).isSome) &&
      match rest.dropWhile (· != '.') with
      | _ :: address => !address.isEmpty && address.all fun c => isNameChar c || c == ':'
      | [] => false
  | [] => false

def isPort : List Char → Bool
  | [] => true
  | c :: digits => c == ':' && digits.all Char.isDigit

/-- Whether a text is a host with its port. -/
def isHostPort (text : List Char) : Bool :=
  match text with
  | '[' :: rest =>
    let address := rest.takeWhile (· != ']')
    match rest.dropWhile (· != ']') with
    | _ :: port =>
      ((Url.ipv6? address).isSome || isFutureAddress address) && isPort port
    | [] => false
  | _ =>
    isEncoded isNameChar (text.takeWhile (· != ':')) && isPort (text.dropWhile (· != ':'))

/-- Whether a text is an authority: a host with its port, behind the user's name. -/
def isAuthority (text : List Char) : Bool :=
  if text.contains '@' then
    isEncoded (fun c => isNameChar c || c == ':') (text.takeWhile (· != '@')) &&
      isHostPort ((text.dropWhile (· != '@')).drop 1)
  else isHostPort text

/-- Whether a text is what may follow the scheme, query and fragment left aside. -/
def isHierarchy (text : List Char) : Bool :=
  match text with
  | '/' :: '/' :: rest =>
    isAuthority (rest.takeWhile (· != '/')) && isEncoded isPathChar (rest.dropWhile (· != '/'))
  | _ => isEncoded isPathChar text

/-- Whether a character may stand in a scheme after its first letter. -/
def isSchemeChar (c : Char) : Bool := c.isAlphanum || c == '+' || c == '-' || c == '.'

def isAbsolute (text : List Char) : Bool :=
  match text.takeWhile (· != ':'), text.dropWhile (· != ':') with
  | first :: more, _ :: rest =>
    let beforeFragment := rest.takeWhile (· != '#')
    let fragment := (rest.dropWhile (· != '#')).drop 1
    let query := (beforeFragment.dropWhile (· != '?')).drop 1
    first.isAlpha && more.all isSchemeChar &&
      isHierarchy (beforeFragment.takeWhile (· != '?')) &&
      isEncoded isTailChar query && isEncoded isTailChar fragment
  | _, _ => false

end NavPolicy.Uri
