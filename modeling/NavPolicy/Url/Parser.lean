import NavPolicy.Url.Basic

/-!
# Reading addresses

`Url.parse` reads an absolute address.  Controls and spaces around it, and tabs and line
ends anywhere in it, do not count.
-/

namespace NavPolicy.Url

/-- Whether a character is dropped at the ends of an address. -/
def isOuterBlank (c : Char) : Bool := c.toNat ≤ 32

/-- Whether a character is dropped anywhere in an address. -/
def isInnerBlank (c : Char) : Bool := c == '\t' || c == '\n' || c == '\r'

/-- The characters of an address that count. -/
def significant (cs : List Char) : List Char :=
  (((cs.dropWhile isOuterBlank).reverse.dropWhile isOuterBlank).reverse).filter
    fun c => !isInnerBlank c

/-- Whether a character may stand in a scheme after its first letter. -/
def isSchemeChar (c : Char) : Bool :=
  c.isAlphanum || c == '+' || c == '-' || c == '.'

def splitScheme? (cs : List Char) : Option (List Char × List Char) :=
  match cs.takeWhile isSchemeChar, cs.dropWhile isSchemeChar with
  | first :: more, ':' :: rest =>
    if first.isAlpha then some ((first :: more).map Char.toLower, rest) else none
  | _, _ => none

def isPathEnd (c : Char) : Bool := c == '?' || c == '#'

def isAuthorityEnd (k : SchemeKind) (c : Char) : Bool :=
  k.isSlash c || isPathEnd c

/-- A text cut behind its last at sign, if it has one. -/
def splitCredentials? (authority : List Char) : Option (List Char × List Char) :=
  if authority.contains '@' then
    let host := (authority.reverse.takeWhile (· != '@')).reverse
    some (authority.take (authority.length - host.length - 1), host)
  else none

/-- The name and the password of credentials, which a colon separates. -/
def readCredentials (text : List Char) : String × String :=
  let name := text.takeWhile (· != ':')
  let password := (text.dropWhile (· != ':')).drop 1
  (String.ofList (percentEncode userSet name), String.ofList (percentEncode userSet password))

/-- The host at the beginning of a text and the rest, which begins with a colon or is
empty; colons in brackets belong to the host.  The host is gathered backwards. -/
def splitHost (k : SchemeKind) : Bool → List Char → List Char → List Char × List Char
  | _, host, [] => (host.reverse, [])
  | inBrackets, host, c :: rest =>
    if (c == ':' && !inBrackets) || isAuthorityEnd k c then (host.reverse, c :: rest)
    else
      splitHost k (if c == '[' then true else if c == ']' then false else inBrackets)
        (c :: host) rest

def readHost (k : SchemeKind) (text : List Char) : Except UrlError Host :=
  if k.isSpecial then domainHost text else plainHost text

def largestPort : Nat := 65535

/-- The digits of a port and the rest, which begins where the path may begin. -/
def readPort : Option Nat → List Char → Except UrlError (Option Nat × List Char)
  | port, [] => .ok (port, [])
  | port, c :: rest =>
    if c.isDigit then
      let n := port.getD 0 * 10 + (c.toNat - 48)
      if largestPort < n then .error .invalidPort else readPort (some n) rest
    else if c == '/' || c == '\\' || isPathEnd c then .ok (port, c :: rest)
    else .error .invalidPort

/-- The port of a text that begins with its colon; any other text has none. -/
def portBehindHost (cs : List Char) : Except UrlError (Option Nat × List Char) :=
  if cs.head? == some ':' then readPort none (cs.drop 1) else .ok (none, cs)

/-- The query and the fragment of a text that is empty or begins with one of them. -/
def readTail (k : SchemeKind) (cs : List Char) : Option String × Option String :=
  let querySet := if k.isSpecial then specialQuerySet else querySet
  let before := cs.takeWhile (· != '#')
  let after := cs.dropWhile (· != '#')
  (match before with
    | [] => none
    | _ :: q => some (String.ofList (percentEncode querySet q)),
   match after with
    | [] => none
    | _ :: f => some (String.ofList (percentEncode fragmentSet f)))

/-- The path of an address with an authority, where `cs` is what follows the authority. -/
def pathAfterAuthority (k : SchemeKind) (cs : List Char) : List Char × Bool :=
  match cs with
  | [] => if k.isSpecial then (['/'], false) else ([], false)
  | c :: rest => if k.isSlash c then readPath k rest else readPath k (c :: rest)

def withAuthority (k : SchemeKind) (scheme : String) (cs : List Char) : Except UrlError Url := do
  let authority := cs.takeWhile fun c => !isAuthorityEnd k c
  let after := cs.dropWhile fun c => !isAuthorityEnd k c
  let (credentials, rest) := (splitCredentials? authority).getD ([], authority)
  if authority.contains '@' && credentials.isEmpty && rest.isEmpty && !after.isEmpty then
    .error .emptyHost
  else
    let (username, password) := readCredentials credentials
    let (hostChars, rest) := splitHost k false [] (rest ++ after)
    if k.isSpecial && hostChars.isEmpty then .error .emptyHost
    else
      let host ← readHost k hostChars
      let isNone := host == .name ""
      if isNone && rest.head? == some ':' then .error .emptyHost
      else
        let (port, rest) ← portBehindHost rest
        if isNone && !(username.isEmpty && password.isEmpty) then .error .emptyHost
        else
          let pathChars := rest.takeWhile fun c => !isPathEnd c
          let (path, _) := pathAfterAuthority k pathChars
          let (query, fragment) := readTail k (rest.dropWhile fun c => !isPathEnd c)
          return {
            scheme := scheme
            username := username
            password := password
            hasAuthority := true
            host := if isNone then none else some host
            port := if port == defaultPort? scheme then none else port
            path := String.ofList path
            query := query
            fragment := fragment }

/-- An address without an authority: its path is read if it begins with a slash, and kept
as it is otherwise. -/
def withoutAuthority (scheme : String) (cs : List Char) : Url :=
  let pathChars := cs.takeWhile fun c => !isPathEnd c
  let (query, fragment) := readTail .other (cs.dropWhile fun c => !isPathEnd c)
  { scheme := scheme
    path := String.ofList (match pathChars with
      | '/' :: rest => (readPath .other rest).1
      | _ => percentEncode [] pathChars)
    query := query
    fragment := fragment }

/-- The host of a file's address; this machine has no name. -/
def fileHost (cs : List Char) : Except UrlError (Option Host) :=
  if cs.isEmpty then .ok none
  else (domainHost cs).map fun h => if h == .name "localhost" then none else some h

def fileUrl (cs : List Char) : Except UrlError Url := do
  let k := SchemeKind.file
  let (hostChars, rest) :=
    match cs with
    | a :: b :: more =>
      if k.isSlash a && k.isSlash b then
        let host := more.takeWhile fun c => !isAuthorityEnd k c
        if isDriveLetter host then ([], more)
        else (host, more.dropWhile fun c => !isAuthorityEnd k c)
      else ([], cs)
    | _ => ([], cs)
  let host ← fileHost hostChars
  let (path, dropsHost) := pathAfterAuthority k (rest.takeWhile fun c => !isPathEnd c)
  let (query, fragment) := readTail k (rest.dropWhile fun c => !isPathEnd c)
  return {
    scheme := "file"
    hasAuthority := true
    host := if dropsHost then none else host
    path := String.ofList path
    query := query
    fragment := fragment }

def parseChars (text : List Char) : Except UrlError Url :=
  match splitScheme? (significant text) with
  | none => .error .relativeWithoutBase
  | some (schemeChars, rest) =>
    let scheme := String.ofList schemeChars
    match schemeKind scheme with
    | .file => fileUrl rest
    | .web => withAuthority .web scheme (rest.dropWhile fun c => c == '/' || c == '\\')
    | .other =>
      match rest with
      | '/' :: '/' :: more => withAuthority .other scheme more
      | _ => .ok (withoutAuthority scheme rest)

def parse (text : String) : Except UrlError Url :=
  parseChars text.toList

/-! ## Origins -/

/-- The origin of an address of the web: its scheme and host, and its port where the
scheme has another one.  An address that wraps another one has that one's origin. -/
def originOf : Nat → Url → Option String
  | fuel, u =>
    if (defaultPort? u.scheme).isSome then some (u.scheme ++ "://" ++ u.hostText ++ u.portText)
    else if u.scheme == "blob" then
      match fuel with
      | 0 => none
      | fuel + 1 =>
        match parse u.path with
        | .ok inner => originOf fuel inner
        | .error _ => none
    else none

def origin? (u : Url) : Option String :=
  originOf u.path.length u

def originText (u : Url) : String :=
  u.origin?.getD "null"

end NavPolicy.Url
