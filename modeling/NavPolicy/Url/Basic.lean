import NavPolicy.Url.Host
import NavPolicy.Url.Path

/-!
# Addresses

An address taken apart: scheme, credentials, host, port, path, query and fragment, each in
its final form.  `Url.text` puts the parts together again.
-/

namespace NavPolicy

open NavPolicy.Url

structure Url where
  scheme : String
  username : String := ""
  password : String := ""
  /-- Whether an authority is written, be it empty. -/
  hasAuthority : Bool := false
  host : Option Host := none
  /-- The port, unless it is the scheme's own. -/
  port : Option Nat := none
  path : String
  query : Option String := none
  fragment : Option String := none
  deriving DecidableEq, Repr

namespace Url

def defaultPort? : String → Option Nat
  | "http" => some 80
  | "https" => some 443
  | "ws" => some 80
  | "wss" => some 443
  | "ftp" => some 21
  | _ => none

/-- The rules of a scheme. -/
def schemeKind (scheme : String) : SchemeKind :=
  if scheme == "file" then .file
  else if (defaultPort? scheme).isSome then .web
  else .other

def hostText (u : Url) : String :=
  (u.host.map Host.text).getD ""

def portText (u : Url) : String :=
  match u.port with
  | none => ""
  | some n => s!":{n}"

def credentials (u : Url) : String :=
  if u.username.isEmpty && u.password.isEmpty then ""
  else u.username ++ (if u.password.isEmpty then "" else ":" ++ u.password) ++ "@"

/-- The scheme and the authority.  A path that begins with two slashes is told from an
authority by a dot in front of it. -/
def front (u : Url) : String :=
  u.scheme ++ ":" ++
    if u.hasAuthority then "//" ++ u.credentials ++ u.hostText ++ u.portText
    else if u.path.startsWith "//" then "/."
    else ""

def text (u : Url) : String :=
  u.front ++ u.path ++ (match u.query with | none => "" | some q => "?" ++ q) ++
    (match u.fragment with | none => "" | some f => "#" ++ f)

end Url

end NavPolicy
