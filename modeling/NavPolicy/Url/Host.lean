import NavPolicy.Domain.Ascii
import NavPolicy.Url.Ip
import NavPolicy.Url.Percent

/-!
# Hosts

The host of an address with a scheme that has rules of its own is a domain name or a
machine's number, and is brought into one form.  The host of any other address is kept as
it is, encoded where it must be.
-/

namespace NavPolicy.Url

/-- Why a text is not an address. -/
inductive UrlError where
  | emptyHost
  | invalidDomain
  | invalidPort
  | invalidIpv4
  | invalidIpv6
  | invalidDomainCharacter
  | relativeWithoutBase
  deriving DecidableEq, Repr

def UrlError.message : UrlError → String
  | emptyHost => "empty host"
  | invalidDomain => "invalid international domain name"
  | invalidPort => "invalid port number"
  | invalidIpv4 => "invalid IPv4 address"
  | invalidIpv6 => "invalid IPv6 address"
  | invalidDomainCharacter => "invalid domain character"
  | relativeWithoutBase => "relative URL without a base"

inductive Host where
  /-- A name: a domain, or any text where the scheme has no rules. -/
  | name (text : String)
  | ipv4 (number : Nat)
  | ipv6 (groups : List Nat)
  deriving DecidableEq, Repr

def Host.text : Host → String
  | name text => text
  | ipv4 number => ipv4Text number
  | ipv6 groups => "[" ++ ipv6Text groups ++ "]"

def bracketedHost (text : List Char) : Except UrlError Host :=
  if text.getLast? == some ']' then
    match ipv6? (text.drop 1).dropLast with
    | some groups => .ok (.ipv6 groups)
    | none => .error .invalidIpv6
  else .error .invalidIpv6

/-- The host of an address whose scheme has rules of its own. -/
def domainHost (text : List Char) : Except UrlError Host :=
  if text.head? == some '[' then bracketedHost text
  else
    match (utf8Decode? (percentDecode text)).bind Domain.toAscii? with
    | none => .error .invalidDomain
    | some [] => .error .emptyHost
    | some name =>
      if endsInNumber name then
        match ipv4? name with
        | some number => .ok (.ipv4 number)
        | none => .error .invalidIpv4
      else .ok (.name (String.ofList name))

/-- The characters that no host may hold. -/
def isHostBreaking (c : Char) : Bool :=
  ['\x00', '\t', '\n', '\r', ' ', '#', '/', ':', '<', '>', '?', '@', '[', '\\', ']', '^',
    '|'].contains c

def plainHost (text : List Char) : Except UrlError Host :=
  if text.head? == some '[' then bracketedHost text
  else if text.any isHostBreaking then .error .invalidDomainCharacter
  else .ok (.name (String.ofList (percentEncode [] text)))

end NavPolicy.Url
