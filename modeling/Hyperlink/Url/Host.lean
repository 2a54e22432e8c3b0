import Hyperlink.Domain.Name
import Hyperlink.Url.Ipv4
import Hyperlink.Url.Ipv6
import Hyperlink.Url.Percent

/-!
# Hyperlink.Url.Host — hosts of URLs

A host in brackets is an address of eight pieces. Any other host of a special scheme is percent-decoded and brought
into ASCII as a domain name; if its last part is a number it is an address of four bytes. Hosts of other schemes are
kept as they are, but must not hold a character that separates the parts of a URL.
-/

namespace Hyperlink

/-- Why a text is no URL. -/
inductive UrlError
  | missingBase
  | emptyHost
  | invalidPort
  | invalidIpv4
  | invalidIpv6
  | invalidDomain
  | invalidDomainCharacter
  deriving DecidableEq, Repr

/-- The description of the cause. -/
def UrlError.describe : UrlError → String
  | missingBase => "relative URL without a base"
  | emptyHost => "empty host"
  | invalidPort => "invalid port number"
  | invalidIpv4 => "invalid IPv4 address"
  | invalidIpv6 => "invalid IPv6 address"
  | invalidDomain => "invalid international domain name"
  | invalidDomainCharacter => "invalid domain character"

/-- The host of a URL with a special scheme. -/
inductive Host
  | domain (name : List Char)
  | ipv4 (address : UInt32)
  | ipv6 (pieces : List UInt16)
  deriving DecidableEq, Repr

namespace Host

/-- The text of a host. -/
def render : Host → List Char
  | domain name => name
  | ipv4 address => Url.Ipv4.render address
  | ipv6 pieces => '[' :: Url.Ipv6.render pieces ++ [']']

/-- The text between brackets, if a text begins with the opening one. -/
def bracketed? : List Char → Option (Except UrlError (List Char))
  | '[' :: cs => if cs.getLast? = some ']' then some (.ok cs.dropLast) else some (.error .invalidIpv6)
  | _ => none

/-- Reads the address between brackets. -/
def ofBrackets (inner : Except UrlError (List Char)) : Except UrlError Host := do
  match Url.Ipv6.parse? (← inner) with
  | some pieces => return ipv6 pieces
  | none => throw .invalidIpv6

/-- Reads a domain name, or an address of four bytes. -/
def ofName (cs : List Char) : Except UrlError Host :=
  match (Url.percentDecode? cs).bind Domain.toAscii? with
  | none => .error .invalidDomain
  | some name =>
    if name = [] then .error .emptyHost
    else if Url.Ipv4.endsInNumber name then
      match Url.Ipv4.parse? name with
      | some address => .ok (ipv4 address)
      | none => .error .invalidIpv4
    else .ok (domain name)

/-- Reads the host of a URL with a special scheme. -/
def parse (cs : List Char) : Except UrlError Host :=
  match bracketed? cs with
  | some inner => ofBrackets inner
  | none => ofName cs

/-- Whether a character must not stand in the host of another scheme. -/
def isSeparator (c : Char) : Bool := c = '\x00' || "\t\n\r #/:<>?@[\\]^|".toList.contains c

/-- Checks the host of a URL with another scheme. -/
def checkPlain (cs : List Char) : Except UrlError Unit :=
  match bracketed? cs with
  | some inner => (ofBrackets inner).map fun _ => ()
  | none => if cs.any isSeparator then .error .invalidDomainCharacter else .ok ()

end Host

end Hyperlink
