import Dialplan.Domain.Basic
import Dialplan.Error
import Dialplan.Url.Ipv6
import Dialplan.Url.Percent

/-! Hosts: what an address asks for, by name or by number. -/

namespace Dialplan

inductive Host where
  /-- A domain name in ASCII. -/
  | domain (name : List Char)
  | ipv4 (address : Ipv4)
  | ipv6 (address : Ipv6)
deriving DecidableEq

namespace Host

/-- A host in brackets is an IPv6 address; the closing bracket has to come last. -/
def parseBracketed (text : List Char) : Except AddressFault Host :=
  if text.getLast? = some ']' then
    match Ipv6.parse? text.dropLast with
    | some address => .ok (.ipv6 address)
    | none => .error .invalidIpv6
  else .error .invalidIpv6

/-- A name in ASCII is an IPv4 address if it ends in a number. -/
def ofName (name : List Char) : Except AddressFault Host :=
  if name.isEmpty then .error .emptyHost
  else if Ipv4.isMeant name then
    match Ipv4.parse? name with
    | some address => .ok (.ipv4 address)
    | none => .error .invalidIpv4
  else .ok (.domain name)

/-- A name in any script, with its escapes undone. -/
def parseName (text : List Char) : Except AddressFault Host :=
  let name := (String.fromUTF8? ⟨(Percent.decode text).toArray⟩).bind fun name =>
    Domain.toAscii? name.toList
  match name with
  | some name => ofName name
  | none => .error .invalidDomain

def parse : List Char → Except AddressFault Host
  | [] => .error .emptyHost
  | '[' :: rest => parseBracketed rest
  | text => parseName text

def render : Host → List Char
  | domain name => name
  | ipv4 address => address.render
  | ipv6 address => '[' :: address.render ++ [']']

end Host

end Dialplan
