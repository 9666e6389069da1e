import LakeCatalog.Text.Percent
import LakeCatalog.Url.Address
import LakeCatalog.Url.Domain

/-!
# Hosts

What may stand between the slashes of an address and its path.  URLs of the well-known schemes
have a domain name or a numeric address; of all other schemes the host is any text without the
characters that would end or split it.
-/

namespace LakeCatalog.Url

/-- Why a text is no URL. -/
inductive Fault where
  | relative
  | emptyHost
  | portNumber
  | ipv6
  | ipv4
  | domainName
  | hostCharacter
deriving DecidableEq, Repr

/-- The fault in words. -/
def Fault.message : Fault → String
  | .relative => "relative URL without a base"
  | .emptyHost => "empty host"
  | .portNumber => "invalid port number"
  | .ipv6 => "invalid IPv6 address"
  | .ipv4 => "invalid IPv4 address"
  | .domainName => "invalid international domain name"
  | .hostCharacter => "invalid domain character"

/-- Characters that the host of an unknown scheme must not hold. -/
def isForbidden (c : Char) : Bool :=
  ['\x00', '\t', '\n', '\r', ' ', '#', '/', ':', '<', '>', '?', '@', '[', '\\', ']', '^',
    '|'].contains c

/-- A host between brackets has to be an IPv6 address. -/
def checkBracketed (cs : List Char) : Except Fault Unit :=
  if cs.getLast? = some ']' ∧ isIpv6 (cs.drop 1).dropLast then .ok () else .error .ipv6

/-- The bytes as characters, when they are UTF-8. -/
def ofUtf8? (bytes : List UInt8) : Option (List Char) :=
  (String.fromUTF8? ⟨bytes.toArray⟩).map String.toList

/-- The host of a well-known scheme: its name as equivalent names have it in common. -/
def checkDomain (cs : List Char) : Except Fault (List Char) :=
  if cs.head? = some '[' then (checkBracketed cs).map fun _ => cs
  else
    match (ofUtf8? (Text.Percent.decode (Text.Percent.utf8 cs))).bind Domain.normalize? with
    | none => .error .domainName
    | some [] => .error .emptyHost
    | some name =>
      if endsInNumber name ∧ ipv4? name = none then .error .ipv4 else .ok name

/-- The host of any other scheme. -/
def checkOpaque (cs : List Char) : Except Fault Unit :=
  if cs.head? = some '[' then checkBracketed cs
  else if cs.any isForbidden then .error .hostCharacter
  else .ok ()

end LakeCatalog.Url
