import FeatureStore.DomainName.Name
import FeatureStore.Url.Address
import FeatureStore.Url.Fault
import FeatureStore.Url.Percent

/-!
Names of servers in URLs. On the web a name is a domain name or a numeric address; the hosts of other
schemes are kept as they are written.
-/
namespace FeatureStore

inductive HostName where
  | name (text : String)
  | ipv4 (number : UInt32)
  | ipv6 (groups : List Nat)
  deriving DecidableEq, Repr

namespace HostName

def bracketed (s : List Char) : Except UrlFault HostName :=
  if s.getLast? = some ']' then ((Address.ipv6? s.dropLast).map ipv6).elim (.error .invalidIpv6) .ok
  else .error .invalidIpv6

def ofDomain (s : List Char) : Except UrlFault HostName :=
  match (Percent.decodeText? s).bind fun t => DomainName.toAscii? t.toList with
  | none => .error .invalidDomainName
  | some [] => .error .emptyHost
  | some labels =>
    if Address.isNumeric labels then ((Address.ipv4? labels).map ipv4).elim (.error .invalidIpv4) .ok
    else .ok (.name (String.ofList labels))

def ofWeb : List Char → Except UrlFault HostName
  | '[' :: rest => bracketed rest
  | s => ofDomain s

def isForbidden (c : Char) : Bool := "\x00 #/:<>?@[\\]^|".toList.contains c

def ofOther : List Char → Except UrlFault (Option HostName)
  | [] => .ok none
  | '[' :: rest => some <$> bracketed rest
  | s =>
    if s.any isForbidden then .error .invalidDomainCharacter
    else .ok (some (.name (String.ofList (Percent.encode Percent.isControlOrWide s))))

def ofFile (s : List Char) : Except UrlFault (Option HostName) :=
  if s.isEmpty then .ok none
  else do
    let host ← ofWeb s
    if host = .name "localhost" then .ok none else .ok (some host)

end HostName
end FeatureStore
