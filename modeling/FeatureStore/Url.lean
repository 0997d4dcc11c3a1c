import FeatureStore.Url.HostName
import FeatureStore.Url.Path

/-!
The parts of a URL that name a server and a place on it: scheme, user, password, host, port and path.
Schemes of the web need a host and take any number of slashes before it; a file may have a host behind
two slashes, and other schemes may have none.
-/
namespace FeatureStore

structure Url where
  scheme : String
  username : String
  password : Option String
  host : Option HostName
  port : Option Nat
  path : String
  deriving DecidableEq, Repr

namespace Url

def defaultPort? (scheme : String) : Option Nat :=
  if scheme == "http" || scheme == "ws" then some 80
  else if scheme == "https" || scheme == "wss" then some 443
  else if scheme == "ftp" then some 21
  else none

def isControlOrSpace (c : Char) : Bool := c.toNat ≤ 0x20

def clean (s : List Char) : List Char :=
  let left := s.dropWhile isControlOrSpace
  let trimmed := (left.reverse.dropWhile isControlOrSpace).reverse
  trimmed.filter fun c => c != '\t' && c != '\n' && c != '\r'

def isSchemeChar (c : Char) : Bool := c.isAlphanum || c == '+' || c == '-' || c == '.'

def splitScheme (s : List Char) : Except UrlFault (String × List Char) :=
  let scheme := s.takeWhile isSchemeChar
  match scheme, s.dropWhile isSchemeChar with
  | c :: _, ':' :: rest =>
    if c.isAlpha then .ok ((String.ofList scheme).toLower, rest) else .error .noScheme
  | _, _ => .error .noScheme

def splitUser (kind : SchemeKind) (s : List Char) : Option (List Char × List Char) :=
  let authority := s.takeWhile fun c => !kind.endsAuthority c
  let rest := s.dropWhile fun c => !kind.endsAuthority c
  if authority.contains '@' then
    let host := (authority.reverse.takeWhile (· != '@')).reverse
    some (authority.take (authority.length - host.length - 1), host ++ rest)
  else none

def userOf (kind : SchemeKind) (s : List Char) :
    Except UrlFault (String × Option String × List Char) :=
  match splitUser kind s with
  | none => .ok ("", none, s)
  | some (info, rest) =>
    if info.isEmpty && rest.head?.any kind.endsAuthority then .error .emptyHost
    else
      let user := info.takeWhile (· != ':')
      let password := (info.dropWhile (· != ':')).drop 1
      let written (part : List Char) := String.ofList (Percent.encode Percent.isUserEscaped part)
      .ok (written user, if password.isEmpty then none else some (written password), rest)

def spanHost (kind : SchemeKind) : Bool → List Char → List Char × List Char
  | _, [] => ([], [])
  | inside, c :: rest =>
    if (c == ':' && !inside) || kind.endsAuthority c then ([], c :: rest)
    else
      let inside := if c == '[' then true else if c == ']' then false else inside
      let (host, more) := spanHost kind inside rest
      (c :: host, more)

def hostOf (kind : SchemeKind) (s : List Char) : Except UrlFault (Option HostName) :=
  if kind = .other then HostName.ofOther s
  else if s.isEmpty then .error .emptyHost
  else some <$> HostName.ofWeb s

def endsPort (c : Char) : Bool := c == '/' || c == '\\' || c == '?' || c == '#'

def portOf (scheme : String) : List Char → Except UrlFault (Option Nat × List Char)
  | ':' :: rest =>
    let digits := rest.takeWhile Char.isDigit
    let after := rest.dropWhile Char.isDigit
    let port := (Text.number? 10 digits).getD 0
    if 65535 < port || !after.head?.all endsPort then .error .invalidPort
    else if digits.isEmpty || some port = defaultPort? scheme then .ok (none, after)
    else .ok (some port, after)
  | s => .ok (none, s)

def ofAuthority (scheme : String) (kind : SchemeKind) (s : List Char) : Except UrlFault Url := do
  let (username, password, rest) ← userOf kind s
  let (hostText, rest) := spanHost kind false rest
  let host ← hostOf kind hostText
  if host.isNone && rest.head? = some ':' then .error .emptyHost
  let (port, rest) ← portOf scheme rest
  if host.isNone && (username != "" || password.isSome) then .error .emptyHost
  .ok ⟨scheme, username, password, host, port, UrlPath.ofText kind rest⟩

def ofPath (scheme path : String) : Url := ⟨scheme, "", none, none, none, path⟩

def ofFile (s : List Char) : Except UrlFault Url :=
  match s with
  | a :: b :: rest =>
    let host := rest.takeWhile fun c => !SchemeKind.file.endsAuthority c
    if !SchemeKind.file.isSlash a || !SchemeKind.file.isSlash b then
      .ok (ofPath "file" (UrlPath.ofText .file s))
    else if UrlPath.isDrive host then .ok (ofPath "file" (UrlPath.ofText .file rest))
    else do
      let name ← HostName.ofFile host
      .ok { ofPath "file" (UrlPath.ofText .file (rest.drop host.length)) with host := name }
  | _ => .ok (ofPath "file" (UrlPath.ofText .file s))

def ofOther (scheme : String) (s : List Char) : Except UrlFault Url :=
  match s with
  | '/' :: '/' :: rest => ofAuthority scheme .other rest
  | '/' :: _ => .ok (ofPath scheme (UrlPath.ofText .other s))
  | _ =>
    let path := Percent.encode Percent.isControlOrWide (UrlPath.pathText s)
    .ok (ofPath scheme (String.ofList path))

def parse (text : String) : Except UrlFault Url := do
  let (scheme, rest) ← splitScheme (clean text.toList)
  match SchemeKind.ofScheme scheme with
  | .web => ofAuthority scheme .web (rest.dropWhile SchemeKind.web.isSlash)
  | .file => ofFile rest
  | .other => ofOther scheme rest

end Url
end FeatureStore
