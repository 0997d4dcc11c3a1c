import FeatureStore.Url.Percent

/-!
Paths of URLs. The pieces between the slashes are taken from left to right: one point stands for the
place where it is, two points climb to the place above.
-/
namespace FeatureStore

inductive SchemeKind where
  | web
  | file
  | other
  deriving DecidableEq, Repr

namespace SchemeKind

def ofScheme (scheme : String) : SchemeKind :=
  if ["http", "https", "ws", "wss", "ftp"].contains scheme then web
  else if scheme = "file" then file
  else other

def isSlash (kind : SchemeKind) (c : Char) : Bool := c == '/' || (c == '\\' && kind != other)

def endsAuthority (kind : SchemeKind) (c : Char) : Bool := kind.isSlash c || c == '?' || c == '#'

end SchemeKind

namespace UrlPath

def isDrive : List Char → Bool
  | [letter, mark] => letter.isAlpha && (mark == ':' || mark == '|')
  | _ => false

def plainPoints : List Char → List Char
  | '%' :: '2' :: 'e' :: rest => '.' :: plainPoints rest
  | '%' :: '2' :: 'E' :: rest => '.' :: plainPoints rest
  | c :: rest => c :: plainPoints rest
  | [] => []

def isHere (piece : List Char) : Bool := plainPoints piece = ['.']

def isAbove (piece : List Char) : Bool := plainPoints piece = ['.', '.']

def climb : List (List Char) → List (List Char)
  | [] => []
  | piece :: above => if isDrive (piece.takeWhile (· != '\\')) then piece :: above else above

def settle (kind : SchemeKind) (kept : List (List Char)) (piece : List Char) : List Char :=
  if kind = .file && kept.isEmpty && isDrive piece then piece.take 1 ++ [':'] else piece

def written (kept : List (List Char)) : List Char := '/' :: kept.reverse.flatMap (· ++ ['/'])

def walk (kind : SchemeKind) (kept : List (List Char)) : List (List Char) → List Char
  | [] => written kept
  | piece :: rest =>
    if isAbove piece then walk kind (climb kept) rest
    else if isHere piece then walk kind kept rest
    else if rest.isEmpty then written kept ++ settle kind kept piece
    else walk kind (settle kind kept piece :: kept) rest

def pathText (s : List Char) : List Char := s.takeWhile fun c => c != '?' && c != '#'

def ofText (kind : SchemeKind) (s : List Char) : String :=
  let text := Percent.encode Percent.isPathEscaped (pathText s)
  match text with
  | [] => if kind = .other then "" else "/"
  | c :: rest =>
    let path := walk kind [] ((if kind.isSlash c then rest else c :: rest).splitOnP kind.isSlash)
    String.ofList (if kind = .file then '/' :: path.dropWhile (· == '/') else path)

end UrlPath
end FeatureStore
