import FunctionHost.Http.Host
/-!
# Addresses

An address has a scheme; one with a known scheme has a host and a path that begins with a slash,
others may have anything behind the scheme.  Reading is lenient about how an address is spelled,
and `render` writes every address in one way.
-/
namespace FunctionHost

/-- **An address.** -/
structure Url where
  /-- The scheme, in small letters. -/
  scheme : String
  /-- The name before the host, as it is written. -/
  user : String := ""
  /-- The password before the host, as it is written. -/
  password : Option String := none
  /-- The host, if two slashes follow the scheme. -/
  host : Option Host := none
  /-- The port, if it is not the one that belongs to the scheme. -/
  port : Option Nat := none
  /-- The path, as it is written. -/
  path : String := ""
  /-- What follows a question mark. -/
  query : Option String := none
  /-- What follows a number sign. -/
  fragment : Option String := none
  deriving DecidableEq, Repr, Inhabited

namespace Url

/-! ## Schemes -/

/-- The ports that belong to the known schemes. -/
def knownPorts : List (String × Option Nat) := [
  ("http", some 80), ("https", some 443), ("ws", some 80), ("wss", some 443), ("ftp", some 21),
  ("file", none)]

/-- Whether a scheme is known. -/
def isKnown (scheme : String) : Bool := (knownPorts.lookup scheme).isSome

/-- The port that belongs to a scheme. -/
def defaultPort (scheme : String) : Option Nat := (knownPorts.lookup scheme).join

/-- Whether a character can be in a scheme. -/
def isSchemeChar (c : Char) : Bool := c.isAlphanum || c = '+' || c = '-' || c = '.'

/-- The scheme that characters begin with, and what follows the colon behind it. -/
def scheme? (chars : List Char) : Option (String × List Char) :=
  if chars.head?.any Char.isAlpha then
    match chars.span isSchemeChar with
    | (name, ':' :: rest) => some ((String.ofList name).toLower, rest)
    | _ => none
  else none

/-- Whether a character divides a path, given whether the scheme is known. -/
def isSlash (known : Bool) (c : Char) : Bool := c = '/' || (known && c = '\\')

/-! ## What is behind the path -/

/-- Whether a character ends a path. -/
def endsPath (c : Char) : Bool := c = '?' || c = '#'

/-- The query and the fragment that characters behind a path hold. -/
def tail (known : Bool) : List Char → Option String × Option String
  | '#' :: rest => (none, some (Percent.encode Percent.fragment rest))
  | '?' :: rest =>
    let (query, after) := rest.span (· ≠ '#')
    let set := if known then Percent.knownQuery else Percent.query
    (some (Percent.encode set query), match after with
      | '#' :: fragment => some (Percent.encode Percent.fragment fragment)
      | _ => none)
  | _ => (none, none)

/-- The address with what characters behind the path hold. -/
def withTail (u : Url) (chars : List Char) : Url :=
  let (query, fragment) := tail (isKnown u.scheme) chars
  { u with query := query, fragment := fragment }

/-! ## Paths -/

/-- Whether a segment leads out of a folder. -/
def isUp (segment : String) : Bool :=
  ["..", ".%2e", "%2e.", "%2e%2e"].contains segment.toLower

/-- Whether a segment stays in its folder. -/
def isHere (segment : String) : Bool := [".", "%2e"].contains segment.toLower

/-- Whether a segment names a drive. -/
def isDrive (segment : String) : Bool :=
  match segment.toList with
  | [letter, mark] => letter.isAlpha && (mark = ':' || mark = '|')
  | _ => false

/-- The segments without the last one, unless that names the drive. -/
def up (file : Bool) (segments : List String) : List String :=
  match segments with
  | [only] => if file && isDrive only then [only] else []
  | _ => segments.dropLast

/-- Follows segments from some other segments. -/
def follow (file : Bool) (done : List String) : List String → List String
  | [] => done
  | segment :: rest =>
    if isUp segment then
      let done := up file done
      follow file (if rest.isEmpty then done ++ [""] else done) rest
    else if isHere segment then follow file (if rest.isEmpty then done ++ [""] else done) rest
    else
      let segment :=
        if file && done.isEmpty && isDrive segment then
          String.ofList [segment.toList.headD 'c', ':']
        else segment
      follow file (done ++ [segment]) rest

/-- The segments between slashes, written as in a path. -/
def segmentsOf (known : Bool) (chars : List Char) : List String :=
  (chars.splitOnP (isSlash known)).map (Percent.encode Percent.path)

/-- Segments as a path. -/
def pathText (segments : List String) : String := "/" ++ "/".intercalate segments

/-- The address with the path that characters hold, seen from some segments, and with what is
behind it. -/
def withPath (u : Url) (done : List String) (chars : List Char) : Url :=
  let (path, after) := chars.span (!endsPath ·)
  let segments := follow (u.scheme = "file") done (segmentsOf (isKnown u.scheme) path)
  { u with path := pathText segments }.withTail after

/-- The address with what characters behind the host hold. -/
def withPathStart (u : Url) (chars : List Char) : Url :=
  match chars with
  | [] => if isKnown u.scheme then { u with path := "/" } else u
  | c :: rest =>
    if isSlash (isKnown u.scheme) c then u.withPath [] rest
    else if isKnown u.scheme || !endsPath c then u.withPath [] chars
    else u.withTail chars

/-! ## What is before the path -/

/-- The name and the password that characters before a host hold. -/
def userinfo (chars : List Char) : String × Option String :=
  let (user, rest) := chars.span (· ≠ ':')
  (Percent.encode Percent.user user, match rest with
    | _ :: c :: password => some (Percent.encode Percent.user (c :: password))
    | _ => none)

/-- The characters before and behind the last at sign. -/
def splitAtSign (chars : List Char) : Option (List Char × List Char) :=
  match chars.reverse.span (· ≠ '@') with
  | (host, _ :: user) => some (user.reverse, host.reverse)
  | (_, []) => none

/-- The characters of a host and those behind it; a colon in brackets belongs to the host. -/
def spanHost : Bool → List Char → List Char × List Char
  | _, [] => ([], [])
  | inside, c :: rest =>
    if c = ':' ∧ !inside then ([], c :: rest)
    else
      let inside := if c = '[' then true else if c = ']' then false else inside
      let (host, after) := spanHost inside rest
      (c :: host, after)

/-- The port that characters behind a host hold. -/
def portOf (scheme : String) : List Char → Except UrlFault (Option Nat)
  | [] => .ok none
  | _ :: digits =>
    if !digits.all Char.isDigit then .error .port
    else if digits.isEmpty then .ok none
    else
      let n := digits.foldl (fun n c => n * 10 + (c.toNat - 48)) 0
      if 65535 < n then .error .port
      else .ok (if defaultPort scheme = some n then none else some n)

/-- **Reads what follows two slashes.** -/
def withAuthority (u : Url) (chars : List Char) : Except UrlFault Url := do
  let known := isKnown u.scheme
  let (authority, rest) := chars.span fun c => !(isSlash known c || endsPath c)
  let (user, place) := (splitAtSign authority).getD ([], authority)
  let hasSign := (splitAtSign authority).isSome
  let (name, password) := userinfo user
  let (hostChars, portChars) := spanHost false place
  if hasSign && place.isEmpty && (known || !rest.isEmpty) then throw .emptyHost
  if known && hostChars.isEmpty then throw .emptyHost
  let host ← if known then Host.read hostChars else Host.readOpaque hostChars
  if hostChars.isEmpty && !portChars.isEmpty then throw .emptyHost
  let port ← portOf u.scheme portChars
  if hostChars.isEmpty && (name ≠ "" || password.isSome) then throw .emptyHost
  let u := { u with user := name, password := password, host := some host, port := port }
  return u.withPathStart
    rest

/-- Reads what follows the scheme of a file. -/
def fileOf (chars : List Char) : Except UrlFault Url := do
  let u : Url := { scheme := "file", host := some (.domain "") }
  match chars.span (isSlash true) with
  | (_ :: _ :: more, rest) =>
    let (host, after) := rest.span fun c => !(isSlash true c || endsPath c)
    if !more.isEmpty || host.isEmpty || isDrive (String.ofList host) then
      return u.withPathStart (more ++ rest)
    let host ← Host.read host
    let host := if host = .domain "localhost" then .domain "" else host
    return { u with host := some host }.withPathStart after
  | (slashes, rest) => return u.withPathStart (slashes ++ rest)

/-- Reads what follows a scheme. -/
def afterScheme (scheme : String) (chars : List Char) : Except UrlFault Url :=
  if scheme = "file" then fileOf chars
  else if isKnown scheme then withAuthority { scheme := scheme } (chars.dropWhile (isSlash true))
  else
    match chars with
    | '/' :: '/' :: rest => withAuthority { scheme := scheme } rest
    | '/' :: rest => .ok (withPath { scheme := scheme } [] rest)
    | chars =>
      let (path, after) := chars.span (!endsPath ·)
      .ok (withTail { scheme := scheme, path := Percent.encode Percent.controls path } after)

/-! ## Reading and writing -/

/-- The characters that count: blanks and controls around an address do not, and neither do line
ends and tabs within. -/
def characters (text : String) : List Char :=
  let isEdge (c : Char) : Bool := c.toNat ≤ 32
  let chars := ((text.toList.dropWhile isEdge).reverse.dropWhile isEdge).reverse
  chars.filter fun c => c ≠ '\t' && c ≠ '\n' && c ≠ '\r'

/-- **Reads an address.** -/
def parse (text : String) : Except UrlFault Url :=
  match scheme? (characters text) with
  | some (scheme, rest) => afterScheme scheme rest
  | none => .error .relative

/-- Reads what is relative to an address with a known scheme. -/
def relativeTo (u : Url) (chars : List Char) : Except UrlFault Url :=
  let bare : Url := { u with query := none, fragment := none }
  match chars with
  | [] => .ok { bare with query := u.query }
  | '?' :: _ => .ok (bare.withTail chars)
  | '#' :: _ => .ok { bare.withTail chars with query := u.query }
  | c :: rest =>
    if isSlash true c then
      if rest.head?.any (isSlash true) then
        withAuthority { scheme := u.scheme } (rest.dropWhile (isSlash true))
      else .ok (bare.withPath [] rest)
    else .ok (bare.withPath ((u.path.splitOn "/").drop 1).dropLast chars)

/-- **Reads an address as seen from another one** with a known scheme. -/
def resolve (u : Url) (text : String) : Except UrlFault Url :=
  let chars := characters text
  match scheme? chars with
  | none => u.relativeTo chars
  | some (scheme, rest) =>
    if scheme = u.scheme ∧ (rest.takeWhile (isSlash true)).length < 2 then u.relativeTo rest
    else afterScheme scheme rest

/-- The name and the password as a text. -/
def userinfoText (u : Url) : String :=
  let password := match u.password with
    | some password => ":" ++ password
    | none => ""
  if u.user = "" ∧ u.password.isNone then "" else u.user ++ password ++ "@"

/-- The host with the port. -/
def hostText (u : Url) : String :=
  ((u.host.map Host.render).getD "") ++ match u.port with
    | some port => ":" ++ toString port
    | none => ""

/-- What is behind the host and sent to it: the path and the query. -/
def target (u : Url) : String :=
  u.path ++ match u.query with
    | some query => "?" ++ query
    | none => ""

/-- **Writes an address.** -/
def render (u : Url) : String :=
  let authority := match u.host with
    | some _ => "//" ++ u.userinfoText ++ u.hostText
    | none => ""
  let fragment := match u.fragment with
    | some fragment => "#" ++ fragment
    | none => ""
  u.scheme ++ ":" ++ authority ++ u.target ++ fragment

end Url
end FunctionHost
