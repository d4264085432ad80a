import NodeScaler.Http.Host

/-!
# Addresses of requests

An address is read leniently and kept in its written form: blanks and controls at its ends
and line breaks inside are dropped, a backslash counts as a slash, `.` and `..` in the path
are resolved, and characters that may not stand in a part are percent-encoded. A percent
sign is never encoded again. A user in front of the host is not part of what is requested;
it is kept apart. If the bytes of the user's name are not UTF-8, no user is there, and what
is in front of the host stays in the address.
-/

namespace NodeScaler

/-- The schemes of addresses that can be requested. -/
inductive Scheme where
  /-- Without encryption. -/
  | http
  /-- With encryption. -/
  | https
deriving DecidableEq, Repr

namespace Scheme

/-- The name of a scheme. -/
def name : Scheme → String
  | http => "http"
  | https => "https"

/-- The port of a scheme, unless an address names another. -/
def port : Scheme → Nat
  | http => 80
  | https => 443

/-- The scheme of a name, in any case. -/
def ofName? (name : List Char) : Option Scheme :=
  match String.ofList (name.map Char.toLower) with
  | "http" => some http
  | "https" => some https
  | _ => none

end Scheme

/-- An address. -/
structure Url where
  /-- The scheme. -/
  scheme : Scheme
  /-- The user in front of the host, with a password if there is one. -/
  user : Option (String × Option String)
  /-- What is in front of the host in its written form, if it is no user. -/
  unread : Option String
  /-- The host. -/
  host : String
  /-- The port, unless it is the scheme's own. -/
  port : Option Nat
  /-- The segments of the path. -/
  path : List String
  /-- What is behind the question mark, if there is one. -/
  query : Option String
  /-- What is behind the number sign, if there is one. -/
  fragment : Option String
deriving DecidableEq, Repr

namespace Url

/-! ## Characters -/

/-- A printing ASCII character other than the space. -/
def isVisible (c : Char) : Bool := 0x20 < c.toNat && c.toNat < 0x7F

/-- The character may stand in a fragment as it is. -/
def isPlainInFragment (c : Char) : Bool :=
  isVisible c && !(['"', '<', '>', '\x60'].contains c)

/-- The character may stand in a segment of a path as it is. -/
def isPlainInPath (c : Char) : Bool :=
  isPlainInFragment c && !(['#', '?', '\x7b', '\x7d'].contains c)

/-- The character may stand in a query as it is. -/
def isPlainInQuery (c : Char) : Bool :=
  isVisible c && !(['"', '#', '<', '>', '\''].contains c)

/-- The character may stand in front of the host as it is. -/
def isPlainInUser (c : Char) : Bool :=
  isPlainInPath c && !(['/', ':', ';', '=', '@', '[', '\\', ']', '^', '|'].contains c)

/-- A slash, or a backslash, which counts as one. -/
def isSlash (c : Char) : Bool := c == '/' || c == '\\'

/-- A character that ends the host and the port. -/
def endsAuthority (c : Char) : Bool := isSlash c || c == '?' || c == '#'

/-! ## Reading -/

/-- The text without controls and spaces at its ends, and without line breaks and tabs. -/
def cleaned (cs : List Char) : List Char :=
  let isEdge (c : Char) : Bool := c.toNat ≤ 0x20
  (((cs.dropWhile isEdge).reverse.dropWhile isEdge).reverse).filter fun c =>
    c != '\t' && c != '\n' && c != '\r'

/-- The scheme, and what follows its colon. -/
def readScheme? (cs : List Char) : Option (Scheme × List Char) :=
  match cs.dropWhile (· ≠ ':') with
  | [] => none
  | _ :: rest => (Scheme.ofName? (cs.takeWhile (· ≠ ':'))).map (·, rest)

/-- The parts before and after the last `@`, if there is one. -/
def cutUser (cs : List Char) : Option (List Char) × List Char :=
  if cs.contains '@' then
    let host := (cs.reverse.takeWhile (· ≠ '@')).reverse
    (some (cs.take (cs.length - host.length - 1)), host)
  else (none, cs)

/-- The name and the password in front of the `@`; an empty password counts as none. -/
def cutPassword (cs : List Char) : List Char × Option (List Char) :=
  let password := (cs.dropWhile (· ≠ ':')).drop 1
  (cs.takeWhile (· ≠ ':'), if password.isEmpty then none else some password)

/-- The user and the password of what is in front of the `@`. A password whose bytes are not
UTF-8 counts as none, and no name without a password is no user. -/
def readUser? (cs : List Char) : Option (String × Option String) := do
  let (name, password) := cutPassword cs
  let name ← Percent.decodedText? name
  let password := password.bind Percent.decodedText?
  if name = "" ∧ password = none then none else some (name, password)

/-- The written form of what is in front of the `@`, unless it is nothing or a user. -/
def unreadText? (cs : List Char) : Option String :=
  let (name, password) := cutPassword cs
  if (readUser? cs).isSome || name.isEmpty && password.isNone then none
  else some (String.ofList (Percent.encode isPlainInUser name ++ (match password with
    | some password => ':' :: Percent.encode isPlainInUser password
    | none => [])))

/-- The parts before and after the colon that is not in brackets. -/
def cutPort : Bool → List Char → List Char × List Char
  | _, [] => ([], [])
  | inBrackets, c :: rest =>
    if c = ':' ∧ !inBrackets then ([], rest)
    else
      let inside := if c = '[' then true else if c = ']' then false else inBrackets
      let (host, port) := cutPort inside rest
      (c :: host, port)

/-- A port: none, the scheme's own, or another up to 65535. -/
def readPort? (scheme : Scheme) (cs : List Char) : Option (Option Nat) :=
  if cs.isEmpty then some none
  else do
    let number ← Host.number? 10 cs
    if 65535 < number then none
    else if number = scheme.port then some none
    else some (some number)

/-- The segment is a point, one way or another of writing it. -/
def isSingleDot (segment : List Char) : Bool :=
  let lower := segment.map Char.toLower
  lower == ['.'] || lower == ['%', '2', 'e']

/-- The segment is two points, one way or another of writing them. -/
def isDoubleDot (segment : List Char) : Bool :=
  match segment.map Char.toLower with
  | '.' :: rest => isSingleDot rest
  | '%' :: '2' :: 'e' :: rest => isSingleDot rest
  | _ => false

/-- The parts of a path between slashes. -/
def splitPath : List Char → List (List Char)
  | [] => [[]]
  | c :: rest =>
    match splitPath rest with
    | [] => [[c]]
    | first :: others => if isSlash c then [] :: first :: others else (c :: first) :: others

/-- The segment names a drive: a letter and a colon or a bar. -/
def isDrive : List Char → Bool
  | [letter, mark] => letter.isAlpha && (mark == ':' || mark == '|')
  | _ => false

/-- The segments in front without the nearest, which comes first; a drive is never left. -/
def goBack : List (List Char) → List (List Char)
  | [] => []
  | nearest :: front => if isDrive nearest then nearest :: front else front

/-- Puts segments behind those in front, the nearest of which comes first. One point stays
where it is, two points go back by one segment, and at the end of the path both leave an
empty segment. -/
def resolve : List (List Char) → List (List Char) → List (List Char)
  | front, [] => front.reverse
  | front, segment :: rest =>
    let front := if isDoubleDot segment then goBack front else front
    if isSingleDot segment || isDoubleDot segment then
      resolve (if rest.isEmpty then [] :: front else front) rest
    else resolve (Percent.encode isPlainInPath segment :: front) rest

/-- The segments of a path; there is at least one. -/
def readPath (cs : List Char) : List String :=
  match cs with
  | [] => [""]
  | _ :: rest => (resolve [] (splitPath rest)).map String.ofList

/-- Reads an address. -/
def parse? (text : String) : Option Url := do
  let (scheme, cs) ← readScheme? (cleaned text.toList)
  let cs := cs.dropWhile isSlash
  let (user, authority) := cutUser (cs.takeWhile (!endsAuthority ·))
  let (host, port) := cutPort false authority
  let cs := cs.dropWhile (!endsAuthority ·)
  let path := cs.takeWhile fun c => c != '?' && c != '#'
  let cs := cs.dropWhile fun c => c != '?' && c != '#'
  let query := match cs with
    | '?' :: rest =>
      some (String.ofList (Percent.encode isPlainInQuery (rest.takeWhile (· ≠ '#'))))
    | _ => none
  let fragment := match cs.dropWhile (· ≠ '#') with
    | _ :: rest => some (String.ofList (Percent.encode isPlainInFragment rest))
    | [] => none
  return {
    scheme, query, fragment
    user := user.bind readUser?
    unread := user.bind unreadText?
    host := ← Host.read? host
    port := ← readPort? scheme port
    path := readPath path }

/-! ## Writing -/

/-- Adds fields behind those that the query has. -/
def withFields (pairs : List (String × String)) (url : Url) : Url :=
  if pairs.isEmpty then url
  else
    let added := String.ofList (Percent.fields pairs)
    { url with query := some (match url.query with
        | none | some "" => added
        | some given => given ++ "&" ++ added) }

/-- The path in one piece. -/
def pathText (url : Url) : String := "/" ++ "/".intercalate url.path

/-- What a request asks the host for: the path and the query. -/
def target (url : Url) : String :=
  url.pathText ++ (match url.query with
    | some query => "?" ++ query
    | none => "")

/-- The host with its port. -/
def authority (url : Url) : String :=
  url.host ++ (match url.port with
    | some port => ":" ++ toString port
    | none => "")

/-- The address in one piece, without a user. -/
def text (url : Url) : String :=
  url.scheme.name ++ "://" ++ (match url.unread with
    | some unread => unread ++ "@"
    | none => "") ++ url.authority ++ url.target ++ (match url.fragment with
    | some fragment => "#" ++ fragment
    | none => "")

/-- A request can be made of the address. A few characters that may stand in a host may not
stand in a request, and an address has fewer than 65535 bytes there. -/
def isRequestable (url : Url) : Bool :=
  (url.host.toList.all fun c => !(['"', '\x60', '\x7b', '\x7d'].contains c)) &&
    url.text.utf8ByteSize < 65535

end Url

end NodeScaler
