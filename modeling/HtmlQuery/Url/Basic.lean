import HtmlQuery.Url.Host

/-!
# URLs

A URL has a scheme and, depending on it, a host, a path, a query and a fragment.  A path is a list
of segments, or a text without structure where the scheme is followed by neither a slash nor a
host.
Some schemes are special: their URLs always have a host and a path of segments, and they have a
default port.
-/

namespace HtmlQuery

/-- What follows the scheme and the host. -/
inductive UrlPath where
  /-- Segments, each behind a slash. -/
  | segments (segments : List (List Char))
  /-- A text without structure. -/
  | unstructured (text : List Char)
deriving DecidableEq, Repr

/-- A URL in its parts. -/
structure Url where
  /-- The scheme, in lower case. -/
  scheme : String
  /-- The name of the user. -/
  user : List Char := []
  /-- The password of the user. -/
  password : List Char := []
  /-- The host. -/
  host : Option Url.Host := none
  /-- The port, where it is not the default one. -/
  port : Option Nat := none
  /-- The path. -/
  path : UrlPath
  /-- What follows the question mark. -/
  query : Option (List Char) := none
  /-- What follows the number sign. -/
  fragment : Option (List Char) := none
deriving DecidableEq, Repr

namespace Url

/-- Whether a scheme is special. -/
def isSpecial (scheme : String) : Bool :=
  ["http", "https", "ws", "wss", "ftp", "file"].contains scheme

/-- The port that a special scheme has if none is given. -/
def defaultPort? : String → Option Nat
  | "http" => some 80
  | "https" => some 443
  | "ws" => some 80
  | "wss" => some 443
  | "ftp" => some 21
  | _ => none

/-- Whether the URL has a path without structure. -/
def isUnstructured (u : Url) : Bool :=
  match u.path with
  | .unstructured _ => true
  | .segments _ => false

/-- The segments of the path. -/
def segments (u : Url) : List (List Char) :=
  match u.path with
  | .segments segments => segments
  | .unstructured _ => []

/-- The user and the password as they stand before the host. -/
def printUser (u : Url) : List Char :=
  if u.user.isEmpty && u.password.isEmpty then []
  else u.user ++ (if u.password.isEmpty then [] else ':' :: u.password) ++ ['@']

/-- The host with what belongs to it.  A path that would be read as a host is kept apart. -/
def printHost (u : Url) : List Char :=
  match u.host, u.path with
  | some host, _ =>
    let port :=
      match u.port with
      | some port => ':' :: Nat.toDigits 10 port
      | none => []
    ['/', '/'] ++ u.printUser ++ host.print ++ port
  | none, .segments ([] :: _ :: _) => ['/', '.']
  | none, _ => []

/-- The path as a text. -/
def printPath (u : Url) : List Char :=
  match u.path with
  | .segments segments => segments.flatMap ('/' :: ·)
  | .unstructured text => text

/-- The URL as a text. -/
def print (u : Url) : String :=
  let query := (u.query.map ('?' :: ·)).getD []
  let fragment := (u.fragment.map ('#' :: ·)).getD []
  u.scheme ++ ":" ++ String.ofList (u.printHost ++ u.printPath ++ query ++ fragment)

end Url

end HtmlQuery
