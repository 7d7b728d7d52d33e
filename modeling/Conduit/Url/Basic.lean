import Conduit.Url.Host
import Conduit.Url.Path

/-!
# Addresses of HTTP servers

An address has a scheme, an authority and a path with perhaps a query. Slashes and backslashes mean
the same in it, any number of them may follow the scheme, tabs and line ends are dropped wherever
they stand, and so are blanks and controls around the whole. The authority ends at the first slash,
question mark or number sign; what stands before its last at sign names a user and is no part of
the host. The host is checked before the port.
-/
namespace Conduit

structure Url where
  secure : Bool
  host : Url.Host
  port : Option Nat
  path : Url.Path
  query : Option (List Char)
deriving DecidableEq, Repr

namespace Url

def isControlOrBlank (c : Char) : Bool := c.toNat ≤ 0x20

/-- The text without controls and blanks around it and without tabs and line ends in it. -/
def tidy (s : List Char) : List Char :=
  Path.cleaned ((s.dropWhile isControlOrBlank).reverse.dropWhile isControlOrBlank).reverse

def isSlash (c : Char) : Bool := c = '/' || c = '\\'

def endsAuthority (c : Char) : Bool := isSlash c || c = '?' || c = '#'

/-- What follows the last at sign. -/
def afterUser (authority : List Char) : List Char :=
  (authority.reverse.takeWhile (· ≠ '@')).reverse

/-- The host up to the first colon outside brackets, and the rest. -/
def splitPort : Bool → List Char → List Char × List Char
  | _, [] => ([], [])
  | inside, c :: rest =>
    if c = ':' ∧ !inside then ([], c :: rest)
    else
      let bracketed := if c = '[' then true else if c = ']' then false else inside
      let (host, port) := splitPort bracketed rest
      (c :: host, port)

/-- The port after a colon; it may be left out. -/
def parsePort : List Char → Except Fault (Option Nat)
  | [] => .ok none
  | [_] => .ok none
  | _ :: digits =>
    match Text.digitsIn 10 digits with
    | some value => if value ≤ 65535 then .ok (some value) else .error .port
    | none => .error .port

/-- The written segments of a path, without the slash that opens it. -/
def segments (s : List Char) : List (List Char) :=
  Text.pieces '/' (s.map fun c => if c = '\\' then '/' else c)

def parsePath (s : List Char) : Path :=
  match s with
  | [] => [[]]
  | c :: rest => Path.resolve [] (segments (if isSlash c then rest else c :: rest))

/-- What follows the scheme and its colon. -/
def parseRest (secure : Bool) (s : List Char) : Except Fault Url := do
  let s := s.dropWhile isSlash
  let authority := s.takeWhile fun c => !endsAuthority c
  let (hostText, portText) := splitPort false (afterUser authority)
  let host ← parseHost hostText
  let port ← parsePort portText
  let rest := (s.drop authority.length).takeWhile (· ≠ '#')
  let path := rest.takeWhile (· ≠ '?')
  let query := match rest.drop path.length with
    | [] => none
    | _ :: query => some (encode reservedInQuery query)
  return ⟨secure, host, port, parsePath path, query⟩

/-- An address with one of the two schemes; no other text is an address here. -/
def parse (s : List Char) : Except Fault Url :=
  match tidy s with
  | 'h' :: 't' :: 't' :: 'p' :: ':' :: rest => parseRest false rest
  | 'h' :: 't' :: 't' :: 'p' :: 's' :: ':' :: rest => parseRest true rest
  | _ => .error .emptyHost

/-- The port that is connected to. -/
def effectivePort (url : Url) : Nat := url.port.getD (if url.secure then 443 else 80)

/-- Path and query, as a request names its target. -/
def target (url : Url) : String :=
  String.ofList (url.path.chars ++ match url.query with
    | none => []
    | some query => '?' :: query)

end Url

end Conduit
