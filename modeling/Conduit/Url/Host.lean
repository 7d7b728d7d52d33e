import Conduit.Url.Domain
import Conduit.Url.Percent

/-!
# Hosts

The host of an address is an IPv6 address in brackets, an IPv4 address or a domain. The last two are
read as a domain first, after percent decoding. Whether it is an IPv4 address is then decided by its
last label alone: once that is a number the whole host has to be an address, in one to four parts of
base ten, eight or sixteen.
-/
namespace Conduit.Url

open Text (digitsIn pieces)
open Text.Utf8

inductive Fault where
  | emptyHost
  | port
  | ipv4
  | ipv6
  | domain
deriving DecidableEq, Repr

def Fault.message : Fault → String
  | .emptyHost => "empty host"
  | .port => "invalid port number"
  | .ipv4 => "invalid IPv4 address"
  | .ipv6 => "invalid IPv6 address"
  | .domain => "invalid international domain name"

inductive Host where
  | domain (name : List Char)
  | ipv4 (value : Nat)
  | ipv6 (groups : List Nat)
deriving DecidableEq, Repr

/-- A part of an IPv4 address; a leading zero or `0x` names its base, and may stand alone. -/
def addressPart? : List Char → Option Nat
  | [] => none
  | '0' :: 'x' :: digits => digitsIn 16 digits
  | '0' :: 'X' :: digits => digitsIn 16 digits
  | '0' :: d :: digits => digitsIn 8 (d :: digits)
  | digits => digitsIn 10 digits

/-- The labels without the empty one after a final dot. -/
def labels (name : List Char) : List (List Char) :=
  let all := pieces '.' name
  if all.getLast? = some [] then all.dropLast else all

/-- The last label is a number, so the host has to be an IPv4 address. -/
def endsInNumber (name : List Char) : Bool :=
  match (labels name).getLast? with
  | none => false
  | some last => (last ≠ [] && last.all Char.isDigit) || (addressPart? last).isSome

/-- All parts but the last are single bytes; the last fills the bytes that are left. -/
def parseIpv4 (name : List Char) : Option Nat := do
  let parts ← (labels name).mapM addressPart?
  let leading := parts.dropLast
  let last ← parts.getLast?
  if parts.length ≤ 4 ∧ leading.all (· ≤ 255) ∧ last < Nat.pow 256 (5 - parts.length) then
    some (leading.foldl (fun value part => 256 * value + part) 0 *
      Nat.pow 256 (5 - parts.length) + last)
  else none

/-- A byte in decimal, without leading zeros. -/
def decimalByte? (s : List Char) : Option Nat :=
  match s with
  | [] => none
  | '0' :: _ :: _ => none
  | _ => match digitsIn 10 s with
    | some value => if value ≤ 255 then some value else none
    | none => none

/-- The two groups that a dotted address gives. -/
def dottedGroups (s : List Char) : Option (List Nat) := do
  match ← (pieces '.' s).mapM decimalByte? with
  | [a, b, c, d] => some [256 * a + b, 256 * c + d]
  | _ => none

/-- A group of one to four hexadecimal digits. -/
def group? (s : List Char) : Option Nat :=
  if s.isEmpty ∨ 4 < s.length then none else digitsIn 16 s

/-- Groups between colons, the last of which may be a dotted address. -/
def groups (dotted : Bool) : List (List Char) → Option (List Nat)
  | [] => some []
  | [last] =>
    match group? last with
    | some value => some [value]
    | none => if dotted then dottedGroups last else none
  | piece :: rest => do
    let value ← group? piece
    let others ← groups dotted rest
    return value :: others

def groupsOf (dotted : Bool) (s : List Char) : Option (List Nat) :=
  if s.isEmpty then some [] else groups dotted (pieces ':' s)

/-- The texts before and after the first double colon. -/
def aroundGap : List Char → Option (List Char × List Char)
  | ':' :: ':' :: rest => some ([], rest)
  | c :: rest => (aroundGap rest).map fun parts => (c :: parts.1, parts.2)
  | [] => none

/-- Eight groups, or fewer with a gap that stands for at least one group of zero. -/
def parseIpv6 (s : List Char) : Option (List Nat) :=
  match aroundGap s with
  | none => match groups true (pieces ':' s) with
    | some all => if all.length = 8 then some all else none
    | none => none
  | some (before, after) =>
    match groupsOf false before, groupsOf true after with
    | some left, some right =>
      if left.length + right.length ≤ 7 then
        some (left ++ List.replicate (8 - left.length - right.length) 0 ++ right)
      else none
    | _, _ => none

def parseHost (s : List Char) : Except Fault Host :=
  match s with
  | [] => .error .emptyHost
  | '[' :: inside =>
    if inside.getLast? = some ']' then
      match parseIpv6 inside.dropLast with
      | some groups => .ok (.ipv6 groups)
      | none => .error .ipv6
    else .error .ipv6
  | _ =>
    match Domain.ofBytes? (decodeBytes (encodeChars s)) with
    | none => .error .domain
    | some [] => .error .emptyHost
    | some name =>
      if endsInNumber name then
        match parseIpv4 name with
        | some value => .ok (.ipv4 value)
        | none => .error .ipv4
      else .ok (.domain name)

end Conduit.Url
