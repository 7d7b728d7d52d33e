/-!
# Names beyond ASCII spelled in ASCII

A label that starts with `xn--` spells its characters beyond ASCII as distances between insertions,
in numerals of base 36 whose digit thresholds adapt to the distances seen before. The characters
before the last hyphen stand for themselves; a hyphen at the very start is no digit, but it does not
end anything either. Reading stops at the first character that is no digit, at the end of a numeral
that is cut off and at numbers that do not fit 32 bits.
-/
namespace Conduit.Url.Punycode

def digit? (c : Char) : Option Nat :=
  if 'a' ≤ c ∧ c ≤ 'z' then some (c.toNat - 'a'.toNat)
  else if 'A' ≤ c ∧ c ≤ 'Z' then some (c.toNat - 'A'.toNat)
  else if '0' ≤ c ∧ c ≤ '9' then some (c.toNat - '0'.toNat + 26)
  else none

def threshold (place bias : Nat) : Nat :=
  if place ≤ bias then 1 else if bias + 26 ≤ place then 26 else place - bias

/-- Scales a distance down to at most 455 and counts the steps; the fuel is the distance. -/
def settle : Nat → Nat → Nat → Nat
  | 0, delta, bias => bias + 36 * delta / (delta + 38)
  | fuel + 1, delta, bias =>
    if 455 < delta then settle fuel (delta / 35) (bias + 36) else bias + 36 * delta / (delta + 38)

def adapt (delta count : Nat) (isFirst : Bool) : Nat :=
  let scaled := if isFirst then delta / 700 else delta / 2
  let spread := scaled + scaled / count
  settle spread spread 0

/-- The state between two numerals and inside one. -/
structure Progress where
  text : List Char
  point : Nat
  position : Nat
  bias : Nat
  /-- The start position, weight and place of the numeral that is being read. -/
  reading : Option (Nat × Nat × Nat)

def step (p : Progress) (c : Char) : Option Progress := do
  let d ← digit? c
  let (start, weight, place) := p.reading.getD (p.position, 1, 36)
  let position := p.position + d * weight
  let t := threshold place p.bias
  if Nat.pow 2 32 ≤ position then none
  else if d < t then
    let count := p.text.length + 1
    let point := p.point + position / count
    let index := position % count
    if point < 0x80 ∨ 0x110000 ≤ point ∨ (0xD800 ≤ point ∧ point < 0xE000) then none
    else
      some ⟨p.text.take index ++ Char.ofNat point :: p.text.drop index, point, index + 1,
        adapt (position - start) count (start = 0), none⟩
  else if Nat.pow 2 32 ≤ weight * (36 - t) then none
  else some { p with position := position, reading := some (start, weight * (36 - t), place + 36) }

/-- The label without its mark, as the characters before the last hyphen and the numerals after
it. -/
def decode (label : List Char) : Option (List Char) := do
  let reversed := label.reverse
  let numerals := (reversed.takeWhile (· ≠ '-')).reverse
  let basic := (reversed.drop (numerals.length + 1)).reverse
  let finished ← (if basic = [] then label else numerals).foldlM step ⟨basic, 0x80, 0, 72, none⟩
  if finished.reading.isNone then some finished.text else none

end Conduit.Url.Punycode
