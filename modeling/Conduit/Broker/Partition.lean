import Conduit.Text.Utf8

/-!
# Partitions

A topic is a number of partitions, each a log of its own. Partitions are ordered by topic and then
by number. A record that names no partition goes where its key points, by one of several sums over
the key, so equal keys share a partition. Where any partition will do the first is taken.
-/
namespace Conduit

open Text.Utf8

structure TopicPartition where
  topic : String
  index : Int32
deriving DecidableEq, Repr

namespace TopicPartition

instance : Ord TopicPartition := ⟨compareLex (compareOn topic) (compareOn index)⟩

instance : Std.TransOrd TopicPartition :=
  inferInstanceAs (Std.TransCmp (compareLex (compareOn topic) (compareOn index)))

instance : Std.LawfulEqOrd TopicPartition where
  eq_of_compare {a b} same := by
    have both : compare a.topic b.topic = .eq ∧ compare a.index b.index = .eq :=
      compareLex_eq_eq.mp same
    cases a
    cases b
    simp only [TopicPartition.mk.injEq]
    exact ⟨Std.LawfulEqOrd.eq_of_compare both.1, Std.LawfulEqOrd.eq_of_compare both.2⟩

end TopicPartition

/-- One bit of the check sum, lowest bit first. -/
def checkSumBit (sum : UInt32) : UInt32 :=
  if sum &&& 1 = 1 then (sum >>> 1) ^^^ 0xEDB88320 else sum >>> 1

def checkSumByte (sum : UInt32) (byte : UInt8) : UInt32 :=
  (List.range 8).foldl (fun sum _ => checkSumBit sum) (sum ^^^ byte.toUInt32)

/-- The 32-bit cyclic check sum of bytes. -/
def checkSum (bytes : Bytes) : UInt32 := bytes.foldl checkSumByte 0xFFFFFFFF ^^^ 0xFFFFFFFF

/-- An odd factor that spreads the bits of a word. -/
def spread : UInt32 := 0x5BD1E995

/-- Mixes a word of a key into a sum. -/
def mixWord (sum word : UInt32) : UInt32 :=
  let scaled := word * spread
  (sum * spread) ^^^ ((scaled ^^^ (scaled >>> 24)) * spread)

/-- A word of bytes, lowest byte first. -/
def wordOf (bytes : Bytes) : UInt32 := bytes.foldr (fun b word => (word <<< 8) ||| b.toUInt32) 0

/-- Mixes a key into a sum, four bytes at a time; what is left over is mixed in less well. -/
def mix (sum : UInt32) : Bytes → UInt32
  | a :: b :: c :: d :: rest => mix (mixWord sum (wordOf [a, b, c, d])) rest
  | [] => sum
  | rest => (sum ^^^ wordOf rest) * spread

/-- A sum whose every bit depends on every bit of the key. -/
def mixedSum (bytes : Bytes) : UInt32 :=
  let mixed := mix (0x9747B28C ^^^ UInt32.ofNat bytes.length) bytes
  let once := (mixed ^^^ (mixed >>> 13)) * spread
  once ^^^ (once >>> 15)

/-- A sum by multiplication, its magnitude if it is taken for negative. -/
def multipliedSum (bytes : Bytes) : UInt32 :=
  let sum := bytes.foldl (fun sum b => (sum ^^^ b.toUInt32) * 0x01000193) 0x811C9DC5
  if sum < 0x80000000 then sum else 0 - sum

/-- How the partition of a record follows from its key. -/
inductive Partitioner where
  | anywhere
  | check
  /-- Anywhere without a key, and with an empty one. -/
  | checkKey
  | mixed
  /-- Anywhere without a key. -/
  | mixedKey
  | multiplied
  /-- Anywhere without a key. -/
  | multipliedKey
deriving DecidableEq, Repr

namespace Partitioner

/-- The names by which settings ask for partitioners. -/
def names : List (String × Partitioner) :=
  [("random", anywhere), ("consistent", check), ("consistent_random", checkKey), ("murmur2", mixed),
   ("murmur2_random", mixedKey), ("fnv1a", multiplied), ("fnv1a_random", multipliedKey)]

/-- The partition for a key, among so many. -/
def partitionFor (partitioner : Partitioner) (key : Option Bytes) (count : Nat) : Nat :=
  let bytes := key.getD []
  match partitioner with
  | anywhere => 0
  | check => (checkSum bytes).toNat % count
  | checkKey => if bytes.isEmpty then 0 else (checkSum bytes).toNat % count
  | mixed => (mixedSum bytes &&& 0x7FFFFFFF).toNat % count
  | mixedKey => if key.isNone then 0 else (mixedSum bytes &&& 0x7FFFFFFF).toNat % count
  | multiplied => (multipliedSum bytes).toNat % count
  | multipliedKey => if key.isNone then 0 else (multipliedSum bytes).toNat % count

end Partitioner

end Conduit
