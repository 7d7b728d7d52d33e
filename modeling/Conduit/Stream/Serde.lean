import Conduit.Data.Table
import Conduit.Fault

/-!
# Serdes

A serde writes and reads the keys or the values of a stream and is told which topic they are of. It
has two halves, and both see the settings of the stream before the first record and are closed
after the last one, always the serializer first.
-/
namespace Conduit

open Text.Utf8

structure Serde (α : Type) where
  serialize : String → α → Except StreamFault Bytes
  deserialize : String → Bytes → Except StreamFault α

inductive Half where
  | serializer
  | deserializer
deriving DecidableEq, Repr

/-- What happens to a half of a serde. -/
inductive SerdeEvent where
  | configured (half : Half) (settings : Settings) (isKey : Bool)
  | used (half : Half)
  | closed (half : Half)
deriving DecidableEq

namespace Serde

def ofCodec {α : Type} (codec : Codec α) : Serde α where
  serialize _ value := .ok (codec.encode value)
  deserialize topic bytes := (codec.decode bytes).mapError (.deserialize topic)

def int : Serde Int32 := ofCodec .int

def long : Serde Int64 := ofCodec .long

def double : Serde Number.Double := ofCodec .double

def string : Serde String := ofCodec .string

def bytes : Serde Bytes := ofCodec .bytes

def row : Serde Row := ofCodec .row

def configure (settings : Settings) (isKey : Bool) : List SerdeEvent :=
  [.configured .serializer settings isKey, .configured .deserializer settings isKey]

def close : List SerdeEvent := [.closed .serializer, .closed .deserializer]

end Serde

/-- The serdes of a topic. -/
structure SerdePair (κ α : Type) where
  key : Serde κ
  value : Serde α

end Conduit
