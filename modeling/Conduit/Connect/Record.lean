import Conduit.Fault
import Conduit.Row.Tagged

/-!
# Records of connectors

A source task emits rows for topics; a sink task receives rows from them. A source record needs a
topic and a row, asked for in this order. A delivered record without a value has no row and is no
sink record.
-/
namespace Conduit

structure SourceRecord where
  topic : String
  row : Row
  partition : Option Int32
  timestamp : Option Int64

open Json.Writable (write) in
instance : Json.Writable SourceRecord := ⟨fun record => .ofMembers
  [("topic", write record.topic), ("row", write record.row), ("partition", write record.partition),
    ("timestamp", write record.timestamp)]⟩

/-- One setting of a source record; later ones replace earlier ones. -/
inductive SourceSetting where
  | topic (topic : String)
  | row (row : Row)
  | partition (partition : Int32)
  | timestamp (timestamp : Int64)

open Json.Arguments (one) in
instance : Json.Readable SourceSetting := ⟨Json.call
  [("topic", one .topic), ("row", one .row), ("partition", one .partition),
    ("timestamp", one .timestamp)]⟩

structure SourceDraft where
  topic : Option String
  row : Option Row
  partition : Option Int32
  timestamp : Option Int64

namespace SourceDraft

def empty : SourceDraft := ⟨none, none, none, none⟩

def apply (draft : SourceDraft) : SourceSetting → SourceDraft
  | .topic topic => { draft with topic := some topic }
  | .row row => { draft with row := some row }
  | .partition part => { draft with partition := some part }
  | .timestamp timestamp => { draft with timestamp := some timestamp }

def build (draft : SourceDraft) : Except Fault SourceRecord :=
  match draft.topic, draft.row with
  | none, _ => .error (.config .recordTopic)
  | some _, none => .error (.config .recordRow)
  | some topic, some row => .ok ⟨topic, row, draft.partition, draft.timestamp⟩

end SourceDraft

namespace SourceRecord

def of (topic : String) (row : Row) : SourceRecord := ⟨topic, row, none, none⟩

def build (settings : List SourceSetting) : Except Fault SourceRecord :=
  (settings.foldl SourceDraft.apply .empty).build

end SourceRecord

/-- A record as it is read from a topic, its key and value decoded. -/
structure Record (κ α : Type) where
  topic : String
  partition : Int32
  offset : Int64
  timestamp : Option Int64
  key : Option κ
  value : Option α
  headers : List (String × Text.Utf8.Bytes)

/-- Orders records by topic, partition and offset. -/
def Record.atOrBefore {κ α : Type} (a b : Record κ α) : Bool :=
  a.topic < b.topic || a.topic == b.topic &&
    (a.partition < b.partition || a.partition == b.partition && a.offset ≤ b.offset)

/-- A record whose key and value are still bytes. -/
abbrev RawRecord := Record Text.Utf8.Bytes Text.Utf8.Bytes

structure SinkRecord where
  topic : String
  row : Row
  partition : Int32
  offset : Int64
  timestamp : Option Int64

open Json.Writable (write) in
instance : Json.Writable SinkRecord := ⟨fun record => .ofMembers
  [("topic", write record.topic), ("row", write record.row), ("partition", write record.partition),
    ("offset", write record.offset), ("timestamp", write record.timestamp)]⟩

def SinkRecord.ofRecord {κ : Type} (record : Record κ Row) : Except Fault SinkRecord :=
  match record.value with
  | some row => .ok ⟨record.topic, row, record.partition, record.offset, record.timestamp⟩
  | none => .error (.connector (.noRow record.topic record.partition.toInt record.offset.toInt))

end Conduit
