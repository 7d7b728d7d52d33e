import Conduit.Connect.Record

/-!
# Timestamps of outputs

An extractor gives the time of an output from the source record and the highest time extracted so
far in its partition, which is -1 before the first. Times are milliseconds since the epoch; a
negative one stands for none.
-/
namespace Conduit

abbrev Extractor := RawRecord → Int64 → Int64

namespace Extractor

/-- The record's own time, or that of the partition if it carries none. -/
def record : Extractor := fun record partitionTime =>
  match record.timestamp with
  | some time => if 0 ≤ time then time else partitionTime
  | none => partitionTime

/-- The time on the clock. -/
def clock (now : Int64) : Extractor := fun _ _ => now

end Extractor

end Conduit
