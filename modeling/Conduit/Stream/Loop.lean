import Conduit.Stream.Basic

/-!
# Running a stream

A stream looks at its source again and again for a batch of records. It handles the records of the
batch in order, waits for the acknowledgement of each output, and commits the batch after the last
one; so a record is handled completely before the offset behind it is committed. Between batches,
and only there, it notices that it has been asked to stop, and then flushes its sink. The first
failure ends it on the spot: nothing after it is sent, committed or flushed.
-/
namespace Conduit

/-- Where a stream reads and writes: a machine whose state is its own affair. -/
structure Transport (σ : Type) where
  next : σ → Except StreamFault (List RawRecord) × σ
  send : String → Output → σ → Except StreamFault Unit × σ
  commit : List RawRecord → σ → Except StreamFault Unit × σ
  flush : σ → Except StreamFault Unit × σ

/-- Part of a run: its events, how far it got, the state of the transport, and how it ended. -/
structure Run (κ α σ ρ : Type) where
  events : List (StreamEvent κ α)
  progress : Progress
  state : σ
  ending : ρ

/-- How a run ends: by a failure, or because it was asked to stop, with what the last flush came
to. -/
inductive Ending where
  | failed (fault : StreamFault)
  | stopped (flushed : Except StreamFault Unit)

def Ending.result : Ending → Except StreamFault Unit
  | failed fault => .error fault
  | stopped flushed => flushed

namespace Run

variable {κ α σ ρ : Type}

/-- Prepends earlier events. -/
def after (earlier : List (StreamEvent κ α)) (run : Run κ α σ ρ) : Run κ α σ ρ :=
  { run with events := earlier ++ run.events }

end Run

namespace RecordStream

variable {κ α σ : Type} (stream : RecordStream κ α) (transport : Transport σ)

/-- Handles the records of a batch. -/
def runBatch : List RawRecord → Progress → σ → Run κ α σ (Except StreamFault Unit)
  | [], progress, state => ⟨[], progress, state, .ok ()⟩
  | record :: rest, progress, state =>
    let (handling, handled) := stream.process progress record
    match handling.result with
    | .error fault => ⟨handling.events, handled, state, .error fault⟩
    | .ok none => (runBatch rest handled state).after handling.events
    | .ok (some output) =>
      match transport.send stream.plan.config.toTopic output state with
      | (.error fault, next) => ⟨handling.events, handled, next, .error fault⟩
      | (.ok (), next) =>
        (runBatch rest handled.acknowledged next).after (handling.events ++ [.sent output])

/-- Runs until the stream is asked to stop, after so many looks at the source, or fails. -/
def loop : Nat → Progress → σ → Run κ α σ Ending
  | 0, progress, state =>
    let (flushed, next) := transport.flush state
    ⟨[.flushed], progress, next, .stopped flushed⟩
  | looks + 1, progress, state =>
    match transport.next state with
    | (.error fault, next) => ⟨[], progress, next, .failed fault⟩
    | (.ok [], next) => loop looks progress next
    | (.ok (first :: rest), next) =>
      let batch := stream.runBatch transport (first :: rest) progress next
      match batch.ending with
      | .error fault => ⟨batch.events, batch.progress, batch.state, .failed fault⟩
      | .ok () =>
        match transport.commit (first :: rest) batch.state with
        | (.error fault, next) => ⟨batch.events, batch.progress, next, .failed fault⟩
        | (.ok (), next) =>
          (loop looks batch.progress next).after (batch.events ++ [.committed (first :: rest)])

/-- A whole run: the serdes are configured before it and closed after it. -/
def run (looks : Nat) (state : σ) : Run κ α σ Ending :=
  let run := stream.loop transport looks .fresh state
  { run with events := stream.configure ++ run.events ++ close }

end RecordStream

/-- What stopping a stream gives: its counters, or the failure that ended it. -/
def Run.outcome {κ α σ : Type} (run : Run κ α σ Ending) : Except StreamFault StreamStats :=
  run.ending.result.map fun _ => run.progress.stats

end Conduit
