import Conduit.Proofs.Broker.Joining

/-!
# A producer with servers alone

A producer for which nothing is set but its servers can be built if these are not blank and hold no
zero character. All that it sets by itself goes together.
-/
namespace Conduit

namespace ClientConfig

/-- The settings of a producer that waits for all acknowledgements, half a minute at most. -/
def ofWriter (servers : String) : ClientConfig := ⟨.ofList
  [("request.required.acks", .integer (-1)), ("metadata.broker.list", .text (some servers)),
    ("message.timeout.ms", .integer 30000)]⟩

theorem find?_ofWriter (servers name : String) :
    (ofWriter servers).values.find? name =
      if name = "message.timeout.ms" then some (.integer 30000)
      else if name = "metadata.broker.list" then some (.text (some servers))
      else if name = "request.required.acks" then some (.integer (-1))
      else none := by
  simp only [ofWriter, Table.ofList, List.foldl_cons, List.foldl_nil, Table.find?_insert,
    beq_iff_eq]
  rfl

theorem conflicts_ofWriter (servers : String) :
    ((ofWriter servers).conflicts .producer).find? (·.1) = none := by
  have unset : (ofWriter servers).text? "partition.assignment.strategy" = none := by
    simp [text?, find?, find?_ofWriter]
  simp [conflicts, strategyConflicts_of_unset unset, producerConflicts, topicConflicts,
    reconnectConflict, proofConflicts, isTransactional, isIdempotent, lingersTooLong, integer,
    truth, name?, text?, find?, find?_ofWriter]

/-- What a producer sets by itself. -/
def writerSettings (brokers : String) : Settings := .ofList
  [(serversKey, brokers), ("acks", Acks.all.text), ("message.timeout.ms", "30000")]

theorem entries_writerSettings (brokers : String) : (writerSettings brokers).entries =
    [("acks", "all"), ("bootstrap.servers", brokers), ("message.timeout.ms", "30000")] := by
  have c1 : compare "acks" "bootstrap.servers" = .lt := by decide +kernel
  have c2 : compare "message.timeout.ms" "acks" = .gt := by decide +kernel
  have c3 : compare "message.timeout.ms" "bootstrap.servers" = .gt := by decide +kernel
  simp only [writerSettings, Table.ofList, Table.insert, Table.insertEntry, Table.empty, serversKey,
    Acks.text, List.foldl_cons, List.foldl_nil, c1, c2, c3]

theorem ofSettings_writerSettings {brokers : String} (present : brokers ≠ "") :
    ofSettings (writerSettings brokers) =
      if hasZero brokers then .error .zero else .ok (ofWriter (stripped brokers)) := by
  have waits (config : ClientConfig) : config.add "acks" "all" =
      .ok ⟨config.values.insert "request.required.acks" (.integer (-1))⟩ :=
    add_of_read ⟨"request.required.acks", .integer (-1) 1000 [("all", -1)]⟩ (by decide) (by decide)
      (by decide +kernel) (by decide +kernel)
  have ends (config : ClientConfig) : config.add "message.timeout.ms" "30000" =
      .ok ⟨config.values.insert "message.timeout.ms" (.integer 30000)⟩ :=
    add_of_read ⟨"message.timeout.ms", .integer 0 Property.wordLimit []⟩ (by decide) (by decide)
      (by decide +kernel) (by decide +kernel)
  rw [ofSettings, entries_writerSettings]
  split
  next zero =>
    have refused (config : ClientConfig) :
        config.add "bootstrap.servers" brokers = .error .zero := by
      simp only [add, zero, Bool.or_true, if_true]
      rfl
    simp only [List.foldlM_cons, waits, refused, bind, Except.bind]
  next clean =>
    have connects (config : ClientConfig) : config.add "bootstrap.servers" brokers =
        .ok ⟨config.values.insert "metadata.broker.list" (.text (some (stripped brokers)))⟩ :=
      add_of_read ⟨"metadata.broker.list", .text .any⟩ (by decide) (by simpa using clean)
      (by decide +kernel)
        (read_text present)
    simp only [List.foldlM_cons, List.foldlM_nil, waits, connects, ends, bind, Except.bind]
    rfl

end ClientConfig

namespace ProducerDraft

variable {κ α : Type} (key : Codec κ) (value : Codec α)

theorem build_writer (brokers : String) : (ofSettings [.connection brokers]).build key value =
    if Text.blank brokers then .error (.config .connection)
    else if hasZero brokers then .error (.producer .zero)
    else .ok ⟨.ofWriter (stripped brokers), key, value⟩ := by
  have own : ((ClientConfig.writerSettings brokers).extend .empty) =
      ClientConfig.writerSettings brokers := rfl
  rw [ClientConfig.writerSettings] at own
  change build ⟨some brokers, .all, .empty⟩ key value = _
  by_cases blank : Text.blank brokers = true
  · simp [build, usableServers, blank, bind, Except.bind]
  · have present : brokers ≠ "" := by
      rintro rfl
      exact absurd (by decide) blank
    have config := ClientConfig.ofSettings_writerSettings present
    rw [ClientConfig.writerSettings] at config
    by_cases zero : hasZero brokers = true
    · rw [if_pos zero] at config
      simp [build, usableServers, blank, own, ClientConfig.forRole, config, zero, bind, Except.bind,
        Except.mapError]
    · rw [if_neg zero] at config
      simp [build, usableServers, blank, own, ClientConfig.forRole, config, zero,
        ClientConfig.conflicts_ofWriter, bind, Except.bind, Except.mapError, pure, Except.pure]

end ProducerDraft

end Conduit
