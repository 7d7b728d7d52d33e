import Conduit.Broker.Partition
import Conduit.Broker.Property

/-!
# The properties there are

Every client knows the same properties, whether or not it is of a kind that needs them. Some are
known by a second name; a fault names them by the first. This client is built without encryption,
without tickets and without Zstandard, so what depends on those is there but cannot be set.
-/
namespace Conduit.Property

/-- The greatest integer of 32 bits. -/
def wordLimit : Int := 2147483647

/-- Integers with their bounds. -/
def integers : List (String × Int × Int) :=
  [("message.max.bytes", 1000, 1000000000),
   ("message.copy.max.bytes", 0, 1000000000),
   ("receive.message.max.bytes", 1000, wordLimit),
   ("max.in.flight.requests.per.connection", 1, 1000000),
   ("metadata.request.timeout.ms", 10, 900000),
   ("topic.metadata.refresh.interval.ms", -1, 3600000),
   ("metadata.max.age.ms", 1, 86400000),
   ("topic.metadata.refresh.fast.interval.ms", 1, 60000),
   ("topic.metadata.refresh.fast.cnt", 0, 1000),
   ("topic.metadata.propagation.max.ms", 0, 3600000),
   ("socket.timeout.ms", 10, 300000),
   ("socket.blocking.max.ms", 1, 60000),
   ("socket.send.buffer.bytes", 0, 100000000),
   ("socket.receive.buffer.bytes", 0, 100000000),
   ("socket.max.fails", 0, 1000000),
   ("broker.address.ttl", 0, 86400000),
   ("socket.connection.setup.timeout.ms", 1000, wordLimit),
   ("connections.max.idle.ms", 0, wordLimit),
   ("reconnect.backoff.jitter.ms", 0, 3600000),
   ("reconnect.backoff.ms", 0, 3600000),
   ("reconnect.backoff.max.ms", 0, 3600000),
   ("statistics.interval.ms", 0, 86400000),
   ("enabled_events", 0, wordLimit),
   ("log_level", 0, 7),
   ("internal.termination.signal", 0, 128),
   ("api.version.request.timeout.ms", 1, 300000),
   ("api.version.fallback.ms", 0, 604800000),
   ("sasl.kerberos.min.time.before.relogin", 0, 86400000),
   ("test.mock.num.brokers", 0, 10000),
   ("test.mock.broker.rtt", 0, 3600000),
   ("session.timeout.ms", 1, 3600000),
   ("heartbeat.interval.ms", 1, 3600000),
   ("coordinator.query.interval.ms", 1, 3600000),
   ("max.poll.interval.ms", 1, 86400000),
   ("auto.commit.interval.ms", 0, 86400000),
   ("queued.min.messages", 1, 10000000),
   ("queued.max.messages.kbytes", 1, 2097151),
   ("fetch.wait.max.ms", 0, 300000),
   ("fetch.queue.backoff.ms", 0, 300000),
   ("fetch.message.max.bytes", 1, 1000000000),
   ("fetch.max.bytes", 0, 2147483135),
   ("fetch.min.bytes", 1, 100000000),
   ("fetch.error.backoff.ms", 0, 300000),
   ("transaction.timeout.ms", 1000, wordLimit),
   ("queue.buffering.max.messages", 0, wordLimit),
   ("queue.buffering.max.kbytes", 1, wordLimit),
   ("message.send.max.retries", 0, wordLimit),
   ("retry.backoff.ms", 1, 300000),
   ("retry.backoff.max.ms", 1, 300000),
   ("queue.buffering.backpressure.threshold", 1, 1000000),
   ("batch.num.messages", 1, 1000000),
   ("batch.size", 1, wordLimit),
   ("sticky.partitioning.linger.ms", 0, 900000),
   ("metadata.recovery.rebootstrap.trigger.ms", 0, wordLimit),
   ("request.timeout.ms", 1, 900000),
   ("message.timeout.ms", 0, wordLimit),
   ("compression.level", -1, 12),
   ("offset.store.sync.interval.ms", -1, 86400000),
   ("consume.callback.max.messages", 0, 1000000)]

def truths : List String :=
  ["topic.metadata.refresh.sparse", "socket.keepalive.enable", "socket.nagle.disable",
   "enable.sparse.connections", "log.queue", "log.thread.name", "enable.random.seed",
   "log.connection.close", "api.version.request", "allow.auto.create.topics", "enable.auto.commit",
   "enable.auto.offset.store", "enable.partition.eof", "check.crcs", "enable.idempotence",
   "enable.gapless.guarantee", "delivery.report.only.error", "enable.metrics.push",
   "produce.offset.report", "auto.commit.enable"]

/-- Texts that may be anything. -/
def texts : List String :=
  ["client.id", "metadata.broker.list", "topic.blacklist", "sasl.kerberos.service.name",
   "sasl.kerberos.principal", "sasl.kerberos.kinit.cmd", "sasl.kerberos.keytab", "sasl.username",
   "sasl.password", "plugin.library.paths", "client.software.name", "client.software.version",
   "group.id", "group.instance.id", "partition.assignment.strategy", "group.remote.assignor",
   "transactional.id", "offset.store.path"]

/-- Texts of a form. -/
def ruledTexts : List (String × TextRule) :=
  [("group.protocol.type", .verbatim),
   ("client.rack", .verbatim),
   ("sasl.mechanisms", .single),
   ("broker.version.fallback", .notLike ["0.7.", "0.6."]),
   ("partitioner", .oneOf (Partitioner.names.map Prod.fst))]

def noEncryption : String := "OpenSSL not available at build time"

def noTickets : String := "cyrus-sasl/libsasl2 not available at build time"

def noTokenService : String :=
  "OAuth/OIDC depends on libcurl and OpenSSL which were not available at build time"

/-- A name that this client knows what to do with. -/
def known (name : String) : NamedValue := ⟨name, none⟩

def lacking (reason name : String) : NamedValue := ⟨name, some reason⟩

def choices : List (String × List NamedValue) :=
  [("broker.address.family", ["any", "v4", "v6"].map known),
   ("security.protocol",
      [known "plaintext", lacking noEncryption "ssl", known "sasl_plaintext",
        lacking noEncryption "sasl_ssl"]),
   ("group.protocol", ["classic", "consumer"].map known),
   ("offset.store.method", ["none", "file", "broker"].map known),
   ("isolation.level", ["read_uncommitted", "read_committed"].map known),
   ("compression.codec",
      ["none", "gzip", "snappy", "lz4"].map known ++
        [lacking "libzstd not available at build time" "zstd"]),
   ("client.dns.lookup", ["use_all_dns_ips", "resolve_canonical_bootstrap_servers_only"].map known),
   ("metadata.recovery.strategy", ["none", "rebootstrap"].map known),
   ("sasl.oauthbearer.method", [known "default", lacking noTokenService "oidc"]),
   ("queuing.strategy", ["fifo", "lifo"].map known),
   ("auto.offset.reset",
      ["smallest", "earliest", "beginning", "largest", "latest", "end", "error"].map known)]

def flagLists : List (String × List NamedValue) :=
  [("builtin.features",
      ["gzip", "snappy", "sasl", "regex", "lz4", "sasl_plain", "plugins"].map known
        ++ ["ssl", "sasl_scram", "sasl_oauthbearer"].map (lacking noEncryption)
        ++ [lacking noTickets "sasl_gssapi", lacking "libzstd not available at build time" "zstd",
          lacking "libcurl not available at build time" "http", lacking noTokenService "oidc"]),
   ("debug",
      ["generic", "broker", "topic", "metadata", "feature", "queue", "msg", "protocol", "cgrp",
       "security", "fetch", "interceptor", "plugin", "consumer", "admin", "eos", "mock", "assignor",
       "conf", "telemetry", "all"].map known)]

def callbacks : List String :=
  ["error_cb", "throttle_cb", "stats_cb", "log_cb", "background_event_cb", "socket_cb",
   "connect_cb", "closesocket_cb", "open_cb", "resolve_cb", "opaque", "default_topic_conf",
   "consume_cb", "rebalance_cb", "offset_commit_cb", "dr_cb", "dr_msg_cb", "partitioner_cb",
   "msg_order_cmp"]

/-- What cannot be set, by what it lacks. -/
def unavailables : List (String × List String) :=
  [(noEncryption,
      ["ssl.cipher.suites", "ssl.key.location", "ssl.key.password", "ssl.key.pem", "ssl_key",
       "ssl.certificate.location", "ssl.certificate.pem", "ssl_certificate", "ssl.ca.location",
       "https.ca.location", "ssl.ca.pem", "https.ca.pem", "ssl_ca", "ssl.crl.location",
       "ssl.keystore.location", "ssl.keystore.password", "enable.ssl.certificate.verification",
       "ssl.certificate.verify_cb", "sasl.oauthbearer.config",
       "enable.sasl.oauthbearer.unsecure.jwt", "oauthbearer_token_refresh_cb"]),
   ("OpenSSL >= 1.0.2 not available at build time",
      ["ssl.curves.list", "ssl.sigalgs.list", "ssl.endpoint.identification.algorithm"]),
   ("OpenSSL >= 1.1.x not available at build time",
      ["ssl.engine.location", "ssl.engine.id", "ssl_engine_callback_data"]),
   ("OpenSSL >= 3.0.0 not available at build time", ["ssl.providers"]),
   ("configuration only valid on Windows", ["ssl.ca.certificate.stores"]),
   (noTokenService,
      ["sasl.oauthbearer.client.id", "sasl.oauthbearer.client.credentials.client.id",
       "sasl.oauthbearer.client.secret", "sasl.oauthbearer.client.credentials.client.secret",
       "sasl.oauthbearer.scope", "sasl.oauthbearer.extensions",
       "sasl.oauthbearer.token.endpoint.url", "sasl.oauthbearer.grant.type",
       "sasl.oauthbearer.assertion.algorithm", "sasl.oauthbearer.assertion.private.key.file",
       "sasl.oauthbearer.assertion.private.key.passphrase",
       "sasl.oauthbearer.assertion.private.key.pem", "sasl.oauthbearer.assertion.file",
       "sasl.oauthbearer.assertion.claim.aud", "sasl.oauthbearer.assertion.claim.exp.seconds",
       "sasl.oauthbearer.assertion.claim.iss", "sasl.oauthbearer.assertion.claim.jti.include",
       "sasl.oauthbearer.assertion.claim.nbf.seconds", "sasl.oauthbearer.assertion.claim.sub",
       "sasl.oauthbearer.assertion.jwt.template.file"])]

/-- The first names of properties by their second ones. -/
def aliases : List (String × String) :=
  [("bootstrap.servers", "metadata.broker.list"),
   ("max.in.flight", "max.in.flight.requests.per.connection"),
   ("sasl.mechanism", "sasl.mechanisms"),
   ("max.partition.fetch.bytes", "fetch.message.max.bytes"),
   ("linger.ms", "queue.buffering.max.ms"),
   ("retries", "message.send.max.retries"),
   ("compression.type", "compression.codec"),
   ("acks", "request.required.acks"),
   ("delivery.timeout.ms", "message.timeout.ms")]

def all : List Property :=
  integers.map (fun (name, least, greatest) => ⟨name, .integer least greatest []⟩)
    ++ [⟨"request.required.acks", .integer (-1) 1000 [("all", -1)]⟩,
      ⟨"queue.buffering.max.ms", .fraction 900000⟩, ⟨"interceptors", .internal⟩]
    ++ truths.map (fun name => ⟨name, .truth⟩)
    ++ texts.map (fun name => ⟨name, .text .any⟩)
    ++ ruledTexts.map (fun (name, rule) => ⟨name, .text rule⟩)
    ++ choices.map (fun (name, names) => ⟨name, .name names⟩)
    ++ flagLists.map (fun (name, names) => ⟨name, .flags names⟩)
    ++ callbacks.map (fun name => ⟨name, .callback⟩)
    ++ unavailables.flatMap fun (reason, names) => names.map fun name => ⟨name, .unavailable reason⟩

/-- The first name of a property. -/
def canonical (name : String) : String := (aliases.lookup name).getD name

/-- The property of a name. -/
def find? (name : String) : Option Property :=
  all.find? fun property => property.name = canonical name

example : aliases.all fun entry => (find? entry.1).any fun property => property.name = entry.2 := by
  decide +kernel

end Conduit.Property
