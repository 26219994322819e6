import Courier.Tenant
import Courier.Queue.Consumer
/-
The settings of the relay. Everything has a value without being set.
-/

namespace Courier

open Json (Layout Field Whole)

structure ServerSettings where
  enabled : Bool := true
  host : String := "0.0.0.0"
  port : Nat := 8080
  /-- The longest body of a request in octets. -/
  bodyLimit : Nat := 1048576
  deriving DecidableEq, Repr, Inhabited

structure RedisSettings where
  url : String := "redis://localhost:6379"
  deriving DecidableEq, Repr, Inhabited

structure DatabaseSettings where
  /-- Whether tenants stand in the database and not in the settings. -/
  enabled : Bool := false
  url : String := "postgres://localhost:5432/push_relay"
  poolSize : Nat := 10
  connectTimeout : Nat := 5
  idleTimeout : Nat := 600
  deriving DecidableEq, Repr, Inhabited

structure QueueSettings where
  backend : String := "redis"
  /-- What the keys of the queue's lists start with. -/
  keyStart : String := "push_relay:tasks"
  deriving DecidableEq, Repr, Inhabited

structure WorkerSettings where
  enabled : Bool := true
  concurrency : Nat := 8
  maxRetries : Nat := 5
  pollMillis : Nat := 500
  graceSeconds : Nat := 15
  backoffInitialMillis : Nat := 1000
  backoffMaximumMillis : Nat := 60000
  deriving DecidableEq, Repr, Inhabited

structure LoggingSettings where
  format : String := "pretty"
  deriving DecidableEq, Repr, Inhabited

structure Settings where
  server : ServerSettings := {}
  redis : RedisSettings := {}
  database : DatabaseSettings := {}
  queue : QueueSettings := {}
  worker : WorkerSettings := {}
  logging : LoggingSettings := {}
  users : List User := []
  targets : List Target := []
  deriving Repr, Inhabited

section

variable {D : Type → Type} [Layout D]

def ServerSettings.layout : D ServerSettings :=
  Layout.record "ServerConfig" {}
    [.optional "enabled" Layout.flag fun v s => { s with enabled := v },
     .optional "host" Layout.text fun v s => { s with host := v },
     .optional "port" (Layout.whole Whole.u16) fun v s => { s with port := v.toNat },
     .optional "body_limit" (Layout.whole Whole.usize) fun v s => { s with bodyLimit := v.toNat }]

def RedisSettings.layout : D RedisSettings :=
  Layout.record "RedisConfig" {} [.optional "url" Layout.text fun v s => { s with url := v }]

def DatabaseSettings.layout : D DatabaseSettings :=
  Layout.record "DatabaseConfig" {}
    [.optional "enabled" Layout.flag fun v s => { s with enabled := v },
     .optional "url" Layout.text fun v s => { s with url := v },
     .optional "pool_size" (Layout.whole Whole.u32) fun v s => { s with poolSize := v.toNat },
     .optional "connect_timeout_seconds" (Layout.whole Whole.u32) fun v s => { s with connectTimeout := v.toNat },
     .optional "idle_timeout_seconds" (Layout.whole Whole.u32) fun v s => { s with idleTimeout := v.toNat }]

def QueueSettings.layout : D QueueSettings :=
  Layout.record "QueueConfig" {}
    [.optional "backend" Layout.text fun v s => { s with backend := v },
     .optional "prefix" Layout.text fun v s => { s with keyStart := v }]

def WorkerSettings.layout : D WorkerSettings :=
  Layout.record "WorkerConfig" {}
    [.optional "enabled" Layout.flag fun v s => { s with enabled := v },
     .optional "concurrency" (Layout.whole Whole.usize) fun v s => { s with concurrency := v.toNat },
     .optional "max_retries" (Layout.whole Whole.u32) fun v s => { s with maxRetries := v.toNat },
     .optional "poll_interval_ms" (Layout.whole Whole.u64) fun v s => { s with pollMillis := v.toNat },
     .optional "shutdown_grace_seconds" (Layout.whole Whole.u64) fun v s => { s with graceSeconds := v.toNat },
     .optional "backoff_initial_delay_ms" (Layout.whole Whole.u64) fun v s => { s with backoffInitialMillis := v.toNat },
     .optional "backoff_max_delay_ms" (Layout.whole Whole.u64) fun v s => { s with backoffMaximumMillis := v.toNat }]

def LoggingSettings.layout : D LoggingSettings :=
  Layout.record "LoggingConfig" {} [.optional "format" Layout.text fun v s => { s with format := v }]

def Settings.layout : D Settings :=
  Layout.record "Settings" {}
    [.optional "server" ServerSettings.layout fun v s => { s with server := v },
     .optional "redis" RedisSettings.layout fun v s => { s with redis := v },
     .optional "database" DatabaseSettings.layout fun v s => { s with database := v },
     .optional "queue" QueueSettings.layout fun v s => { s with queue := v },
     .optional "worker" WorkerSettings.layout fun v s => { s with worker := v },
     .optional "logging" LoggingSettings.layout fun v s => { s with logging := v },
     .optional "users" (Layout.list User.layout) fun v s => { s with users := v },
     .optional "targets" (Layout.list Target.layout) fun v s => { s with targets := v }]

end

namespace Settings

/-- Where the server listens. -/
def serverAddress (s : Settings) : String := s.server.host ++ ":" ++ toString s.server.port

/-- Whether each line of the log is a JSON object. -/
def logsJson (s : Settings) : Bool := Text.sameLetters s.logging.format "json"

/-- Whether the queue is kept in memory. -/
def usesMemoryQueue (s : Settings) : Bool := Text.sameLetters s.queue.backend MemoryQueue.backendName

end Settings

/-- How tasks are consumed; one at a time at least. -/
def WorkerSettings.consumer (w : WorkerSettings) : ConsumerConfig where
  concurrency := max w.concurrency 1
  maxRetries := w.maxRetries
  poll := w.pollMillis
  grace := 1000 * w.graceSeconds
  backoff := { initial := w.backoffInitialMillis, maximum := w.backoffMaximumMillis }

end Courier
