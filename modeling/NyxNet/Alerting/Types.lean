import Mathlib.Algebra.Order.Ring.Rat
import Mathlib.Data.List.AList

/-!
# The data of the alert system

The records of `alert_system.rs` and of `crate::metrics`, which is not under
src/: only the fields the alert system reads or writes are kept. Times and
durations are nanoseconds (`SystemTime`, `Duration`), `f64` values are exact
rationals, and a `HashMap` is an association list without duplicate keys, whose
entry order stands for the unspecified iteration order.
-/

namespace NyxNet.Alerting

/-- Modelled from the spec: the layers the collector samples (`LayerType`). -/
inductive LayerType
  | Stream
  | Mix
  | Fec
  | Transport
  deriving DecidableEq, Repr

inductive AlertSeverity
  | Info
  | Warning
  | Critical
  deriving DecidableEq, Repr

inductive ThresholdComparison
  | GreaterThan
  | LessThan
  | Equal
  deriving DecidableEq, Repr

/-- The two history actions the alert system records. -/
inductive AlertAction
  | Created
  | Resolved
  deriving DecidableEq, Repr

inductive AlertHandler
  | Console
  | Log
  | Email (address : String)
  | Webhook (url : String)
  deriving DecidableEq, Repr

/-- `format!("{:?}", layer)`. -/
def LayerType.debug : LayerType → String
  | .Stream => "Stream"
  | .Mix => "Mix"
  | .Fec => "Fec"
  | .Transport => "Transport"

/-- `format!("{:?}", comparison)`. -/
def ThresholdComparison.debug : ThresholdComparison → String
  | .GreaterThan => "GreaterThan"
  | .LessThan => "LessThan"
  | .Equal => "Equal"

structure AlertThreshold where
  metric : String
  threshold : ℚ
  severity : AlertSeverity
  comparison : ThresholdComparison
  layer : Option LayerType
  enabled : Bool
  cooldown_duration : Nat
  last_triggered : Option Nat
  deriving DecidableEq, Repr

/-- An alert; its `description` is a `{:.2}` rendering of two `f64`s and is left out. -/
structure Alert where
  id : String
  timestamp : Nat
  severity : AlertSeverity
  title : String
  metric : String
  current_value : ℚ
  threshold : ℚ
  layer : Option LayerType
  context : List (String × String)
  resolved : Bool
  resolved_at : Option Nat
  deriving DecidableEq, Repr

structure AlertHistoryEntry where
  alert : Alert
  action : AlertAction
  timestamp : Nat
  deriving DecidableEq, Repr

structure AlertRoute where
  severity_filter : List AlertSeverity
  layer_filter : List LayerType
  handler : AlertHandler
  deriving DecidableEq, Repr

structure SuppressionRule where
  metric_pattern : String
  layer : Option LayerType
  max_alerts : Nat
  duration : Nat
  created_at : Nat
  deriving DecidableEq, Repr

/-! ## Metric snapshots -/

structure SystemMetrics where
  cpu_usage_percent : ℚ
  memory_usage_bytes : Nat
  memory_total_bytes : Nat

structure NetworkMetrics where
  total_connections : Nat
  failed_connections : Nat

structure PerformanceMetrics where
  avg_latency_ms : ℚ
  packet_loss_rate : ℚ

structure ErrorMetrics where
  error_rate : ℚ

structure LayerMetrics where
  throughput : ℚ
  error_rate : ℚ
  queue_depth : Nat
  active_connections : Nat

structure MetricsSnapshot where
  system_metrics : SystemMetrics
  network_metrics : NetworkMetrics
  performance_metrics : PerformanceMetrics
  error_metrics : ErrorMetrics
  layer_metrics : LayerType → Option LayerMetrics

/-! ## The alert system -/

/-- A `HashMap<String, V>`. -/
abbrev Table (V : Type) := AList (fun _ : String => V)

/-- Update every value in place, as a loop over `values_mut` does. -/
def Table.mapValues {V : Type} (f : V → V) (m : Table V) : Table V :=
  ⟨m.entries.map (fun e => ⟨e.1, f e.2⟩), by
    simpa [List.NodupKeys, List.keys, Function.comp_def] using m.nodupKeys⟩

@[simp] theorem Table.lookup_mapValues {V : Type} (f : V → V) (m : Table V) (k : String) :
    (m.mapValues f).lookup k = (m.lookup k).map f :=
  List.dlookup_map₂ (f := fun _ => f) k

/-- The values of a table, in iteration order. -/
def Table.values {V : Type} (m : Table V) : List V := m.entries.map (·.2)

structure AlertSystem where
  thresholds : Table AlertThreshold
  active_alerts : Table Alert
  alert_history : List AlertHistoryEntry
  routes : List AlertRoute
  suppression_rules : List SuppressionRule
  max_history_size : Nat

/-- `Duration::from_secs`, in nanoseconds. -/
def from_secs (secs : Nat) : Nat := secs * 1000000000

/-- The shape of every default threshold: a `GreaterThan` comparison, enabled,
    never triggered. -/
def greaterThan (metric : String) (threshold : ℚ) (severity : AlertSeverity)
    (layer : Option LayerType) (cooldown_secs : Nat) : AlertThreshold :=
  { metric, threshold, severity, comparison := .GreaterThan, layer, enabled := true,
    cooldown_duration := from_secs cooldown_secs, last_triggered := none }

/-- Set up default alert thresholds, inserted in source order. -/
def setup_default_thresholds : Table AlertThreshold :=
  [("cpu_usage", greaterThan "cpu_usage" 80 .Warning none 300),
   ("cpu_usage_critical", greaterThan "cpu_usage" 95 .Critical none 60),
   ("memory_usage", greaterThan "memory_usage" 85 .Warning none 300),
   ("memory_usage_critical", greaterThan "memory_usage" 95 .Critical none 60),
   ("error_rate", greaterThan "error_rate" 5 .Warning none 180),
   ("error_rate_critical", greaterThan "error_rate" 15 .Critical none 60),
   ("latency_high", greaterThan "avg_latency_ms" 1000 .Warning (some .Transport) 120),
   ("latency_critical", greaterThan "avg_latency_ms" 5000 .Critical (some .Transport) 60),
   ("packet_loss", greaterThan "packet_loss_rate" 1 .Warning (some .Transport) 180),
   ("packet_loss_critical", greaterThan "packet_loss_rate" 5 .Critical (some .Transport) 60),
   ("connection_failure_rate", greaterThan "connection_failure_rate" 10 .Warning none 300)].foldl
    (fun thresholds entry => thresholds.insert entry.1 entry.2) ∅

/-- Set up default alert routes: console and log for every severity and layer. -/
def setup_default_routes : List AlertRoute :=
  [⟨[.Info, .Warning, .Critical], [], .Console⟩, ⟨[.Info, .Warning, .Critical], [], .Log⟩]

/-- Create a new alert system with default configurations. -/
def AlertSystem.new : AlertSystem :=
  { thresholds := setup_default_thresholds
    active_alerts := ∅
    alert_history := []
    routes := setup_default_routes
    suppression_rules := []
    max_history_size := 10000 }

end NyxNet.Alerting
