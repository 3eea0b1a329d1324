import NyxNet.Alerting.Types
import Mathlib.Data.List.Infix

/-!
# The operations of the alert system

`check_thresholds`, `resolve_alert` and the policy mutators of `AlertSystem`.
Clock readings are inputs. The reads of one `check_thresholds` evaluation loop
(the cooldown check, `should_suppress_alert` and `create_alert`) share one
reading, the operation's time `now`, and `resolve_alert` sets `resolved_at` to
its time `now`. Each `add_to_history` reads the clock on its own: the entry of
the `i`-th alert a call processes is recorded at `recorded_at i`, the entry of a
resolution at `recorded_at`. `Uuid::new_v4` is the argument `fresh`: the alert a
threshold raises gets the id `fresh` gives its key.
Routing and the broadcast change no state; `route_alert` gives the handlers an
alert reaches. A run is a list of timed operations.
-/

namespace NyxNet.Alerting

/-- `str::contains`: `needle` occurs in `haystack`. -/
def contains (haystack needle : String) : Bool := decide (needle.data <:+: haystack.data)

/-- `f64::EPSILON`, `2^-52`. -/
def EPSILON : ℚ := 1 / 2 ^ 52

/-- Extract metric value from snapshot based on metric name and layer. -/
def extract_metric_value (snapshot : MetricsSnapshot) (metric : String) (layer : Option LayerType) :
    Option ℚ :=
  match metric with
  | "cpu_usage" => some snapshot.system_metrics.cpu_usage_percent
  | "memory_usage" =>
    if snapshot.system_metrics.memory_total_bytes > 0 then
      some ((snapshot.system_metrics.memory_usage_bytes : ℚ) /
        snapshot.system_metrics.memory_total_bytes * 100)
    else none
  | "error_rate" => some snapshot.error_metrics.error_rate
  | "avg_latency_ms" => some snapshot.performance_metrics.avg_latency_ms
  | "packet_loss_rate" => some (snapshot.performance_metrics.packet_loss_rate * 100)
  | "connection_failure_rate" =>
    let total_connections := snapshot.network_metrics.total_connections
    let failed_connections := snapshot.network_metrics.failed_connections
    if total_connections > 0 then some ((failed_connections : ℚ) / total_connections * 100) else none
  | _ =>
    match layer with
    | some layer_type =>
      match snapshot.layer_metrics layer_type with
      | some layer_metrics =>
        match metric with
        | "throughput" => some layer_metrics.throughput
        | "layer_error_rate" => some layer_metrics.error_rate
        | "queue_depth" => some layer_metrics.queue_depth
        | "active_connections" => some layer_metrics.active_connections
        | _ => none
      | none => none
    | none => none

/-- The comparison of a threshold against an extracted value. -/
def threshold_exceeded (threshold : AlertThreshold) (value : ℚ) : Bool :=
  match threshold.comparison with
  | .GreaterThan => decide (value > threshold.threshold)
  | .LessThan => decide (value < threshold.threshold)
  | .Equal => decide (|value - threshold.threshold| < EPSILON)

/-- The cooldown check: `now.duration_since(last_triggered).unwrap_or_default() < cooldown`. -/
def in_cooldown (threshold : AlertThreshold) (now : Nat) : Bool :=
  match threshold.last_triggered with
  | some last_triggered => decide (now - last_triggered < threshold.cooldown_duration)
  | none => false

/-- The active alerts whose metric contains a rule's pattern. -/
def matching_alerts (s : AlertSystem) (rule : SuppressionRule) : Nat :=
  s.active_alerts.values.countP (fun alert => contains alert.metric rule.metric_pattern)

/-- Check if an alert should be suppressed based on suppression rules. -/
def AlertSystem.should_suppress_alert (s : AlertSystem) (now : Nat) (metric : String)
    (layer : Option LayerType) : Bool :=
  s.suppression_rules.any fun rule =>
    contains metric rule.metric_pattern && !(rule.layer.isSome && rule.layer != layer) &&
      decide (now - rule.created_at < rule.duration) && decide (rule.max_alerts ≤ matching_alerts s rule)

/-- Create a new alert from threshold violation. -/
def create_alert (alert_id : String) (now : Nat) (threshold : AlertThreshold) (current_value : ℚ) :
    Alert :=
  { id := alert_id
    timestamp := now
    severity := threshold.severity
    title := threshold.metric ++ " threshold exceeded"
    metric := threshold.metric
    current_value
    threshold := threshold.threshold
    layer := threshold.layer
    context := [("threshold_id", threshold.metric), ("comparison", threshold.comparison.debug)] ++
      (threshold.layer.map fun layer => ("layer", layer.debug)).toList
    resolved := false
    resolved_at := none }

/-- One pass of the evaluation loop of `check_thresholds`. -/
def AlertSystem.check_threshold (s : AlertSystem) (now : Nat) (snapshot : MetricsSnapshot)
    (alert_id : String) (threshold : AlertThreshold) : Option Alert :=
  if !threshold.enabled then none
  else if in_cooldown threshold now then none
  else
    match extract_metric_value snapshot threshold.metric threshold.layer with
    | some value =>
      if threshold_exceeded threshold value && !s.should_suppress_alert now threshold.metric threshold.layer
      then some (create_alert alert_id now threshold value)
      else none
    | none => none

/-- The alerts of one `check_thresholds` call, in the order of the threshold snapshot. -/
def AlertSystem.new_alerts (s : AlertSystem) (now : Nat) (snapshot : MetricsSnapshot)
    (fresh : String → String) : List Alert :=
  s.thresholds.entries.filterMap fun entry => s.check_threshold now snapshot (fresh entry.1) entry.2

/-- Add alert to history, dropping the oldest entry past `max_history_size`. -/
def AlertSystem.add_to_history (s : AlertSystem) (alert : Alert) (action : AlertAction) (now : Nat) :
    AlertSystem :=
  let history := s.alert_history ++ [⟨alert, action, now⟩]
  { s with alert_history := if history.length > s.max_history_size then history.tail else history }

/-- The last-triggered update of `process_alert` for one threshold. -/
def stamp (alert : Alert) (threshold : AlertThreshold) : AlertThreshold :=
  if threshold.metric = alert.metric ∧ threshold.layer = alert.layer then
    { threshold with last_triggered := some alert.timestamp }
  else threshold

/-- Process a new alert: activate it, record it at the reading `recorded_at`,
    restart the cooldowns of its (metric, layer). -/
def AlertSystem.process_alert (s : AlertSystem) (recorded_at : Nat) (alert : Alert) : AlertSystem :=
  let s := { s with active_alerts := s.active_alerts.insert alert.id alert }
  let s := s.add_to_history alert .Created recorded_at
  { s with thresholds := s.thresholds.mapValues (stamp alert) }

/-- The processing loop over `new_alerts`; `recorded_at i` is the clock reading of
    the `i`-th alert's `add_to_history`. -/
def AlertSystem.process_alerts (s : AlertSystem) (recorded_at : Nat → Nat) : List Alert → AlertSystem
  | [] => s
  | alert :: alerts => (s.process_alert (recorded_at 0) alert).process_alerts (fun i => recorded_at (i + 1)) alerts

/-- Check metrics against thresholds and generate alerts. -/
def AlertSystem.check_thresholds (s : AlertSystem) (now : Nat) (snapshot : MetricsSnapshot)
    (fresh : String → String) (recorded_at : Nat → Nat) : AlertSystem × List Alert :=
  let new_alerts := s.new_alerts now snapshot fresh
  (s.process_alerts recorded_at new_alerts, new_alerts)

/-- The handlers of the routes an alert passes. -/
def route_alert (routes : List AlertRoute) (alert : Alert) : List AlertHandler :=
  (routes.filter fun route =>
    (route.severity_filter.isEmpty || route.severity_filter.contains alert.severity) &&
      (route.layer_filter.isEmpty ||
        match alert.layer with
        | some alert_layer => route.layer_filter.contains alert_layer
        | none => false)).map (·.handler)

/-- Resolve an active alert. -/
def AlertSystem.resolve_alert (s : AlertSystem) (now : Nat) (alert_id : String) (recorded_at : Nat) :
    Except String Unit × AlertSystem :=
  match s.active_alerts.lookup alert_id with
  | some alert =>
    let s := { s with active_alerts := s.active_alerts.erase alert_id }
    (.ok (), s.add_to_history { alert with resolved := true, resolved_at := some now } .Resolved recorded_at)
  | none => (.error ("Alert with ID " ++ alert_id ++ " not found"), s)

/-- Add a new alert threshold. -/
def AlertSystem.add_threshold (s : AlertSystem) (threshold_id : String) (threshold : AlertThreshold) :
    AlertSystem :=
  { s with thresholds := s.thresholds.insert threshold_id threshold }

/-- Remove an alert threshold. -/
def AlertSystem.remove_threshold (s : AlertSystem) (threshold_id : String) : Bool × AlertSystem :=
  ((s.thresholds.lookup threshold_id).isSome, { s with thresholds := s.thresholds.erase threshold_id })

/-- Add a suppression rule. -/
def AlertSystem.add_suppression_rule (s : AlertSystem) (rule : SuppressionRule) : AlertSystem :=
  { s with suppression_rules := s.suppression_rules ++ [rule] }

/-- Add an alert route. -/
def AlertSystem.add_route (s : AlertSystem) (route : AlertRoute) : AlertSystem :=
  { s with routes := s.routes ++ [route] }

/-- Get alert history, newest first when limited. -/
def AlertSystem.get_alert_history (s : AlertSystem) : Option Nat → List AlertHistoryEntry
  | some limit => (s.alert_history.reverse.take limit)
  | none => s.alert_history

/-- The alert the threshold stored under `k` raises in a call, if any. -/
def AlertSystem.alertFrom (s : AlertSystem) (now : Nat) (snapshot : MetricsSnapshot)
    (fresh : String → String) (k : String) : Option Alert :=
  (s.thresholds.lookup k).bind (s.check_threshold now snapshot (fresh k))

/-! ## Runs -/

/-- The public operations that change an alert system. -/
inductive AlertOp
  | check_thresholds (snapshot : MetricsSnapshot) (fresh : String → String) (recorded_at : Nat → Nat)
  | resolve_alert (alert_id : String) (recorded_at : Nat)
  | add_threshold (threshold_id : String) (threshold : AlertThreshold)
  | remove_threshold (threshold_id : String)
  | add_suppression_rule (rule : SuppressionRule)
  | add_route (route : AlertRoute)

/-- One operation at clock time `now`. -/
def AlertSystem.step (s : AlertSystem) (now : Nat) : AlertOp → AlertSystem
  | .check_thresholds snapshot fresh recorded_at => (s.check_thresholds now snapshot fresh recorded_at).1
  | .resolve_alert alert_id recorded_at => (s.resolve_alert now alert_id recorded_at).2
  | .add_threshold threshold_id threshold => s.add_threshold threshold_id threshold
  | .remove_threshold threshold_id => (s.remove_threshold threshold_id).2
  | .add_suppression_rule rule => s.add_suppression_rule rule
  | .add_route route => s.add_route route

/-- Timed operations in order. -/
def AlertSystem.run : AlertSystem → List (Nat × AlertOp) → AlertSystem
  | s, [] => s
  | s, (now, op) :: ops => (s.step now op).run ops

/-- The `Created` entries of the processing loop, the `i`-th at `recorded_at i`. -/
def created_entries (recorded_at : Nat → Nat) : List Alert → List AlertHistoryEntry
  | [] => []
  | alert :: alerts => ⟨alert, .Created, recorded_at 0⟩ :: created_entries (fun i => recorded_at (i + 1)) alerts

/-- The entries an operation hands to `add_to_history`. -/
def AlertSystem.appended (s : AlertSystem) (now : Nat) : AlertOp → List AlertHistoryEntry
  | .check_thresholds snapshot fresh recorded_at => created_entries recorded_at (s.new_alerts now snapshot fresh)
  | .resolve_alert alert_id recorded_at =>
    match s.active_alerts.lookup alert_id with
    | some alert => [⟨{ alert with resolved := true, resolved_at := some now }, .Resolved, recorded_at⟩]
    | none => []
  | _ => []

/-- Every entry handed to `add_to_history` along a run, in order. -/
def AlertSystem.runLog : AlertSystem → List (Nat × AlertOp) → List AlertHistoryEntry
  | _, [] => []
  | s, (now, op) :: ops => s.appended now op ++ (s.step now op).runLog ops

/-- A snapshot in which only the CPU usage is set, as in the alert-lifecycle scenario. -/
def cpu_at (cpu_usage_percent : ℚ) : MetricsSnapshot :=
  { system_metrics := ⟨cpu_usage_percent, 0, 0⟩
    network_metrics := ⟨0, 0⟩
    performance_metrics := ⟨0, 0⟩
    error_metrics := ⟨0⟩
    layer_metrics := fun _ => none }

/-! ## What each operation changes -/

section
variable (s : AlertSystem) (now : Nat) (alert : Alert) (action : AlertAction)

@[simp] theorem add_to_history_max_history_size :
    (s.add_to_history alert action now).max_history_size = s.max_history_size := rfl

@[simp] theorem process_alert_thresholds :
    (s.process_alert now alert).thresholds = s.thresholds.mapValues (stamp alert) := rfl
@[simp] theorem process_alert_active_alerts :
    (s.process_alert now alert).active_alerts = s.active_alerts.insert alert.id alert := rfl
@[simp] theorem process_alert_max_history_size :
    (s.process_alert now alert).max_history_size = s.max_history_size := rfl
@[simp] theorem process_alert_routes : (s.process_alert now alert).routes = s.routes := rfl
@[simp] theorem process_alert_suppression_rules :
    (s.process_alert now alert).suppression_rules = s.suppression_rules := rfl

end

/-- What `process_alert` keeps, the whole processing loop keeps. -/
theorem process_alerts_frame {β : Type} (field : AlertSystem → β)
    (kept : ∀ s now alert, field (s.process_alert now alert) = field s) :
    ∀ (s : AlertSystem) (recorded_at : Nat → Nat) (alerts : List Alert),
      field (s.process_alerts recorded_at alerts) = field s
  | _, _, [] => rfl
  | s, recorded_at, alert :: alerts =>
    (process_alerts_frame field kept _ _ alerts).trans (kept s (recorded_at 0) alert)

@[simp] theorem resolve_alert_thresholds (s : AlertSystem) (now : Nat) (alert_id : String) (recorded_at : Nat) :
    (s.resolve_alert now alert_id recorded_at).2.thresholds = s.thresholds := by
  unfold AlertSystem.resolve_alert
  split <;> rfl

@[simp] theorem process_alerts_max_history_size (s : AlertSystem) (recorded_at : Nat → Nat)
    (alerts : List Alert) : (s.process_alerts recorded_at alerts).max_history_size = s.max_history_size :=
  process_alerts_frame (·.max_history_size) (fun _ _ _ => rfl) s recorded_at alerts

@[simp] theorem step_max_history_size (s : AlertSystem) (now : Nat) (op : AlertOp) :
    (s.step now op).max_history_size = s.max_history_size := by
  cases op with
  | check_thresholds snapshot fresh recorded_at => exact process_alerts_max_history_size s recorded_at _
  | resolve_alert alert_id recorded_at =>
    simp only [AlertSystem.step, AlertSystem.resolve_alert]
    split <;> rfl
  | _ => rfl

/-- Every alert of a call is the one some stored threshold raises. -/
theorem mem_new_alerts_iff {s : AlertSystem} {now : Nat} {snapshot : MetricsSnapshot}
    {fresh : String → String} {alert : Alert} :
    alert ∈ s.new_alerts now snapshot fresh ↔ ∃ k, s.alertFrom now snapshot fresh k = some alert := by
  simp only [AlertSystem.new_alerts, List.mem_filterMap, AlertSystem.alertFrom, Option.bind_eq_some]
  constructor
  · rintro ⟨⟨k, T⟩, stored, raised⟩
    exact ⟨k, T, AList.mem_lookup_iff.mpr stored, raised⟩
  · rintro ⟨k, T, stored, raised⟩
    exact ⟨⟨k, T⟩, AList.mem_lookup_iff.mp stored, raised⟩

/-- What a raised alert says about its threshold and the call. -/
theorem check_threshold_some {s : AlertSystem} {now : Nat} {snapshot : MetricsSnapshot}
    {alert_id : String} {T : AlertThreshold} {alert : Alert}
    (raised : s.check_threshold now snapshot alert_id T = some alert) :
    T.enabled = true ∧ in_cooldown T now = false ∧ alert = create_alert alert_id now T alert.current_value := by
  unfold AlertSystem.check_threshold at raised
  split_ifs at raised with disabled cooling
  split at raised
  · split_ifs at raised
    cases raised
    exact ⟨by simpa using disabled, by simpa using cooling, rfl⟩
  · cases raised

/-- A threshold that is enabled, out of cooldown, exceeded and not suppressed raises an alert. -/
theorem check_threshold_isSome {s : AlertSystem} {now : Nat} {snapshot : MetricsSnapshot}
    {T : AlertThreshold} {value : ℚ} (alert_id : String) (enabled : T.enabled = true)
    (cooled : in_cooldown T now = false)
    (extracted : extract_metric_value snapshot T.metric T.layer = some value)
    (exceeded : threshold_exceeded T value = true)
    (unsuppressed : s.should_suppress_alert now T.metric T.layer = false) :
    (s.check_threshold now snapshot alert_id T).isSome := by
  simp [AlertSystem.check_threshold, enabled, cooled, extracted, exceeded, unsuppressed]

/-- The alerts of one call come from distinct thresholds, so they carry distinct
    ids when `fresh` does. -/
theorem new_alerts_ids_sublist (s : AlertSystem) (now : Nat) (snapshot : MetricsSnapshot)
    (fresh : String → String) :
    List.Sublist ((s.new_alerts now snapshot fresh).map (·.id)) (s.thresholds.keys.map fresh) := by
  unfold AlertSystem.new_alerts AList.keys List.keys
  induction s.thresholds.entries with
  | nil => exact .slnil
  | cons entry entries ih =>
    rw [List.filterMap_cons]
    split
    · exact .cons _ ih
    · rename_i alert raised
      rw [(check_threshold_some raised).2.2]
      exact .cons₂ _ ih

theorem new_alerts_ids_nodup (s : AlertSystem) (now : Nat) (snapshot : MetricsSnapshot)
    {fresh : String → String} (injective : fresh.Injective) :
    ((s.new_alerts now snapshot fresh).map (·.id)).Nodup :=
  (s.thresholds.keys_nodup.map injective).sublist (new_alerts_ids_sublist s now snapshot fresh)

/-! ## The entries an operation appends -/

theorem mem_created_entries {e : AlertHistoryEntry} :
    ∀ {recorded_at : Nat → Nat} {alerts : List Alert}, e ∈ created_entries recorded_at alerts →
      ∃ alert ∈ alerts, ∃ i, e = ⟨alert, .Created, recorded_at i⟩
  | _, [], mem => by cases mem
  | _, alert :: _, mem => by
    rcases List.mem_cons.mp mem with rfl | later
    · exact ⟨alert, .head _, 0, rfl⟩
    · obtain ⟨a, listed, i, rfl⟩ := mem_created_entries later
      exact ⟨a, .tail _ listed, i + 1, rfl⟩

theorem created_entry_mem {alert : Alert} :
    ∀ {recorded_at : Nat → Nat} {alerts : List Alert}, alert ∈ alerts →
      ∃ t, AlertHistoryEntry.mk alert .Created t ∈ created_entries recorded_at alerts
  | _, [], listed => by cases listed
  | _, _ :: _, listed => by
    rcases List.mem_cons.mp listed with rfl | later
    · exact ⟨_, .head _⟩
    · obtain ⟨t, mem⟩ := created_entry_mem later
      exact ⟨t, .tail _ mem⟩

/-- What an operation hands to `add_to_history`: the alerts a `check_thresholds`
    call raised, as `Created` at one of its readings, or the alert `resolve_alert`
    removed, as `Resolved`. -/
theorem mem_appended {s : AlertSystem} {now : Nat} {op : AlertOp} {e : AlertHistoryEntry}
    (mem : e ∈ s.appended now op) :
    (∃ snapshot fresh recorded_at alert i, op = .check_thresholds snapshot fresh recorded_at ∧
        alert ∈ s.new_alerts now snapshot fresh ∧ e = ⟨alert, .Created, recorded_at i⟩) ∨
      ∃ alert_id recorded_at alert, op = .resolve_alert alert_id recorded_at ∧
        s.active_alerts.lookup alert_id = some alert ∧
        e = ⟨{ alert with resolved := true, resolved_at := some now }, .Resolved, recorded_at⟩ := by
  cases op <;> simp only [AlertSystem.appended] at mem
  case check_thresholds snapshot fresh recorded_at =>
    obtain ⟨alert, raised, i, rfl⟩ := mem_created_entries mem
    exact .inl ⟨snapshot, fresh, recorded_at, alert, i, rfl, raised, rfl⟩
  case resolve_alert alert_id recorded_at =>
    split at mem
    · rename_i alert found
      exact .inr ⟨alert_id, recorded_at, alert, rfl, found, List.mem_singleton.mp mem⟩
    · cases mem
  all_goals cases mem

/-- Every entry of a run's log is appended by one of the run's operations. -/
theorem mem_runLog {e : AlertHistoryEntry} :
    ∀ {s : AlertSystem} {ops : List (Nat × AlertOp)}, e ∈ s.runLog ops →
      ∃ s' : AlertSystem, ∃ p ∈ ops, e ∈ s'.appended p.1 p.2
  | _, [], mem => by cases mem
  | s, (now, op) :: _, mem => by
    rcases List.mem_append.mp mem with here | later
    · exact ⟨s, (now, op), .head _, here⟩
    · obtain ⟨s', p, listed, entry⟩ := mem_runLog later
      exact ⟨s', p, .tail _ listed, entry⟩

end NyxNet.Alerting
