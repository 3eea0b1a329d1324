import NyxNet.Alerting.Effects
import NyxNet.Alerting.Policy
import Mathlib.Data.List.Sort

/-!
# The lifecycle of an alert along a run

Along every run from `AlertSystem::new()`, every entry handed to `add_to_history`
(the run's log, `AlertSystem.runLog`) describes its alert consistently: a
`Created` entry an unresolved alert, a `Resolved` entry a resolved one. An alert
is stamped, and resolved, at its operation's time, and `add_to_history` reads the
clock again, so when an operation's readings do not go back the alert's time is
no later than its entry's (`history_entries_well_formed`). Every active alert is
unresolved and its `Created` entry is in the log (`active_alerts_created`), so
every `Resolved` entry comes after the `Created` entry of the same alert
(`resolved_entry_follows_created`). With a clock that never goes back along the
run the history is in time order (`history_time_ordered`). No operation removes a
route, so every alert goes to the console and the log before any added route
(`route_alert_defaults_first`).
-/

namespace NyxNet.Alerting

@[simp] theorem add_to_history_active_alerts (s : AlertSystem) (alert : Alert) (action : AlertAction)
    (now : Nat) : (s.add_to_history alert action now).active_alerts = s.active_alerts := rfl

theorem new_alerts_unresolved {s : AlertSystem} {now : Nat} {snapshot : MetricsSnapshot}
    {fresh : String → String} {alert : Alert} (mem : alert ∈ s.new_alerts now snapshot fresh) :
    alert.resolved = false ∧ alert.resolved_at = none := by
  obtain ⟨k, found⟩ := mem_new_alerts_iff.mp mem
  obtain ⟨T, _, raised⟩ := Option.bind_eq_some.mp found
  rw [(check_threshold_some raised).2.2]
  exact ⟨rfl, rfl⟩

theorem process_alerts_active_cases (s : AlertSystem) (recorded_at : Nat → Nat) {alerts : List Alert}
    {k : String} {alert : Alert} (found : (s.process_alerts recorded_at alerts).active_alerts.lookup k = some alert) :
    alert ∈ alerts ∨ s.active_alerts.lookup k = some alert := by
  induction alerts generalizing s recorded_at with
  | nil => exact .inr found
  | cons a alerts ih =>
    rcases ih _ _ found with mem | old
    · exact .inl (.tail _ mem)
    · rw [process_alert_active_alerts] at old
      by_cases same : k = a.id
      · rw [same, AList.lookup_insert] at old
        cases old
        exact .inl (.head _)
      · exact .inr (by rwa [AList.lookup_insert_ne same] at old)

/-- Where an active alert after one operation comes from: it was active before,
    or the operation is a `check_thresholds` call that raised it. -/
theorem step_active_cases {s : AlertSystem} {now : Nat} {op : AlertOp} {k : String} {alert : Alert}
    (found : (s.step now op).active_alerts.lookup k = some alert) :
    s.active_alerts.lookup k = some alert ∨
      ∃ snapshot fresh recorded_at, op = .check_thresholds snapshot fresh recorded_at ∧
        alert ∈ s.new_alerts now snapshot fresh := by
  cases op with
  | check_thresholds snapshot fresh recorded_at =>
    rcases process_alerts_active_cases s recorded_at found with raised | old
    · exact .inr ⟨snapshot, fresh, recorded_at, rfl, raised⟩
    · exact .inl old
  | resolve_alert alert_id recorded_at =>
    left
    simp only [AlertSystem.step, AlertSystem.resolve_alert] at found
    split at found
    · rw [add_to_history_active_alerts] at found
      by_cases same : k = alert_id
      · rw [same, AList.lookup_erase] at found
        cases found
      · rwa [AList.lookup_erase_ne same] at found
    · exact found
  | _ => exact .inl found

/-! ## Clock readings -/

/-- The readings an operation at `now` takes for its history entries come at `now`
    or after, in the order the entries are made. -/
def AlertOp.RecordsFrom (now : Nat) : AlertOp → Prop
  | .check_thresholds _ _ recorded_at => now ≤ recorded_at 0 ∧ Monotone recorded_at
  | .resolve_alert _ recorded_at => now ≤ recorded_at
  | _ => True

/-- The readings an operation takes for its history entries come no later than `later`. -/
def AlertOp.RecordsBy (later : Nat) : AlertOp → Prop
  | .check_thresholds _ _ recorded_at => ∀ i, recorded_at i ≤ later
  | .resolve_alert _ recorded_at => recorded_at ≤ later
  | _ => True

/-- A clock that never goes back along a run: each operation's readings come at its
    time or after, and no later than the time of any operation after it. -/
def ClockOrdered (ops : List (Nat × AlertOp)) : Prop :=
  (∀ p ∈ ops, p.2.RecordsFrom p.1) ∧ ops.Pairwise fun p q => p.2.RecordsBy q.1

theorem appended_after (s : AlertSystem) {now : Nat} {op : AlertOp} (clock : op.RecordsFrom now) :
    ∀ e ∈ s.appended now op, now ≤ e.timestamp := by
  intro e mem
  rcases mem_appended mem with ⟨_, _, _, _, i, rfl, _, rfl⟩ | ⟨_, _, _, rfl, _, rfl⟩
  · exact clock.1.trans (clock.2 (Nat.zero_le i))
  · exact clock

theorem appended_by (s : AlertSystem) {now later : Nat} {op : AlertOp} (clock : op.RecordsBy later) :
    ∀ e ∈ s.appended now op, e.timestamp ≤ later := by
  intro e mem
  rcases mem_appended mem with ⟨_, _, _, _, i, rfl, _, rfl⟩ | ⟨_, _, _, rfl, _, rfl⟩
  · exact clock i
  · exact clock

/-! ## The entries of the log -/

/-- The entry describes its alert consistently with its action: a `Created` entry
    an unresolved alert stamped no later than the entry, a `Resolved` entry a
    resolved alert resolved no later than the entry. -/
def WellFormedEntry (e : AlertHistoryEntry) : Prop :=
  (e.action = .Created ∧ e.alert.resolved = false ∧ e.alert.resolved_at = none ∧
      e.alert.timestamp ≤ e.timestamp) ∨
    (e.action = .Resolved ∧ e.alert.resolved = true ∧ ∃ r, e.alert.resolved_at = some r ∧ r ≤ e.timestamp)

theorem appended_wellFormed (s : AlertSystem) {now : Nat} {op : AlertOp} (clock : op.RecordsFrom now) :
    ∀ e ∈ s.appended now op, WellFormedEntry e := by
  intro e mem
  have after := appended_after s clock e mem
  rcases mem_appended mem with ⟨_, _, _, _, _, _, raised, rfl⟩ | ⟨_, _, _, _, _, rfl⟩
  · exact .inl ⟨rfl, (new_alerts_unresolved raised).1, (new_alerts_unresolved raised).2,
      (new_alerts_timestamp raised).trans_le after⟩
  · exact .inr ⟨rfl, rfl, now, rfl, after⟩

/-- From `new()`, the history holds entries of the run's log. -/
theorem history_sublist_runLog (ops : List (Nat × AlertOp)) :
    List.Sublist (AlertSystem.new.run ops).alert_history (AlertSystem.new.runLog ops) := by
  rw [@run_rtake AlertSystem.new [] rfl ops, List.nil_append, List.rtake]
  exact List.drop_sublist _ _

theorem history_entries_well_formed (ops : List (Nat × AlertOp)) (clock : ∀ p ∈ ops, p.2.RecordsFrom p.1) :
    ∀ e ∈ (AlertSystem.new.run ops).alert_history, WellFormedEntry e := by
  intro e mem
  obtain ⟨s, p, listed, here⟩ := mem_runLog ((history_sublist_runLog ops).subset mem)
  exact appended_wellFormed s (clock p listed) e here

/-- A run that raises the CPU alerts at time 0 and records them at the readings 1
    and 2, then resolves the warning at time 3 and records it at 4. -/
def cpu_lifecycle : List (Nat × AlertOp) :=
  [(0, .check_thresholds (cpu_at 99) id fun i => min (i + 1) 2), (3, .resolve_alert "cpu_usage" 4)]

theorem cpu_lifecycle_clock_ordered : ClockOrdered cpu_lifecycle := by
  refine ⟨?_, ?_⟩ <;> simp [cpu_lifecycle, AlertOp.RecordsFrom, AlertOp.RecordsBy]
  exact fun a b le => min_le_min_right 2 (Nat.succ_le_succ le)

unseal Rat.mul in
/-- The warning's `Resolved` entry is kept after `cpu_lifecycle`, and is well formed. -/
theorem cpu_lifecycle_resolved_well_formed :
    let resolved : AlertHistoryEntry :=
      ⟨{ create_alert "cpu_usage" 0 (greaterThan "cpu_usage" 80 .Warning none 300) 99 with
        resolved := true, resolved_at := some 3 }, .Resolved, 4⟩
    (∀ p ∈ cpu_lifecycle, p.2.RecordsFrom p.1) ∧
      resolved ∈ (AlertSystem.new.run cpu_lifecycle).alert_history ∧ WellFormedEntry resolved :=
  ⟨cpu_lifecycle_clock_ordered.1, by decide,
    history_entries_well_formed cpu_lifecycle cpu_lifecycle_clock_ordered.1 _ (by decide)⟩

/-! ## Active alerts and their `Created` entries -/

/-- Each active alert is unresolved and its `Created` entry is in the log. -/
def ActiveCreated (s : AlertSystem) (log : List AlertHistoryEntry) : Prop :=
  ∀ k alert, s.active_alerts.lookup k = some alert →
    alert.resolved = false ∧ alert.resolved_at = none ∧ ∃ t, AlertHistoryEntry.mk alert .Created t ∈ log

theorem activeCreated_step {s : AlertSystem} {log : List AlertHistoryEntry} (inv : ActiveCreated s log)
    (now : Nat) (op : AlertOp) : ActiveCreated (s.step now op) (log ++ s.appended now op) := by
  intro k alert found
  rcases step_active_cases found with old | ⟨snapshot, fresh, recorded_at, rfl, raised⟩
  · obtain ⟨unresolved, unset, created⟩ := inv k alert old
    exact ⟨unresolved, unset, created.imp fun _ entry => List.mem_append_left _ entry⟩
  · exact ⟨(new_alerts_unresolved raised).1, (new_alerts_unresolved raised).2,
      (created_entry_mem raised).imp fun _ entry => List.mem_append_right _ entry⟩

theorem activeCreated_run :
    ∀ {s : AlertSystem} {log : List AlertHistoryEntry} (ops : List (Nat × AlertOp)),
      ActiveCreated s log → ActiveCreated (s.run ops) (log ++ s.runLog ops)
  | _, _, [], inv => by simpa [AlertSystem.run, AlertSystem.runLog] using inv
  | s, log, (now, op) :: ops, inv => by
    simpa [AlertSystem.run, AlertSystem.runLog] using activeCreated_run ops (activeCreated_step inv now op)

theorem active_alerts_created (ops : List (Nat × AlertOp)) (k : String) (alert : Alert)
    (found : (AlertSystem.new.run ops).active_alerts.lookup k = some alert) :
    alert.resolved = false ∧ alert.resolved_at = none ∧
      ∃ t, AlertHistoryEntry.mk alert .Created t ∈ AlertSystem.new.runLog ops := by
  simpa using @activeCreated_run AlertSystem.new [] ops (fun _ _ none => by simp [AlertSystem.new] at none)
    k alert found

unseal Rat.mul in
/-- The CPU warning raised from `new()` at 99 % is active, unresolved and logged as created. -/
theorem cpu_warning_created :
    let warning := create_alert "cpu_usage" 0 (greaterThan "cpu_usage" 80 .Warning none 300) 99
    warning.resolved = false ∧ warning.resolved_at = none ∧
      ∃ t, AlertHistoryEntry.mk warning .Created t ∈
        AlertSystem.new.runLog [(0, .check_thresholds (cpu_at 99) id fun _ => 0)] :=
  active_alerts_created [(0, .check_thresholds (cpu_at 99) id fun _ => 0)] "cpu_usage" _ (by decide)

/-! ## `Resolved` after `Created` -/

/-- Every `Resolved` entry of the log comes after the `Created` entry of the same
    alert, which it records resolved. -/
def ResolvedAfterCreated (log : List AlertHistoryEntry) : Prop :=
  ∀ pre e post, log = pre ++ e :: post → e.action = .Resolved →
    ∃ alert t r, AlertHistoryEntry.mk alert .Created t ∈ pre ∧
      e.alert = { alert with resolved := true, resolved_at := some r }

/-- A `Resolved` entry one operation appends is about an active alert. -/
theorem appended_resolved {s : AlertSystem} {log : List AlertHistoryEntry} (inv : ActiveCreated s log)
    (now : Nat) (op : AlertOp) : ∀ e ∈ s.appended now op, e.action = .Resolved →
      ∃ alert t r, AlertHistoryEntry.mk alert .Created t ∈ log ∧
        e.alert = { alert with resolved := true, resolved_at := some r } := by
  intro e mem resolved
  rcases mem_appended mem with ⟨_, _, _, _, _, _, _, rfl⟩ | ⟨alert_id, _, alert, _, found, rfl⟩
  · cases resolved
  · obtain ⟨t, created⟩ := (inv alert_id alert found).2.2
    exact ⟨alert, t, now, created, rfl⟩

theorem ResolvedAfterCreated.append {log appended : List AlertHistoryEntry} (before : ResolvedAfterCreated log)
    (fresh : ∀ e ∈ appended, e.action = .Resolved →
      ∃ alert t r, AlertHistoryEntry.mk alert .Created t ∈ log ∧
        e.alert = { alert with resolved := true, resolved_at := some r }) :
    ResolvedAfterCreated (log ++ appended) := by
  intro pre e post split resolved
  rcases List.append_eq_append_iff.mp split with ⟨middle, rfl, rfl⟩ | ⟨earlier, rfl, tail⟩
  · obtain ⟨alert, t, r, created, eq⟩ := fresh e (by simp) resolved
    exact ⟨alert, t, r, List.mem_append_left _ created, eq⟩
  · cases earlier with
    | nil =>
      obtain ⟨alert, t, r, created, eq⟩ := fresh e (by rw [List.nil_append] at tail; exact tail ▸ .head _) resolved
      exact ⟨alert, t, r, by simpa using created, eq⟩
    | cons first rest =>
      obtain ⟨rfl, -⟩ := List.cons_eq_cons.mp tail
      exact before pre e rest rfl resolved

theorem resolvedAfterCreated_run :
    ∀ {s : AlertSystem} {log : List AlertHistoryEntry} (ops : List (Nat × AlertOp)),
      ActiveCreated s log → ResolvedAfterCreated log → ResolvedAfterCreated (log ++ s.runLog ops)
  | _, _, [], _, before => by simpa [AlertSystem.runLog] using before
  | s, log, (now, op) :: ops, inv, before => by
    have next := resolvedAfterCreated_run ops (activeCreated_step inv now op)
      (before.append (appended_resolved inv now op))
    simpa [AlertSystem.runLog] using next

theorem resolved_entry_follows_created (ops : List (Nat × AlertOp)) (pre post : List AlertHistoryEntry)
    (e : AlertHistoryEntry) (split : AlertSystem.new.runLog ops = pre ++ e :: post)
    (resolved : e.action = .Resolved) :
    ∃ alert t r, AlertHistoryEntry.mk alert .Created t ∈ pre ∧
      e.alert = { alert with resolved := true, resolved_at := some r } := by
  have log := @resolvedAfterCreated_run AlertSystem.new [] ops
    (fun _ _ none => by simp [AlertSystem.new] at none) (fun pre _ _ split _ => by simp at split)
  exact log pre e post (by simpa using split) resolved

unseal Rat.mul in
/-- The warning's `Resolved` entry, last in the log, follows its `Created` entry. -/
theorem cpu_warning_resolved_after_created :
    ∃ alert t r, AlertHistoryEntry.mk alert .Created t ∈ (AlertSystem.new.runLog cpu_lifecycle).dropLast ∧
      ({ create_alert "cpu_usage" 0 (greaterThan "cpu_usage" 80 .Warning none 300) 99 with
        resolved := true, resolved_at := some 3 } : Alert) = { alert with resolved := true, resolved_at := some r } :=
  resolved_entry_follows_created cpu_lifecycle _ []
    ⟨{ create_alert "cpu_usage" 0 (greaterThan "cpu_usage" 80 .Warning none 300) 99 with
      resolved := true, resolved_at := some 3 }, .Resolved, 4⟩ (by decide) rfl

/-! ## Time order -/

theorem created_entries_sorted : ∀ {recorded_at : Nat → Nat} (alerts : List Alert), Monotone recorded_at →
    ((created_entries recorded_at alerts).map (·.timestamp)).Sorted (· ≤ ·)
  | _, [], _ => .nil
  | recorded_at, _ :: alerts, mono => by
    refine List.sorted_cons.mpr ⟨fun t mem => ?_,
      created_entries_sorted alerts fun a b le => mono (Nat.succ_le_succ le)⟩
    obtain ⟨e, entry, rfl⟩ := List.mem_map.mp mem
    obtain ⟨_, _, i, rfl⟩ := mem_created_entries entry
    exact mono (Nat.zero_le (i + 1))

theorem appended_sorted (s : AlertSystem) {now : Nat} {op : AlertOp} (clock : op.RecordsFrom now) :
    ((s.appended now op).map (·.timestamp)).Sorted (· ≤ ·) := by
  cases op with
  | check_thresholds snapshot fresh recorded_at => exact created_entries_sorted _ clock.2
  | resolve_alert alert_id recorded_at =>
    simp only [AlertSystem.appended]
    split <;> simp
  | _ => exact .nil

theorem runLog_sorted : ∀ (s : AlertSystem) (ops : List (Nat × AlertOp)), ClockOrdered ops →
    ((s.runLog ops).map (·.timestamp)).Sorted (· ≤ ·)
  | _, [], _ => .nil
  | s, (now, op) :: ops, ⟨after, ordered⟩ => by
    rw [List.pairwise_cons] at ordered
    have rest : ClockOrdered ops := ⟨fun p listed => after p (.tail _ listed), ordered.2⟩
    rw [AlertSystem.runLog, List.map_append]
    refine List.pairwise_append.mpr ⟨appended_sorted s (after _ (.head _)), runLog_sorted _ ops rest,
      fun a mem b mem' => ?_⟩
    obtain ⟨e, here, rfl⟩ := List.mem_map.mp mem
    obtain ⟨e', later, rfl⟩ := List.mem_map.mp mem'
    obtain ⟨s', p, listed, entry⟩ := mem_runLog later
    exact (appended_by s (ordered.1 p listed) e here).trans (appended_after s' (rest.1 p listed) e' entry)

theorem history_time_ordered (ops : List (Nat × AlertOp)) (clock : ClockOrdered ops) :
    ((AlertSystem.new.run ops).alert_history.map (·.timestamp)).Sorted (· ≤ ·) :=
  (runLog_sorted _ ops clock).sublist ((history_sublist_runLog ops).map _)

unseal Rat.mul in
theorem cpu_lifecycle_time_ordered :
    ClockOrdered cpu_lifecycle ∧ ((AlertSystem.new.run cpu_lifecycle).alert_history.map (·.timestamp)).Sorted (· ≤ ·) :=
  ⟨cpu_lifecycle_clock_ordered, history_time_ordered cpu_lifecycle cpu_lifecycle_clock_ordered⟩

/-! ## Routes -/

/-- The route an operation adds, if any. -/
def AlertOp.added_route : AlertOp → Option AlertRoute
  | .add_route route => some route
  | _ => none

theorem step_routes (s : AlertSystem) (now : Nat) (op : AlertOp) :
    (s.step now op).routes = s.routes ++ op.added_route.toList := by
  show (s.step now op).policy.routes = _
  rw [step_policy]
  cases op <;> simp [Policy.apply, AlertOp.added_route, AlertSystem.policy]

theorem run_routes : ∀ (s : AlertSystem) (ops : List (Nat × AlertOp)),
    (s.run ops).routes = s.routes ++ ops.filterMap (·.2.added_route)
  | _, [] => by simp [AlertSystem.run]
  | s, (now, op) :: ops => by
    rw [AlertSystem.run, run_routes, step_routes, List.filterMap_cons]
    cases op.added_route <;> simp

theorem route_alert_append (first second : List AlertRoute) (alert : Alert) :
    route_alert (first ++ second) alert = route_alert first alert ++ route_alert second alert := by
  simp [route_alert]

theorem route_alert_defaults_first (ops : List (Nat × AlertOp)) (alert : Alert) :
    route_alert (AlertSystem.new.run ops).routes alert =
      [.Console, .Log] ++ route_alert (ops.filterMap (·.2.added_route)) alert := by
  rw [run_routes, route_alert_append]
  have every : alert.severity ∈ [AlertSeverity.Info, .Warning, .Critical] := by
    cases alert.severity <;> simp
  simp [route_alert, AlertSystem.new, setup_default_routes, every]

end NyxNet.Alerting
