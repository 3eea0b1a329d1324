import NyxNet.Alerting.History
import NyxNet.Alerting.Cooldown

/-!
# What one call changes

The fields of `AlertSystem` are private and `new()` is its only constructor, so an
alert system is always in a state some run from `AlertSystem::new()` reaches
(`Reachable`). There the history is within its bound of 10000
(`reachable_history_bounded`), and the two calls that write the history change
exactly what they report:

* `check_thresholds` adds each alert it returns under the alert's id, appends one
  `Created` entry per alert, in order and at its own clock reading, to the history
  window, restarts the cooldown of every threshold on a returned alert's (metric,
  layer) at the call's time, and changes nothing else (`check_thresholds_effect`);
* `resolve_alert` fails, with the state unchanged, exactly when the id is not
  active, and otherwise removes that one key and appends one `Resolved` entry,
  evicting the oldest entry only from a full history (`resolve_alert_atomic`).
-/

namespace NyxNet.Alerting

/-- The states a run from `AlertSystem::new()` reaches. -/
def Reachable (s : AlertSystem) : Prop := ∃ ops, AlertSystem.new.run ops = s

theorem reachable_history_bounded {s : AlertSystem} (reachable : Reachable s) :
    s.alert_history.length ≤ s.max_history_size ∧ s.max_history_size = 10000 := by
  obtain ⟨ops, rfl⟩ := reachable
  have size := run_max_history_size AlertSystem.new ops
  refine ⟨?_, size⟩
  rw [@run_rtake AlertSystem.new [] rfl ops, size, List.rtake, List.length_drop]
  omega

/-- A history within its bound is its own window. -/
theorem rtake_of_bounded {s : AlertSystem} (bounded : s.alert_history.length ≤ s.max_history_size) :
    s.alert_history = s.alert_history.rtake s.max_history_size := by
  rw [List.rtake, Nat.sub_eq_zero_of_le bounded, List.drop_zero]

/-- Within the bound, one entry is appended, and the oldest dropped only from a full history. -/
theorem add_to_history_of_bounded {s : AlertSystem} (bounded : s.alert_history.length ≤ s.max_history_size)
    (pos : 0 < s.max_history_size) (alert : Alert) (action : AlertAction) (now : Nat) :
    s.add_to_history alert action now =
      { s with alert_history := (if s.alert_history.length = s.max_history_size then s.alert_history.tail
          else s.alert_history) ++ [⟨alert, action, now⟩] } := by
  simp only [AlertSystem.add_to_history, List.length_append, List.length_singleton]
  split_ifs with over full full
  · have nonempty : s.alert_history ≠ [] := List.ne_nil_of_length_pos (by omega)
    rw [List.tail_append_of_ne_nil nonempty]
  · omega
  · omega
  · rfl

/-! ## `check_thresholds` -/

section
variable (s : AlertSystem) (recorded_at : Nat → Nat)

theorem process_alerts_active_of_not_mem {alerts : List Alert} {k : String}
    (absent : k ∉ alerts.map (·.id)) :
    (s.process_alerts recorded_at alerts).active_alerts.lookup k = s.active_alerts.lookup k := by
  induction alerts generalizing s recorded_at with
  | nil => rfl
  | cons alert alerts ih =>
    rw [List.map_cons, List.mem_cons, not_or] at absent
    rw [AlertSystem.process_alerts, ih _ _ absent.2, process_alert_active_alerts,
      AList.lookup_insert_ne absent.1]

theorem process_alerts_active_of_mem {alerts : List Alert} (distinct : (alerts.map (·.id)).Nodup)
    {alert : Alert} (mem : alert ∈ alerts) :
    (s.process_alerts recorded_at alerts).active_alerts.lookup alert.id = some alert := by
  induction alerts generalizing s recorded_at with
  | nil => cases mem
  | cons a alerts ih =>
    rw [List.map_cons, List.nodup_cons] at distinct
    rcases List.mem_cons.mp mem with rfl | mem
    · rw [AlertSystem.process_alerts, process_alerts_active_of_not_mem _ _ distinct.1,
        process_alert_active_alerts, AList.lookup_insert]
    · exact ih _ _ distinct.2 mem

end

/-- The stamps of alerts that all carry the time `t` restart a threshold at `t`
    exactly when one of them is on its (metric, layer). -/
theorem stampAll_of_timestamps {t : Nat} :
    ∀ (alerts : List Alert) (T : AlertThreshold), (∀ alert ∈ alerts, alert.timestamp = t) →
      stampAll alerts T = if ∃ alert ∈ alerts, T.metric = alert.metric ∧ T.layer = alert.layer
        then { T with last_triggered := some t } else T
  | [], T, _ => by simp [stampAll_nil]
  | alert :: alerts, T, timed => by
    rw [stampAll_cons, Function.comp_apply,
      stampAll_of_timestamps alerts _ (fun a mem => timed a (.tail _ mem))]
    by_cases matched : T.metric = alert.metric ∧ T.layer = alert.layer
    · simp [stamp, matched, timed alert (.head _)]
    · simp [stamp, matched]

theorem check_thresholds_effect {s : AlertSystem} (reachable : Reachable s) (now : Nat)
    (snapshot : MetricsSnapshot) (fresh : String → String) (recorded_at : Nat → Nat)
    (distinct : ((s.check_thresholds now snapshot fresh recorded_at).2.map (·.id)).Nodup)
    (unused : ∀ alert ∈ (s.check_thresholds now snapshot fresh recorded_at).2, alert.id ∉ s.active_alerts) :
    let r := s.check_thresholds now snapshot fresh recorded_at
    (∀ k alert, s.active_alerts.lookup k = some alert → r.1.active_alerts.lookup k = some alert) ∧
      (∀ alert ∈ r.2, r.1.active_alerts.lookup alert.id = some alert) ∧
      (∀ k, k ∉ r.2.map (·.id) → r.1.active_alerts.lookup k = s.active_alerts.lookup k) ∧
      r.1.alert_history =
        (s.alert_history ++ created_entries recorded_at r.2).rtake s.max_history_size ∧
      (∀ alert ∈ r.2, alert.timestamp = now) ∧
      (∀ k, r.1.thresholds.lookup k = (s.thresholds.lookup k).map fun T =>
        if ∃ alert ∈ r.2, T.metric = alert.metric ∧ T.layer = alert.layer
        then { T with last_triggered := some now } else T) ∧
      r.1.routes = s.routes ∧ r.1.suppression_rules = s.suppression_rules ∧
      r.1.max_history_size = s.max_history_size := by
  simp only [AlertSystem.check_thresholds] at distinct unused ⊢
  have timed : ∀ alert ∈ s.new_alerts now snapshot fresh, alert.timestamp = now :=
    fun _ mem => new_alerts_timestamp mem
  have kept : ∀ k, k ∈ s.active_alerts → k ∉ (s.new_alerts now snapshot fresh).map (·.id) := by
    intro k active listed
    obtain ⟨alert, mem, rfl⟩ := List.mem_map.mp listed
    exact unused alert mem active
  refine ⟨fun k alert found => ?_, fun alert => process_alerts_active_of_mem s recorded_at distinct,
    fun k => process_alerts_active_of_not_mem s recorded_at,
    process_alerts_rtake (rtake_of_bounded (reachable_history_bounded reachable).1) recorded_at _, timed,
    fun k => ?_, process_alerts_frame (·.routes) (fun _ _ _ => rfl) s recorded_at _,
    process_alerts_frame (·.suppression_rules) (fun _ _ _ => rfl) s recorded_at _,
    process_alerts_max_history_size s recorded_at _⟩
  · rw [process_alerts_active_of_not_mem s recorded_at (kept k (AList.lookup_isSome.mp (by rw [found]; rfl))),
      found]
  · rw [process_alerts_lookup]
    exact congrArg (Option.map · _) (funext fun T => stampAll_of_timestamps _ T timed)

unseal Rat.mul in
/-- From `new()`, a call at 99 % CPU records its alerts, at the readings 1 and 2,
    in a history that was empty. -/
theorem cpu_check_recorded :
    (AlertSystem.new.check_thresholds 0 (cpu_at 99) id (· + 1)).1.alert_history =
      (created_entries (· + 1) (AlertSystem.new.check_thresholds 0 (cpu_at 99) id (· + 1)).2).rtake 10000 :=
  (check_thresholds_effect (s := AlertSystem.new) ⟨[], rfl⟩ 0 (cpu_at 99) id (· + 1) (by decide)
    (fun _ _ => by simp [AlertSystem.new])).2.2.2.1

/-! ## `resolve_alert` -/

section
variable (s : AlertSystem) (now : Nat) (alert_id : String) (recorded_at : Nat)

theorem resolve_alert_not_found (absent : alert_id ∉ s.active_alerts) :
    s.resolve_alert now alert_id recorded_at = (.error ("Alert with ID " ++ alert_id ++ " not found"), s) := by
  simp [AlertSystem.resolve_alert, AList.lookup_eq_none.mpr absent]

theorem resolve_alert_atomic (reachable : Reachable s) :
    (alert_id ∉ s.active_alerts →
      s.resolve_alert now alert_id recorded_at = (.error ("Alert with ID " ++ alert_id ++ " not found"), s)) ∧
    ∀ alert, s.active_alerts.lookup alert_id = some alert →
      s.resolve_alert now alert_id recorded_at = (.ok (), { s with
        active_alerts := s.active_alerts.erase alert_id
        alert_history := (if s.alert_history.length = s.max_history_size then s.alert_history.tail
          else s.alert_history) ++
            [⟨{ alert with resolved := true, resolved_at := some now }, .Resolved, recorded_at⟩] }) := by
  obtain ⟨bounded, size⟩ := reachable_history_bounded reachable
  refine ⟨resolve_alert_not_found s now alert_id recorded_at, fun alert found => ?_⟩
  simp only [AlertSystem.resolve_alert, found]
  rw [add_to_history_of_bounded (s := { s with active_alerts := s.active_alerts.erase alert_id }) bounded
    (by dsimp only; omega)]

end

unseal Rat.mul in
/-- On a new system, resolving an unknown id fails and changes nothing; after a call
    at 99 % CPU, resolving the warning at 1 removes it and records it at the reading 2. -/
theorem resolve_unknown_then_warning :
    let s := (AlertSystem.new.check_thresholds 0 (cpu_at 99) id fun _ => 0).1
    let warning := create_alert "cpu_usage" 0 (greaterThan "cpu_usage" 80 .Warning none 300) 99
    AlertSystem.new.resolve_alert 0 "unknown" 0 =
        (.error ("Alert with ID " ++ "unknown" ++ " not found"), AlertSystem.new) ∧
      s.active_alerts.lookup "cpu_usage" = some warning ∧
      s.resolve_alert 1 "cpu_usage" 2 = (.ok (), { s with
        active_alerts := s.active_alerts.erase "cpu_usage"
        alert_history := (if s.alert_history.length = s.max_history_size then s.alert_history.tail
          else s.alert_history) ++ [⟨{ warning with resolved := true, resolved_at := some 1 }, .Resolved, 2⟩] }) :=
  ⟨(resolve_alert_atomic AlertSystem.new 0 "unknown" 0 ⟨[], rfl⟩).1 (by simp [AlertSystem.new]), by decide,
    (resolve_alert_atomic _ 1 "cpu_usage" 2 ⟨[(0, .check_thresholds (cpu_at 99) id fun _ => 0)], rfl⟩).2 _
      (by decide)⟩

end NyxNet.Alerting
