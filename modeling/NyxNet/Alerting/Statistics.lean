import NyxNet.Alerting.System

/-!
# Alert statistics

`get_alert_statistics` counts the active alerts by severity with
`entry(..).or_insert(0) += 1` and scans the history for resolutions, alerts
created today and created alerts per metric. Each count is exact: a key is in a
map exactly when its count is positive, and its value is that count
(`get_alert_statistics_counts`).
-/

namespace NyxNet.Alerting

/-- Alert system statistics. -/
structure AlertStatistics where
  total_active : Nat
  active_by_severity : AList (fun _ : AlertSeverity => Nat)
  total_resolved : Nat
  total_created_today : Nat
  most_frequent_metrics : Table Nat

/-- `*map.entry(key).or_insert(0) += 1`. -/
def bump {K : Type} [DecidableEq K] (m : AList (fun _ : K => Nat)) (key : K) : AList (fun _ : K => Nat) :=
  m.insert key ((m.lookup key).getD 0 + 1)

/-- The day of a time in nanoseconds since the epoch: `as_secs() / 86400`. -/
def day_of (t : Nat) : Nat := t / 1000000000 / 86400

/-- One pass of the history loop. -/
def count_entry (today : Nat) (stats : AlertStatistics) (entry : AlertHistoryEntry) : AlertStatistics :=
  match entry.action with
  | .Resolved => { stats with total_resolved := stats.total_resolved + 1 }
  | .Created =>
    { stats with
      total_created_today :=
        if day_of entry.timestamp = today then stats.total_created_today + 1 else stats.total_created_today
      most_frequent_metrics := bump stats.most_frequent_metrics entry.alert.metric }

/-- Get alert statistics at clock time `now`. -/
def AlertSystem.get_alert_statistics (s : AlertSystem) (now : Nat) : AlertStatistics :=
  let stats : AlertStatistics :=
    { total_active := s.active_alerts.entries.length
      active_by_severity := ∅
      total_resolved := 0
      total_created_today := 0
      most_frequent_metrics := ∅ }
  let stats := { stats with
    active_by_severity := s.active_alerts.values.foldl (fun m alert => bump m alert.severity) stats.active_by_severity }
  s.alert_history.foldl (count_entry (day_of now)) stats

/-! ## Counting -/

section
variable {K : Type} [DecidableEq K]

/-- A map bumped at each key of a list holds, at every key, what it held plus the
    key's count in the list. -/
theorem lookup_foldl_bump (k : K) :
    ∀ (keys : List K) (m : AList (fun _ : K => Nat)), (keys.foldl bump m).lookup k =
      if keys.count k = 0 then m.lookup k else some ((m.lookup k).getD 0 + keys.count k)
  | [], m => rfl
  | key :: keys, m => by
    rw [List.foldl_cons, lookup_foldl_bump k keys, List.count_cons]
    by_cases same : key = k
    · subst same
      simp only [bump, AList.lookup_insert, Option.getD_some, beq_self_eq_true, if_true,
        if_neg (Nat.succ_ne_zero _)]
      split_ifs with zero
      · rw [zero]
      · congr 1
        omega
    · have other : (bump m key).lookup k = m.lookup k := AList.lookup_insert_ne (Ne.symm same)
      simp [other, same]

/-- Counted from an empty map, a key is present exactly when it occurs, with its count. -/
theorem lookup_count (k : K) (keys : List K) :
    (keys.foldl bump ∅).lookup k = if keys.count k = 0 then none else some (keys.count k) := by
  rw [lookup_foldl_bump]
  simp

end

theorem foldl_count_entry (today : Nat) :
    ∀ (entries : List AlertHistoryEntry) (stats : AlertStatistics),
      entries.foldl (count_entry today) stats =
        { stats with
          total_resolved := stats.total_resolved + entries.countP (·.action = .Resolved)
          total_created_today := stats.total_created_today +
            entries.countP (fun e => e.action = .Created ∧ day_of e.timestamp = today)
          most_frequent_metrics := ((entries.filter (·.action = .Created)).map (·.alert.metric)).foldl bump
            stats.most_frequent_metrics }
  | [], _ => rfl
  | entry :: entries, stats => by
    rw [List.foldl_cons, foldl_count_entry today entries]
    cases action : entry.action <;> by_cases sameDay : day_of entry.timestamp = today <;>
      simp [count_entry, action, sameDay, List.countP_cons, Nat.add_assoc, Nat.add_comm 1]

theorem get_alert_statistics_counts (s : AlertSystem) (now : Nat) :
    let stats := s.get_alert_statistics now
    stats.total_active = s.active_alerts.entries.length ∧
      (∀ severity, stats.active_by_severity.lookup severity =
        let n := s.active_alerts.values.countP (·.severity = severity)
        if n = 0 then none else some n) ∧
      stats.total_resolved = s.alert_history.countP (·.action = .Resolved) ∧
      stats.total_created_today =
        s.alert_history.countP (fun e => e.action = .Created ∧ day_of e.timestamp = day_of now) ∧
      ∀ metric, stats.most_frequent_metrics.lookup metric =
        let n := s.alert_history.countP (fun e => e.action = .Created ∧ e.alert.metric = metric)
        if n = 0 then none else some n := by
  have bySeverity : ∀ severity, (s.active_alerts.values.map (·.severity)).count severity =
      s.active_alerts.values.countP (·.severity = severity) := fun severity => by
    rw [List.count_eq_countP, List.countP_map]
    congr 1
  have byMetric : ∀ metric,
      ((s.alert_history.filter (·.action = .Created)).map (·.alert.metric)).count metric =
        s.alert_history.countP (fun e => e.action = .Created ∧ e.alert.metric = metric) := fun metric => by
    rw [List.count_eq_countP, List.countP_map, List.countP_filter]
    congr 1
    funext e
    by_cases same : e.alert.metric = metric <;> simp [same]
  simp only [AlertSystem.get_alert_statistics, foldl_count_entry, Nat.zero_add, true_and]
  refine ⟨fun severity => ?_, fun metric => ?_⟩
  · rw [← List.foldl_map, lookup_count, bySeverity]
  · rw [lookup_count, byMetric]

end NyxNet.Alerting
