import NyxNet.Alerting.System
import Mathlib.Data.List.DropRight

/-!
# The bounded history

`add_to_history` keeps the history a sliding window: from `AlertSystem::new()`,
along every run, `alert_history` is the last `max_history_size` of the entries
handed to `add_to_history` so far, in order (`history_sliding_window`).
-/

namespace NyxNet.Alerting

/-- Appending to the last `m` entries of a log and dropping the oldest past `m`
    leaves the last `m` entries of the longer log. -/
theorem trim_rtake {α : Type} (log : List α) (entry : α) (m : Nat) :
    (if (log.rtake m ++ [entry]).length > m then (log.rtake m ++ [entry]).tail
      else log.rtake m ++ [entry]) = (log ++ [entry]).rtake m := by
  have keep : log.rtake m ++ [entry] = (log ++ [entry]).drop (log.length - m) := by
    rw [List.rtake, List.drop_append_of_le_length (Nat.sub_le _ _)]
  rw [keep, List.rtake, List.length_drop, List.length_append, List.length_singleton]
  split_ifs with over
  · rw [List.tail_drop]
    congr 1
    omega
  · congr 1
    omega

theorem add_to_history_rtake {s : AlertSystem} {log : List AlertHistoryEntry}
    (window : s.alert_history = log.rtake s.max_history_size) (alert : Alert) (action : AlertAction)
    (now : Nat) :
    (s.add_to_history alert action now).alert_history =
      (log ++ [AlertHistoryEntry.mk alert action now]).rtake s.max_history_size := by
  rw [← trim_rtake, ← window]
  rfl

theorem process_alerts_rtake {s : AlertSystem} {log : List AlertHistoryEntry}
    (window : s.alert_history = log.rtake s.max_history_size) (recorded_at : Nat → Nat) (alerts : List Alert) :
    (s.process_alerts recorded_at alerts).alert_history =
      (log ++ created_entries recorded_at alerts).rtake s.max_history_size := by
  induction alerts generalizing s log recorded_at with
  | nil => simpa [AlertSystem.process_alerts, created_entries] using window
  | cons alert alerts ih =>
    have next := add_to_history_rtake window alert .Created (recorded_at 0)
    simpa [AlertSystem.process_alerts, created_entries] using ih (s := s.process_alert (recorded_at 0) alert) next _

/-- One operation appends what `appended` says and keeps the window. -/
theorem step_rtake {s : AlertSystem} {log : List AlertHistoryEntry}
    (window : s.alert_history = log.rtake s.max_history_size) (now : Nat) (op : AlertOp) :
    (s.step now op).alert_history = (log ++ s.appended now op).rtake s.max_history_size := by
  cases op with
  | check_thresholds snapshot fresh recorded_at => exact process_alerts_rtake window recorded_at _
  | resolve_alert alert_id recorded_at =>
    simp only [AlertSystem.step, AlertSystem.resolve_alert, AlertSystem.appended]
    split
    · exact add_to_history_rtake (s := { s with active_alerts := _ }) window _ _ _
    · simpa using window
  | _ => simpa [AlertSystem.step, AlertSystem.appended] using window

theorem run_rtake {s : AlertSystem} {log : List AlertHistoryEntry}
    (window : s.alert_history = log.rtake s.max_history_size) (ops : List (Nat × AlertOp)) :
    (s.run ops).alert_history = (log ++ s.runLog ops).rtake s.max_history_size := by
  induction ops generalizing s log with
  | nil => simpa [AlertSystem.run, AlertSystem.runLog] using window
  | cons op ops ih =>
    obtain ⟨now, op⟩ := op
    have next := step_rtake window now op
    rw [← step_max_history_size s now op] at next
    simpa [AlertSystem.run, AlertSystem.runLog, step_max_history_size] using ih next

theorem run_max_history_size (s : AlertSystem) (ops : List (Nat × AlertOp)) :
    (s.run ops).max_history_size = s.max_history_size := by
  induction ops generalizing s with
  | nil => rfl
  | cons op ops ih => simp [AlertSystem.run, ih]

theorem history_sliding_window (ops : List (Nat × AlertOp)) :
    (AlertSystem.new.run ops).max_history_size = 10000 ∧
      (AlertSystem.new.run ops).alert_history = (AlertSystem.new.runLog ops).rtake 10000 :=
  ⟨run_max_history_size _ ops, by simpa using @run_rtake AlertSystem.new [] rfl ops⟩

end NyxNet.Alerting
