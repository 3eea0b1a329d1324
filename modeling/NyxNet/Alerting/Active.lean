import NyxNet.Alerting.System

/-!
# Active alerts and suppression

`active_alerts` is keyed by alert id along every run (`active_alerts_keyed_by_id`),
and nothing deduplicates alerts on a (metric, layer): two thresholds on one pair
fire together (`cpu_usage_active_twice`). `should_suppress_alert` counts the
alerts active before a call, so one call can pass a rule's bound
(`suppression_bound_exceeded`).
-/

namespace NyxNet.Alerting

/-- Each active alert is stored under its own id. -/
def KeyedById (s : AlertSystem) : Prop :=
  ∀ k alert, s.active_alerts.lookup k = some alert → alert.id = k

theorem keyedById_insert {s : AlertSystem} (keyed : KeyedById s) (alert : Alert) :
    ∀ k a, (s.active_alerts.insert alert.id alert).lookup k = some a → a.id = k := by
  intro k a found
  by_cases same : k = alert.id
  · subst same
    rw [AList.lookup_insert] at found
    cases found
    rfl
  · rw [AList.lookup_insert_ne same] at found
    exact keyed k a found

theorem keyedById_process_alerts {s : AlertSystem} (keyed : KeyedById s) (recorded_at : Nat → Nat)
    (alerts : List Alert) : KeyedById (s.process_alerts recorded_at alerts) := by
  induction alerts generalizing s recorded_at with
  | nil => exact keyed
  | cons alert alerts ih => exact ih (by simpa [KeyedById] using keyedById_insert keyed alert) _

theorem keyedById_step {s : AlertSystem} (keyed : KeyedById s) (now : Nat) (op : AlertOp) :
    KeyedById (s.step now op) := by
  cases op with
  | check_thresholds snapshot fresh recorded_at => exact keyedById_process_alerts keyed recorded_at _
  | resolve_alert alert_id recorded_at =>
    simp only [AlertSystem.step, AlertSystem.resolve_alert]
    split
    · intro k a found
      change (s.active_alerts.erase alert_id).lookup k = some a at found
      by_cases same : k = alert_id
      · rw [same, AList.lookup_erase] at found
        cases found
      · exact keyed k a (by rwa [AList.lookup_erase_ne same] at found)
    · exact keyed
  | _ => exact keyed

theorem keyedById_run {s : AlertSystem} (keyed : KeyedById s) (ops : List (Nat × AlertOp)) :
    KeyedById (s.run ops) := by
  induction ops generalizing s with
  | nil => exact keyed
  | cons op ops ih => exact ih (keyedById_step keyed op.1 op.2)

theorem active_alerts_keyed_by_id (ops : List (Nat × AlertOp)) (k : String) (alert : Alert)
    (found : (AlertSystem.new.run ops).active_alerts.lookup k = some alert) : alert.id = k :=
  keyedById_run (fun _ _ none => by simp [AlertSystem.new] at none) ops k alert found

unseal Rat.mul in
/-- The CPU warning's alert is stored under its own id. -/
theorem cpu_warning_keyed :
    (create_alert "cpu_usage" 0 (greaterThan "cpu_usage" 80 .Warning none 300) 99).id = "cpu_usage" :=
  active_alerts_keyed_by_id [(0, .check_thresholds (cpu_at 99) id fun _ => 0)] "cpu_usage" _ (by decide)

unseal Rat.mul in
theorem cpu_usage_active_twice :
    ((AlertSystem.new.run [(0, .check_thresholds (cpu_at 99) id fun _ => 0)]).active_alerts.values.filter
      fun alert => alert.metric = "cpu_usage" ∧ alert.layer = none).length = 2 := by
  decide

/-! ## Suppression -/

unseal Rat.mul in
theorem suppression_bound_exceeded :
    let rule : SuppressionRule := ⟨"cpu_usage", none, 1, from_secs 3600, 0⟩
    let s := AlertSystem.new.add_suppression_rule rule
    (s.active_alerts.values.filter fun alert => contains alert.metric rule.metric_pattern).length = 0 ∧
      ((s.check_thresholds 0 (cpu_at 99) id fun _ => 0).1.active_alerts.values.filter
        fun alert => contains alert.metric rule.metric_pattern).length = 2 := by
  decide

end NyxNet.Alerting
