import NyxNet.Alerting.Cooldown

/-!
# The alerting policy

The part of an `AlertSystem` an operator configures: each threshold's
configuration (every field but `last_triggered`), the suppression rules and the
routes. Abstractly it is a store that only `add_threshold` (a `HashMap::insert`),
`remove_threshold`, `add_suppression_rule` and `add_route` change (`Policy.apply`).
The system refines that store along every run (`run_policy`): `check_thresholds`
stamps `last_triggered` and nothing else of a threshold, and `resolve_alert`
touches no policy.
-/

namespace NyxNet.Alerting

/-- A threshold's configuration: everything but when it last fired. -/
def AlertThreshold.config (T : AlertThreshold) : AlertThreshold := { T with last_triggered := none }

@[simp] theorem config_stamp (alert : Alert) (T : AlertThreshold) : (stamp alert T).config = T.config := by
  unfold stamp
  split_ifs <;> rfl

/-- The policy an operator sets, with the thresholds looked up by id. -/
structure Policy where
  configs : String → Option AlertThreshold
  rules : List SuppressionRule
  routes : List AlertRoute

/-- The policy of an alert system. -/
def AlertSystem.policy (s : AlertSystem) : Policy :=
  ⟨fun k => (s.thresholds.lookup k).map AlertThreshold.config, s.suppression_rules, s.routes⟩

/-- What an operation does to the policy: only the four mutators change it. -/
def Policy.apply (p : Policy) : AlertOp → Policy
  | .add_threshold threshold_id threshold =>
    { p with configs := Function.update p.configs threshold_id (some threshold.config) }
  | .remove_threshold threshold_id => { p with configs := Function.update p.configs threshold_id none }
  | .add_suppression_rule rule => { p with rules := p.rules ++ [rule] }
  | .add_route route => { p with routes := p.routes ++ [route] }
  | .check_thresholds _ _ _ | .resolve_alert _ _ => p

theorem process_alert_policy (s : AlertSystem) (recorded_at : Nat) (alert : Alert) :
    (s.process_alert recorded_at alert).policy = s.policy := by
  simp only [AlertSystem.policy, process_alert_thresholds, Table.lookup_mapValues, Option.map_map,
    process_alert_suppression_rules, process_alert_routes, Policy.mk.injEq, and_true]
  funext k
  cases s.thresholds.lookup k <;> simp

theorem step_policy (s : AlertSystem) (now : Nat) (op : AlertOp) : (s.step now op).policy = s.policy.apply op := by
  cases op with
  | check_thresholds snapshot fresh recorded_at => exact process_alerts_frame _ process_alert_policy s recorded_at _
  | resolve_alert alert_id recorded_at =>
    simp only [AlertSystem.step, AlertSystem.resolve_alert]
    split <;> rfl
  | add_threshold threshold_id _ | remove_threshold threshold_id =>
    simp only [AlertSystem.step, AlertSystem.add_threshold, AlertSystem.remove_threshold, AlertSystem.policy,
      Policy.apply, Policy.mk.injEq, and_true]
    funext k
    by_cases same : k = threshold_id
    · subst same
      simp
    · simp [AList.lookup_insert_ne same, AList.lookup_erase_ne same, Function.update_noteq same]
  | add_suppression_rule rule => rfl
  | add_route route => rfl

/-- Along every run the system's policy is the abstract store's, changed by the
    mutators alone. -/
theorem run_policy (s : AlertSystem) :
    ∀ ops : List (Nat × AlertOp), (s.run ops).policy = ops.foldl (fun p op => p.apply op.2) s.policy
  | [] => rfl
  | (now, op) :: ops => by
    rw [AlertSystem.run, run_policy _ ops, step_policy]
    rfl

end NyxNet.Alerting
