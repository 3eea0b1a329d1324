import NyxNet.Alerting.System

/-!
# Cooldowns

`process_alert` restarts the cooldown of every threshold on the alert's
(metric, layer), so a threshold's `last_triggered` is, at any point of a run,
either what it was given or the timestamp of an alert created on its own
(metric, layer) since (`stampedFrom_run`). Hence one threshold never raises two
alerts closer than its cooldown (`cooldown_safety`), and a threshold fires once
no alert on its (metric, layer), from any threshold, falls inside its cooldown
(`cooldown_shared_per_metric_layer`); an alert of another threshold on the same
pair does start it (`critical_cooldown_started_by_warning`).
-/

namespace NyxNet.Alerting

/-! ## Stamping -/

section
variable (alert : Alert) (T : AlertThreshold)

@[simp] theorem stamp_cooldown_duration : (stamp alert T).cooldown_duration = T.cooldown_duration := by
  unfold stamp; split_ifs <;> rfl

theorem stamp_cases :
    stamp alert T = T ∨ (T.metric = alert.metric ∧ T.layer = alert.layer ∧
      stamp alert T = { T with last_triggered := some alert.timestamp }) := by
  unfold stamp
  split_ifs with matched
  · exact .inr ⟨matched.1, matched.2, rfl⟩
  · exact .inl rfl

end

/-- The stamps of one call, in processing order. -/
def stampAll (alerts : List Alert) (T : AlertThreshold) : AlertThreshold :=
  alerts.foldl (fun T alert => stamp alert T) T

theorem stampAll_nil : stampAll [] = id := rfl

theorem stampAll_cons (alert : Alert) (alerts : List Alert) :
    stampAll (alert :: alerts) = stampAll alerts ∘ stamp alert := rfl

@[simp] theorem stampAll_cooldown_duration :
    ∀ (alerts : List Alert) (T : AlertThreshold), (stampAll alerts T).cooldown_duration = T.cooldown_duration
  | [], _ => rfl
  | alert :: alerts, T => by
    rw [stampAll_cons, Function.comp_apply, stampAll_cooldown_duration, stamp_cooldown_duration]

theorem process_alerts_lookup (s : AlertSystem) (recorded_at : Nat → Nat) (alerts : List Alert) (k : String) :
    (s.process_alerts recorded_at alerts).thresholds.lookup k = (s.thresholds.lookup k).map (stampAll alerts) := by
  induction alerts generalizing s recorded_at with
  | nil => simp [AlertSystem.process_alerts, stampAll_nil]
  | cons alert alerts ih => simp [AlertSystem.process_alerts, ih, stampAll_cons, Option.map_map]

/-- After a call whose alerts all carry the time `t` and one of which is on the
    threshold's (metric, layer), the threshold was last triggered at `t`. -/
theorem stampAll_last_triggered {t : Nat} :
    ∀ (alerts : List Alert) (T : AlertThreshold), (∀ alert ∈ alerts, alert.timestamp = t) →
      (T.last_triggered = some t ∨ ∃ alert ∈ alerts, T.metric = alert.metric ∧ T.layer = alert.layer) →
      (stampAll alerts T).last_triggered = some t
  | [], _, _, start => start.resolve_right (by simp)
  | alert :: alerts, T, timed, start => by
    rw [stampAll_cons, Function.comp_apply]
    apply stampAll_last_triggered alerts (stamp alert T) (fun a mem => timed a (.tail _ mem))
    by_cases matched : T.metric = alert.metric ∧ T.layer = alert.layer
    · exact .inl (by simp [stamp, matched, timed alert (.head _)])
    · have same : stamp alert T = T := by simp [stamp, matched]
      rw [same]
      rcases start with start | ⟨a, mem, hit⟩
      · exact .inl start
      · rcases List.mem_cons.mp mem with rfl | mem
        · exact absurd hit matched
        · exact .inr ⟨a, mem, hit⟩

/-! ## Where a last-triggered time comes from -/

/-- What the threshold `T0` can have become over a stretch of a run whose history
    entries are `log`: the same threshold, last triggered as at the start or at
    the timestamp of an alert created on its (metric, layer). -/
def StampedFrom (T0 : AlertThreshold) (log : List AlertHistoryEntry) (T : AlertThreshold) : Prop :=
  T = { T0 with last_triggered := T.last_triggered } ∧
    (T.last_triggered = T0.last_triggered ∨
      ∃ e ∈ log, e.action = .Created ∧ e.alert.metric = T0.metric ∧ e.alert.layer = T0.layer ∧
        T.last_triggered = some e.alert.timestamp)

theorem StampedFrom.start (T0 : AlertThreshold) : StampedFrom T0 [] T0 := ⟨rfl, .inl rfl⟩

theorem StampedFrom.mono {T0 T : AlertThreshold} {log log' : List AlertHistoryEntry}
    (stamped : StampedFrom T0 log T) (sub : log ⊆ log') : StampedFrom T0 log' T := by
  obtain ⟨same, start | ⟨e, mem, rest⟩⟩ := stamped
  · exact ⟨same, .inl start⟩
  · exact ⟨same, .inr ⟨e, sub mem, rest⟩⟩

theorem StampedFrom.stampAll {T0 T : AlertThreshold} {log : List AlertHistoryEntry} :
    ∀ {alerts : List Alert}, StampedFrom T0 log T →
      (∀ alert ∈ alerts, ∃ t, AlertHistoryEntry.mk alert .Created t ∈ log) →
      StampedFrom T0 log (stampAll alerts T)
  | [], stamped, _ => stamped
  | alert :: alerts, stamped, created => by
    rw [stampAll_cons, Function.comp_apply]
    refine StampedFrom.stampAll ?_ (fun a mem => created a (.tail _ mem))
    rcases stamp_cases alert T with same | ⟨metric, layer, stamped'⟩
    · rwa [same]
    · obtain ⟨fields, _⟩ := stamped
      obtain ⟨_, entry⟩ := created alert (.head _)
      rw [stamped']
      refine ⟨by rw [fields], .inr ⟨_, entry, rfl, ?_, ?_, rfl⟩⟩
      · rw [← metric, fields]
      · rw [← layer, fields]

theorem new_alerts_timestamp {s : AlertSystem} {now : Nat} {snapshot : MetricsSnapshot}
    {fresh : String → String} {alert : Alert} (mem : alert ∈ s.new_alerts now snapshot fresh) :
    alert.timestamp = now := by
  obtain ⟨k, found⟩ := mem_new_alerts_iff.mp mem
  obtain ⟨T, _, raised⟩ := Option.bind_eq_some.mp found
  rw [(check_threshold_some raised).2.2]
  rfl

/-- Every created entry of a run carries the time of one of its operations. -/
theorem runLog_created {e : AlertHistoryEntry} {s : AlertSystem} {ops : List (Nat × AlertOp)}
    (created : e.action = .Created) (mem : e ∈ s.runLog ops) : ∃ p ∈ ops, e.alert.timestamp = p.1 := by
  obtain ⟨_, p, listed, here⟩ := mem_runLog mem
  rcases mem_appended here with ⟨_, _, _, _, _, _, raised, rfl⟩ | ⟨_, _, _, _, _, rfl⟩
  · exact ⟨p, listed, new_alerts_timestamp raised⟩
  · cases created

/-- Apart from a call of `check_thresholds`, an operation that inserts nothing
    under `k` keeps or removes what is there. -/
theorem lookup_step_frame {s : AlertSystem} {k : String} {now : Nat} {op : AlertOp} {T : AlertThreshold}
    (kept : ∀ T', op ≠ .add_threshold k T') (found : (s.step now op).thresholds.lookup k = some T) :
    s.thresholds.lookup k = some T ∨ ∃ snapshot fresh recorded_at, op = .check_thresholds snapshot fresh recorded_at := by
  cases op with
  | check_thresholds snapshot fresh recorded_at => exact .inr ⟨snapshot, fresh, recorded_at, rfl⟩
  | resolve_alert alert_id recorded_at => exact .inl (by rwa [AlertSystem.step, resolve_alert_thresholds] at found)
  | add_threshold k' T' =>
    have other : k ≠ k' := fun same => kept T' (by rw [same])
    exact .inl (by rwa [AlertSystem.step, AlertSystem.add_threshold, AList.lookup_insert_ne other] at found)
  | remove_threshold k' =>
    left
    by_cases same : k = k'
    · rw [AlertSystem.step, AlertSystem.remove_threshold, same, AList.lookup_erase] at found
      cases found
    · rwa [AlertSystem.step, AlertSystem.remove_threshold, AList.lookup_erase_ne same] at found
  | add_suppression_rule rule => exact .inl found
  | add_route route => exact .inl found

theorem stampedFrom_step {s : AlertSystem} {k : String} {T0 : AlertThreshold}
    {log : List AlertHistoryEntry} (stamped : ∀ T, s.thresholds.lookup k = some T → StampedFrom T0 log T)
    (now : Nat) (op : AlertOp) (kept : ∀ T', op ≠ .add_threshold k T') :
    ∀ T, (s.step now op).thresholds.lookup k = some T → StampedFrom T0 (log ++ s.appended now op) T := by
  intro T found
  rcases lookup_step_frame kept found with stored | ⟨snapshot, fresh, recorded_at, rfl⟩
  · exact (stamped T stored).mono (List.subset_append_left _ _)
  · simp only [AlertSystem.step, AlertSystem.check_thresholds, process_alerts_lookup,
      Option.map_eq_some'] at found
    obtain ⟨T', stored, rfl⟩ := found
    have created : ∀ alert ∈ s.new_alerts now snapshot fresh, ∃ t, AlertHistoryEntry.mk alert .Created t ∈
        log ++ s.appended now (.check_thresholds snapshot fresh recorded_at) := fun alert mem =>
      (created_entry_mem mem).imp fun _ entry => List.mem_append_right _ entry
    exact ((stamped T' stored).mono (List.subset_append_left _ _)).stampAll created

theorem stampedFrom_run {k : String} {T0 : AlertThreshold} :
    ∀ {s : AlertSystem} {log : List AlertHistoryEntry} {ops : List (Nat × AlertOp)},
      (∀ T, s.thresholds.lookup k = some T → StampedFrom T0 log T) →
      (∀ p ∈ ops, ∀ T', p.2 ≠ .add_threshold k T') →
      ∀ T, (s.run ops).thresholds.lookup k = some T → StampedFrom T0 (log ++ s.runLog ops) T
  | _, _, [], stamped, _ => by simpa [AlertSystem.run, AlertSystem.runLog] using stamped
  | s, log, (now, op) :: ops, stamped, kept => by
    have next := stampedFrom_step stamped now op (kept _ (.head _))
    simpa [AlertSystem.run, AlertSystem.runLog] using
      stampedFrom_run next (fun p mem => kept p (.tail _ mem))

/-- Out of cooldown means last triggered at least a cooldown ago. -/
theorem in_cooldown_false_iff (T : AlertThreshold) (now : Nat) :
    in_cooldown T now = false ↔ ∀ l, T.last_triggered = some l → T.cooldown_duration ≤ now - l := by
  unfold in_cooldown
  split <;> simp_all

/-! ## One threshold, two calls -/

/-- A call raises at most one alert from the threshold under `k`. -/
theorem alerts_from_key_le_one (s : AlertSystem) (now : Nat) (snapshot : MetricsSnapshot)
    {fresh : String → String} (recorded_at : Nat → Nat) (injective : fresh.Injective) (k : String) :
    ((s.check_thresholds now snapshot fresh recorded_at).2.map (·.id)).count (fresh k) ≤ 1 :=
  List.nodup_iff_count_le_one.mp (new_alerts_ids_nodup s now snapshot injective) _

/-- After a call in which the threshold under `k` raises an alert at `t1`, it is
    last triggered at `t1`. -/
theorem alertFrom_stamps {s : AlertSystem} {k : String} {T : AlertThreshold} {t1 : Nat}
    {snapshot : MetricsSnapshot} {fresh : String → String} {alert : Alert}
    (stored : s.thresholds.lookup k = some T) (raised : s.alertFrom t1 snapshot fresh k = some alert)
    (recorded_at : Nat → Nat) :
    ∃ T1, (s.check_thresholds t1 snapshot fresh recorded_at).1.thresholds.lookup k = some T1 ∧
      T1.last_triggered = some t1 ∧ T1.cooldown_duration = T.cooldown_duration ∧ alert.timestamp = t1 := by
  have listed := mem_new_alerts_iff.mpr ⟨k, raised⟩
  rw [AlertSystem.alertFrom, stored, Option.some_bind] at raised
  have created := (check_threshold_some raised).2.2
  refine ⟨stampAll (s.new_alerts t1 snapshot fresh) T, ?_, ?_, ?_, by rw [created]; rfl⟩
  · simp [AlertSystem.check_thresholds, process_alerts_lookup, stored]
  · refine stampAll_last_triggered _ _ (fun a mem => new_alerts_timestamp mem) (.inr ⟨alert, listed, ?_, ?_⟩)
    all_goals rw [created]; rfl
  · exact stampAll_cooldown_duration _ T

theorem cooldown_separates {s0 : AlertSystem} {k : String} {T : AlertThreshold} {t1 t2 : Nat}
    {snapshot1 snapshot2 : MetricsSnapshot} {fresh1 fresh2 : String → String} {recorded_at1 : Nat → Nat}
    {a1 a2 : Alert} {mid : List (Nat × AlertOp)} (stored : s0.thresholds.lookup k = some T)
    (first : s0.alertFrom t1 snapshot1 fresh1 k = some a1)
    (kept : ∀ p ∈ mid, ∀ T', p.2 ≠ .add_threshold k T') (later : ∀ p ∈ mid, t1 ≤ p.1) (ordered : t1 ≤ t2)
    (second : ((s0.check_thresholds t1 snapshot1 fresh1 recorded_at1).1.run mid).alertFrom t2 snapshot2 fresh2 k =
      some a2) :
    a1.timestamp + T.cooldown_duration ≤ a2.timestamp := by
  obtain ⟨T1, stored1, last1, cooldown1, time1⟩ := alertFrom_stamps stored first recorded_at1
  obtain ⟨T2, stored2, raised2⟩ := Option.bind_eq_some.mp second
  obtain ⟨-, cooled, created2⟩ := check_threshold_some raised2
  have start : ∀ T', (s0.check_thresholds t1 snapshot1 fresh1 recorded_at1).1.thresholds.lookup k = some T' →
      StampedFrom T1 [] T' := fun T' found => by
    rw [stored1] at found
    cases found
    exact .start _
  obtain ⟨fields, origin⟩ := stampedFrom_run start kept T2 stored2
  have since : ∃ l, T2.last_triggered = some l ∧ t1 ≤ l := by
    rcases origin with same | ⟨e, mem, created, -, -, last⟩
    · exact ⟨t1, same.trans last1, le_rfl⟩
    · obtain ⟨p, op, time⟩ := runLog_created created (List.mem_append.mp mem |>.resolve_left (by simp))
      exact ⟨_, last, time ▸ later p op⟩
  obtain ⟨l, last2, after⟩ := since
  have gap := (in_cooldown_false_iff T2 t2).mp cooled l last2
  have cooldown2 : T2.cooldown_duration = T1.cooldown_duration := by rw [fields]
  have time2 : a2.timestamp = t2 := by rw [created2]; rfl
  omega

theorem cooldown_safety :
    (∀ (s : AlertSystem) (now : Nat) (snapshot : MetricsSnapshot) (fresh : String → String)
        (recorded_at : Nat → Nat) (k : String), fresh.Injective →
        ((s.check_thresholds now snapshot fresh recorded_at).2.map (·.id)).count (fresh k) ≤ 1) ∧
      ∀ (s0 : AlertSystem) (k : String) (T : AlertThreshold) (t1 t2 : Nat)
        (snapshot1 snapshot2 : MetricsSnapshot) (fresh1 fresh2 : String → String) (recorded_at1 : Nat → Nat)
        (a1 a2 : Alert) (mid : List (Nat × AlertOp)), s0.thresholds.lookup k = some T →
        s0.alertFrom t1 snapshot1 fresh1 k = some a1 → (∀ p ∈ mid, ∀ T', p.2 ≠ .add_threshold k T') →
        (∀ p ∈ mid, t1 ≤ p.1) → t1 ≤ t2 →
        ((s0.check_thresholds t1 snapshot1 fresh1 recorded_at1).1.run mid).alertFrom t2 snapshot2 fresh2 k = some a2 →
        a1.timestamp + T.cooldown_duration ≤ a2.timestamp :=
  ⟨fun s now snapshot _ recorded_at k injective => alerts_from_key_le_one s now snapshot recorded_at injective k,
    fun _ _ _ _ _ _ _ _ _ _ _ _ _ stored first kept later ordered second =>
      cooldown_separates stored first kept later ordered second⟩

unseal Rat.mul in
/-- The CPU warning raises one alert at time 0 and may raise the next 300 s later. -/
theorem cooldown_safety_cpu_warning :
    ((AlertSystem.new.check_thresholds 0 (cpu_at 99) id fun _ => 0).2.map (·.id)).count "cpu_usage" ≤ 1 ∧
      (create_alert "cpu_usage" 0 (greaterThan "cpu_usage" 80 .Warning none 300) 99).timestamp +
        (greaterThan "cpu_usage" 80 .Warning none 300).cooldown_duration ≤
      (create_alert "cpu_usage" (from_secs 300) (greaterThan "cpu_usage" 80 .Warning none 300) 99).timestamp :=
  ⟨cooldown_safety.1 AlertSystem.new 0 (cpu_at 99) id (fun _ => 0) "cpu_usage" Function.injective_id,
    cooldown_safety.2 AlertSystem.new "cpu_usage" _ 0 (from_secs 300) (cpu_at 99) (cpu_at 99) id id (fun _ => 0) _ _ []
      (by decide) (by decide) (by simp) (by simp) (by decide) (by decide)⟩

/-! ## A threshold fires once its (metric, layer) is quiet -/

theorem cooldown_shared_per_metric_layer {s0 : AlertSystem} {k : String} {T0 T : AlertThreshold}
    {now : Nat} {snapshot : MetricsSnapshot} {value : ℚ} (fresh : String → String)
    (ops : List (Nat × AlertOp)) (start : s0.thresholds.lookup k = some T0)
    (startCooled : ∀ l, T0.last_triggered = some l → l + T0.cooldown_duration ≤ now)
    (kept : ∀ p ∈ ops, ∀ T', p.2 ≠ .add_threshold k T') (clock : ∀ p ∈ ops, p.1 ≤ now)
    (stored : (s0.run ops).thresholds.lookup k = some T) (enabled : T.enabled = true)
    (extracted : extract_metric_value snapshot T.metric T.layer = some value)
    (exceeded : threshold_exceeded T value = true)
    (unsuppressed : (s0.run ops).should_suppress_alert now T.metric T.layer = false)
    (quiet : ∀ e ∈ s0.runLog ops, e.action = .Created → e.alert.metric = T.metric →
      e.alert.layer = T.layer → e.alert.timestamp + T.cooldown_duration ≤ now ∨ now < e.alert.timestamp) :
    ((s0.run ops).alertFrom now snapshot fresh k).isSome := by
  have begin : ∀ T', s0.thresholds.lookup k = some T' → StampedFrom T0 [] T' := fun T' found => by
    rw [start] at found
    cases found
    exact .start _
  obtain ⟨fields, origin⟩ := stampedFrom_run begin kept T stored
  have metric : T.metric = T0.metric := by rw [fields]
  have layer : T.layer = T0.layer := by rw [fields]
  have cooldown : T.cooldown_duration = T0.cooldown_duration := by rw [fields]
  have cooled : in_cooldown T now = false := by
    refine (in_cooldown_false_iff T now).mpr fun l last => ?_
    rcases origin with same | ⟨e, mem, created, onMetric, onLayer, stampedAt⟩
    · have := startCooled l (same ▸ last)
      omega
    · rw [List.nil_append] at mem
      obtain ⟨p, op, time⟩ := runLog_created created mem
      have recent := quiet e mem created (by rw [metric, onMetric]) (by rw [layer, onLayer])
      have past := clock p op
      rw [stampedAt] at last
      cases last
      omega
  rw [AlertSystem.alertFrom, stored, Option.some_bind]
  exact check_threshold_isSome (fresh k) enabled cooled extracted exceeded unsuppressed

unseal Rat.mul in
/-- At 90 % CPU the warning alone fires at 0 s and starts the critical threshold's
    cooldown of 60 s; at 60 s that cooldown is over and the critical fires at 99 %. -/
theorem critical_fires_after_warning_cooldown :
    let warned : List (Nat × AlertOp) := [(0, .check_thresholds (cpu_at 90) id fun _ => 0)]
    (AlertSystem.new.check_thresholds 0 (cpu_at 90) id fun _ => 0).2.map (·.id) = ["cpu_usage"] ∧
      ((AlertSystem.new.run warned).alertFrom (from_secs 60) (cpu_at 99) id "cpu_usage_critical").isSome :=
  ⟨by decide, @cooldown_shared_per_metric_layer AlertSystem.new "cpu_usage_critical"
    (greaterThan "cpu_usage" 95 .Critical none 60)
    { greaterThan "cpu_usage" 95 .Critical none 60 with last_triggered := some 0 } (from_secs 60)
    (cpu_at 99) 99 id _ (by decide) (fun _ never => by cases never) (by simp) (by simp) (by decide) rfl
    (by decide) (by decide) (by decide) (by decide)⟩

unseal Rat.mul in
/-- At time 0 only the CPU warning fires; ten seconds later the critical threshold,
    which raised nothing, stays silent at 99 % because the warning started its cooldown. -/
theorem critical_cooldown_started_by_warning :
    (AlertSystem.new.check_thresholds 0 (cpu_at 90) id fun _ => 0).2.map (·.id) = ["cpu_usage"] ∧
      (AlertSystem.new.check_thresholds 0 (cpu_at 90) id fun _ => 0).1.alertFrom (from_secs 10) (cpu_at 99) id
        "cpu_usage_critical" = none := by
  decide

end NyxNet.Alerting
