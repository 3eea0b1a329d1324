import NyxNet.Settings.Sync

/-!
# The frames the task sends and the peers it holds

Every frame the task puts on a peer's channel, by a broadcast or on registration,
is `frame_bytes`, and `frame_bytes` is only ever rebuilt from the value read off
the watch channel. So along every run, under every interleaving and for every
`nyx_stream` behaviour, each frame in a peer's channel was there at spawn or is
the frame of the initial settings or of a value published on the watch channel
(`queued_frames_local`): the view merged from inbound frames never reaches a
peer.

The peer list only grows by a processed `RegisterTx` and only shrinks by
`retain`, so it is a sublist of the registrations sent: no peer is invented,
reordered, or kept twice without being registered twice (`peers_registered`).
-/

namespace NyxNet.Settings

/-- The value an event publishes on the watch channel, if any. -/
def SyncEvent.published {S : Type} : SyncEvent S → Option S
  | .publish value => some value
  | _ => none

theorem try_send_queue (c : PeerChannel) (frame : Bytes) :
    ∀ f ∈ (c.try_send frame).2.queue, f ∈ c.queue ∨ f = frame := by
  intro f mem
  unfold PeerChannel.try_send at mem
  split_ifs at mem
  · simpa using mem
  · exact .inl mem

/-- A broadcast adds nothing but its frame to any channel. -/
theorem broadcast_queue (frame : Bytes) :
    ∀ (peers : List Nat) (channels : Nat → PeerChannel) (t : Nat),
      ∀ f ∈ ((broadcast frame peers channels).2 t).queue, f ∈ (channels t).queue ∨ f = frame
  | [], _, _, _, mem => .inl mem
  | tx :: rest, channels, t, f, mem => by
    rcases broadcast_queue frame rest _ t f mem with earlier | sent
    · by_cases here : t = tx
      · subst here
        rw [Function.update_same] at earlier
        exact try_send_queue _ frame f earlier
      · exact .inl (by rwa [Function.update_noteq here] at earlier)
    · exact .inr sent

section
variable {S : Type} (api : StreamApi S) (channels0 : Nat → PeerChannel)

/-- The watch value and `frame_bytes` come from `values`, and each queued frame
    was queued at spawn or is the frame of one of `values`. -/
def FramesFrom (values : List S) (s : SyncState S) : Prop :=
  s.watched ∈ values ∧ (∃ v ∈ values, s.frame_bytes = api.build_settings_frame (api.to_frame v)) ∧
    ∀ tx, ∀ f ∈ (s.channels tx).queue,
      f ∈ (channels0 tx).queue ∨ ∃ v ∈ values, f = api.build_settings_frame (api.to_frame v)

variable {api channels0}

theorem FramesFrom.mono {values values' : List S} {s : SyncState S} (frames : FramesFrom api channels0 values s)
    (sub : values ⊆ values') : FramesFrom api channels0 values' s := by
  obtain ⟨watched, ⟨v, mem, built⟩, queued⟩ := frames
  refine ⟨sub watched, ⟨v, sub mem, built⟩, fun tx f queuedAt => ?_⟩
  rcases queued tx f queuedAt with spawned | ⟨w, mem, built⟩
  · exact .inl spawned
  · exact .inr ⟨w, sub mem, built⟩

/-- Sending `frame_bytes` on one channel keeps the frames' origin. -/
theorem FramesFrom.send {values : List S} {s : SyncState S} (frames : FramesFrom api channels0 values s)
    (tx : Nat) (sent : PeerChannel) (queue : ∀ f ∈ sent.queue, f ∈ (s.channels tx).queue ∨ f = s.frame_bytes) :
    ∀ t, ∀ f ∈ (Function.update s.channels tx sent t).queue,
      f ∈ (channels0 t).queue ∨ ∃ v ∈ values, f = api.build_settings_frame (api.to_frame v) := by
  intro t f mem
  by_cases here : t = tx
  · subst here
    rw [Function.update_same] at mem
    rcases queue f mem with earlier | rfl
    · exact frames.2.2 t f earlier
    · exact .inr frames.2.1
  · rw [Function.update_noteq here] at mem
    exact frames.2.2 t f mem

theorem framesFrom_step {values : List S} {s s' : SyncState S} {event : SyncEvent S}
    (frames : FramesFrom api channels0 values s) (stepped : step api s event = some s') :
    FramesFrom api channels0 (values ++ event.published.toList) s' := by
  have grown : values ⊆ values ++ event.published.toList := List.subset_append_left _ _
  cases event with
  | publish value =>
    simp only [step] at stepped
    split_ifs at stepped
    cases stepped
    obtain ⟨_, built, queued⟩ := frames.mono grown
    exact ⟨by simp [SyncEvent.published], built, queued⟩
  | drop_sender =>
    cases stepped
    exact frames.mono grown
  | send_cmd cmd =>
    simp only [step] at stepped
    split_ifs at stepped
    cases stepped
    exact frames.mono grown
  | drain tx =>
    simp only [step, SyncEvent.published, Option.toList, List.append_nil] at stepped ⊢
    split at stepped
    · rename_i head rest queue
      cases stepped
      refine ⟨frames.1, frames.2.1, frames.send tx _ fun f mem => .inl ?_⟩
      simp [queue, mem]
    · cases stepped
  | close tx =>
    simp only [step, SyncEvent.published, Option.toList, List.append_nil] at stepped ⊢
    cases stepped
    exact ⟨frames.1, frames.2.1, frames.send tx _ fun f mem => .inl mem⟩
  | local_changed =>
    simp only [step, SyncEvent.published, Option.toList, List.append_nil] at stepped ⊢
    split_ifs at stepped
    cases stepped
    obtain ⟨watched, -, queued⟩ := frames
    refine ⟨watched, ⟨s.watched, watched, rfl⟩, fun tx f mem => ?_⟩
    rcases broadcast_queue _ s.peers s.channels tx f mem with earlier | rfl
    · exact queued tx f earlier
    · exact .inr ⟨s.watched, watched, rfl⟩
  | command =>
    simp only [step, SyncEvent.published, Option.toList, List.append_nil] at stepped ⊢
    split at stepped
    · rename_i cmd rest _
      cases stepped
      have kept : FramesFrom api channels0 values { s with commands := rest } := frames
      cases cmd with
      | Inbound bytes =>
        simp only [handle]
        split <;> exact kept
      | RegisterTx tx =>
        exact ⟨kept.1, kept.2.1, kept.send tx _ (try_send_queue _ _)⟩
    · cases stepped

theorem framesFrom_run :
    ∀ {values : List S} {s s' : SyncState S} {events : List (SyncEvent S)},
      run api s events = some s' → FramesFrom api channels0 values s →
        FramesFrom api channels0 (values ++ events.filterMap SyncEvent.published) s'
  | _, _, _, [], ran, frames => by
    cases ran
    simpa using frames
  | values, s, s', event :: events, ran, frames => by
    obtain ⟨t, stepped, rest⟩ := Option.bind_eq_some.mp ran
    have later := framesFrom_run rest (framesFrom_step frames stepped)
    rw [List.filterMap_cons]
    cases published : event.published <;> simpa [published] using later

theorem queued_frames_local (initial : S) (marked_seen : Bool) (channels : Nat → PeerChannel)
    (events : List (SyncEvent S)) {s : SyncState S}
    (ran : run api (spawn api initial marked_seen channels) events = some s) :
    ∀ tx, ∀ f ∈ (s.channels tx).queue, f ∈ (channels tx).queue ∨
      ∃ v, (v = initial ∨ .publish v ∈ events) ∧ f = api.build_settings_frame (api.to_frame v) := by
  have start : FramesFrom api channels [initial] (spawn api initial marked_seen channels) :=
    ⟨.head _, ⟨initial, .head _, rfl⟩, fun _ _ mem => .inl mem⟩
  intro tx f mem
  rcases (framesFrom_run ran start).2.2 tx f mem with spawned | ⟨v, listed, built⟩
  · exact .inl spawned
  · refine .inr ⟨v, ?_, built⟩
    rcases List.mem_cons.mp listed with rfl | published
    · exact .inl rfl
    · obtain ⟨event, mem, found⟩ := List.mem_filterMap.mp published
      cases event <;> simp only [SyncEvent.published, reduceCtorEq, Option.some.injEq] at found
      exact .inr (found ▸ mem)

end

/-- A peer registers, an inbound frame overrides id 1, the peer drains its first
    frame and a local change to id 1 is broadcast. -/
def inbound_then_local : List (SyncEvent (List Setting)) :=
  [.send_cmd (.RegisterTx 0), .command, .send_cmd (.Inbound (specApi.build_settings_frame [⟨1, 1⟩])), .command,
    .drain 0, .publish [⟨1, 5⟩], .local_changed]

/-- After `inbound_then_local` the peer holds the frame of the published value,
    not of the merged view. -/
theorem inbound_then_local_frames :
    let s := (run specApi (spawn specApi [⟨1, 0⟩] true fun _ => freshChannel) inbound_then_local).getD
      (spawn specApi [⟨1, 0⟩] true fun _ => freshChannel)
    (s.channels 0).queue = [specApi.build_settings_frame [⟨1, 5⟩]] ∧
      ∀ tx, ∀ f ∈ (s.channels tx).queue, f ∈ freshChannel.queue ∨
        ∃ v, (v = [⟨1, 0⟩] ∨ .publish v ∈ inbound_then_local) ∧ f = specApi.build_settings_frame (specApi.to_frame v) :=
  ⟨by decide, @queued_frames_local _ specApi [⟨1, 0⟩] true (fun _ => freshChannel) inbound_then_local _ rfl⟩

/-! ## Peers -/

section
variable {S : Type} {api : StreamApi S}

/-- The channel a command registers, if any. -/
def SettingsCmd.registered : SettingsCmd → Option Nat
  | .RegisterTx tx => some tx
  | .Inbound _ => none

/-- The channel an event's command registers, if any. -/
def SyncEvent.registered : SyncEvent S → Option Nat
  | .send_cmd cmd => cmd.registered
  | _ => none

/-- A broadcast keeps some of the peers, in order. -/
theorem broadcast_sublist (frame : Bytes) :
    ∀ (peers : List Nat) (channels : Nat → PeerChannel), List.Sublist (broadcast frame peers channels).1 peers
  | [], _ => .slnil
  | tx :: rest, channels => by
    simp only [broadcast]
    split_ifs
    · exact (broadcast_sublist frame rest _).cons₂ tx
    · exact (broadcast_sublist frame rest _).cons tx

/-- The peers, then the registrations still queued, are among the registrations sent. -/
def PeersRegistered (sent : List Nat) (s : SyncState S) : Prop :=
  List.Sublist (s.peers ++ s.commands.filterMap SettingsCmd.registered) sent

theorem peersRegistered_step {sent : List Nat} {s s' : SyncState S} {event : SyncEvent S}
    (registered : PeersRegistered sent s) (stepped : step api s event = some s') :
    PeersRegistered (sent ++ event.registered.toList) s' := by
  have grown : PeersRegistered (sent ++ event.registered.toList) s :=
    List.Sublist.trans registered (List.sublist_append_left _ _)
  cases event with
  | publish value =>
    simp only [step] at stepped
    split_ifs at stepped
    cases stepped
    exact grown
  | drop_sender =>
    cases stepped
    exact grown
  | send_cmd cmd =>
    simp only [step] at stepped
    split_ifs at stepped
    cases stepped
    unfold PeersRegistered at registered ⊢
    simp only [List.filterMap_append, ← List.append_assoc, SyncEvent.registered]
    cases cmd with
    | Inbound bytes => simpa [SettingsCmd.registered] using registered
    | RegisterTx tx => exact registered.append (List.Sublist.refl [tx])
  | drain tx =>
    simp only [step] at stepped
    split at stepped
    · cases stepped
      exact grown
    · cases stepped
  | close tx =>
    cases stepped
    exact grown
  | local_changed =>
    simp only [step] at stepped
    split_ifs at stepped
    cases stepped
    exact ((broadcast_sublist _ s.peers s.channels).append_right _).trans grown
  | command =>
    simp only [step] at stepped
    split at stepped
    · rename_i cmd rest queue
      cases stepped
      have pending : s.commands.filterMap SettingsCmd.registered =
          cmd.registered.toList ++ rest.filterMap SettingsCmd.registered := by
        rw [queue, List.filterMap_cons]
        cases cmd.registered <;> rfl
      simp only [PeersRegistered, pending] at grown
      cases cmd with
      | Inbound bytes =>
        simp only [handle]
        split <;> simpa [SettingsCmd.registered] using grown
      | RegisterTx tx => simpa [handle, PeersRegistered, SettingsCmd.registered] using grown
    · cases stepped

theorem peersRegistered_run :
    ∀ {sent : List Nat} {s s' : SyncState S} {events : List (SyncEvent S)},
      run api s events = some s' → PeersRegistered sent s →
        PeersRegistered (sent ++ events.filterMap SyncEvent.registered) s'
  | _, _, _, [], ran, registered => by
    cases ran
    simpa using registered
  | sent, s, s', event :: events, ran, registered => by
    obtain ⟨t, stepped, rest⟩ := Option.bind_eq_some.mp ran
    have later := peersRegistered_run rest (peersRegistered_step registered stepped)
    rw [List.filterMap_cons]
    cases found : event.registered <;> simpa [found] using later

/-- Every peer the task holds was registered, in registration order, and is held
    at most as often as it was registered. -/
theorem peers_registered (initial : S) (marked_seen : Bool) (channels : Nat → PeerChannel)
    (events : List (SyncEvent S)) {s : SyncState S}
    (ran : run api (spawn api initial marked_seen channels) events = some s) :
    List.Sublist s.peers (events.filterMap SyncEvent.registered) := by
  have start : PeersRegistered [] (spawn api initial marked_seen channels) := by simp [PeersRegistered, spawn]
  exact (List.sublist_append_left _ _).trans (by simpa using peersRegistered_run ran start)

end

theorem inbound_then_local_peers :
    let s := (run specApi (spawn specApi [⟨1, 0⟩] true fun _ => freshChannel) inbound_then_local).getD
      (spawn specApi [⟨1, 0⟩] true fun _ => freshChannel)
    s.peers = [0] ∧ List.Sublist s.peers (inbound_then_local.filterMap SyncEvent.registered) :=
  ⟨by decide, @peers_registered _ specApi [⟨1, 0⟩] true (fun _ => freshChannel) inbound_then_local _ rfl⟩

end NyxNet.Settings
