import Mathlib.Logic.Function.Basic
import Mathlib.Data.List.Basic

/-!
# The SETTINGS synchronisation task

`spawn_settings_sync` of `nyx-control` as a state machine over the task's locals
(`peers`, `current`, `frame_bytes`), the watch channel it reads, its command
queue and the peers' transmit channels. Each event is a step of the environment
(a local value published, the watch sender dropped, a command sent, a peer
draining or closing its channel) or one arm of the task's `select!`. The parts
of `nyx_stream` the task calls, which are not under src/, are a parameter
`api`.

The broadcast arm keeps only the peers that took the new frame
(`broadcast_delivered`), and before the watch sender is dropped the task runs
the broadcast arm at most once per published value, plus once for a value the
receiver had not marked seen when the task was spawned (`rounds_le_published`).

Three runs go against what the source says of the task. The module doc has it
listen for local configuration changes, yet once the watch sender is dropped the
broadcast arm repeats forever with nothing published
(`broadcast_after_sender_dropped`). The registration arm is commented "send
latest frame upon registration", yet a peer registered on a closed channel is
kept without the frame, where the broadcast arm's `retain` would drop it
(`closed_peer_registered`). The module doc has the merged view published back
onto the watch channel, yet the inbound arm only marks the watch seen, so a
later local change undoes an inbound override (`inbound_override_undone`).
-/

namespace NyxNet.Settings

/-- A SETTINGS entry `{id: u16, value: u64}`. -/
structure Setting where
  id : Nat
  value : Nat
  deriving DecidableEq, Repr

/-- `Vec<u8>`. -/
abbrev Bytes := List UInt8

/-- What the task calls of `nyx_stream` for settings of type `S`. -/
structure StreamApi (S : Type) where
  /-- `current.to_frame().settings`. -/
  to_frame : S → List Setting
  /-- `current.apply(&frame)`. -/
  apply : S → List Setting → S
  build_settings_frame : List Setting → Bytes
  /-- `parse_settings_frame(&bytes)`, the settings of the frame when it parses. -/
  parse_settings_frame : Bytes → Option (List Setting)

/-- A peer's transmit channel: its capacity, the frames waiting in it, whether the
    receiver was dropped, and the last frame `try_send` enqueued on it. -/
structure PeerChannel where
  capacity : Nat
  queue : List Bytes
  closed : Bool
  last_enqueued : Option Bytes
  deriving DecidableEq, Repr

/-- `mpsc::Sender::try_send`: enqueues on an open channel with room, else fails. -/
def PeerChannel.try_send (c : PeerChannel) (frame : Bytes) : Bool × PeerChannel :=
  if !c.closed && c.queue.length < c.capacity then
    (true, { c with queue := c.queue ++ [frame], last_enqueued := some frame })
  else (false, c)

/-- Command sent to `SettingsSync`; a sender is named by the index of its channel. -/
inductive SettingsCmd
  | Inbound (bytes : Bytes)
  | RegisterTx (tx : Nat)
  deriving DecidableEq, Repr

/-- The task's locals and the channels around it. -/
structure SyncState (S : Type) where
  peers : List Nat
  current : S
  frame_bytes : Bytes
  /-- The value last published on the watch channel and its version. -/
  watched : S
  version : Nat
  /-- The version `local_rx` has marked seen. -/
  seen : Nat
  sender_dropped : Bool
  commands : List SettingsCmd
  channels : Nat → PeerChannel

/-- The capacity of the command channel, `mpsc::channel::<SettingsCmd>(32)`. -/
def COMMAND_CAPACITY : Nat := 32

inductive SyncEvent (S : Type)
  /-- `watch::Sender::send`. -/
  | publish (value : S)
  | drop_sender
  /-- `cmd_tx.send(cmd)`, which waits while the queue is full. -/
  | send_cmd (cmd : SettingsCmd)
  | drain (tx : Nat)
  | close (tx : Nat)
  /-- The `local_rx.changed()` arm of the `select!`. -/
  | local_changed
  /-- The `cmd_rx.recv()` arm of the `select!`. -/
  | command

section
variable {S : Type} (api : StreamApi S)

/-- `peers.retain(|tx| tx.try_send(frame_bytes.clone()).is_ok())`. -/
def broadcast (frame : Bytes) : List Nat → (Nat → PeerChannel) → List Nat × (Nat → PeerChannel)
  | [], channels => ([], channels)
  | tx :: rest, channels =>
    let sent := (channels tx).try_send frame
    let after := broadcast frame rest (Function.update channels tx sent.2)
    (if sent.1 then tx :: after.1 else after.1, after.2)

/-- The initial state of the spawned task on a watch value and peer channels.
    `marked_seen` says whether `local_rx` had marked `initial` seen: `borrow()`
    does not, so an unseen value makes the first `changed()` return at once. -/
def spawn (initial : S) (marked_seen : Bool) (channels : Nat → PeerChannel) : SyncState S :=
  { peers := []
    current := initial
    frame_bytes := api.build_settings_frame (api.to_frame initial)
    watched := initial
    version := if marked_seen then 0 else 1
    seen := 0
    sender_dropped := false
    commands := []
    channels }

/-- One command taken by the `cmd_rx.recv()` arm. -/
def handle (s : SyncState S) : SettingsCmd → SyncState S
  | .Inbound bytes =>
    match api.parse_settings_frame bytes with
    | some frame => { s with current := api.apply s.current frame, seen := s.version }
    | none => s
  | .RegisterTx tx =>
    { s with channels := Function.update s.channels tx ((s.channels tx).try_send s.frame_bytes).2,
             peers := s.peers ++ [tx] }

/-- One event, `none` when it cannot happen in `s`. -/
def step (s : SyncState S) : SyncEvent S → Option (SyncState S)
  | .publish value =>
    if s.sender_dropped then none else some { s with watched := value, version := s.version + 1 }
  | .drop_sender => some { s with sender_dropped := true }
  | .send_cmd cmd =>
    if s.commands.length < COMMAND_CAPACITY then some { s with commands := s.commands ++ [cmd] } else none
  | .drain tx =>
    match (s.channels tx).queue with
    | _ :: rest => some { s with channels := Function.update s.channels tx { s.channels tx with queue := rest } }
    | [] => none
  | .close tx => some { s with channels := Function.update s.channels tx { s.channels tx with closed := true } }
  | .local_changed =>
    if s.version ≠ s.seen ∨ s.sender_dropped then
      let frame_bytes := api.build_settings_frame (api.to_frame s.watched)
      let sent := broadcast frame_bytes s.peers s.channels
      some { s with seen := s.version, current := s.watched, frame_bytes, peers := sent.1, channels := sent.2 }
    else none
  | .command =>
    match s.commands with
    | cmd :: rest => some (handle api { s with commands := rest } cmd)
    | [] => none

/-- Events in order; `none` once one cannot happen. -/
def run : SyncState S → List (SyncEvent S) → Option (SyncState S)
  | s, [] => some s
  | s, event :: events => (step api s event).bind (run · events)

end

/-- The events that run the broadcast arm. -/
def SyncEvent.isLocalChanged {S : Type} : SyncEvent S → Bool
  | .local_changed => true
  | _ => false

/-- The events that publish a new value on the watch channel. -/
def SyncEvent.isPublish {S : Type} : SyncEvent S → Bool
  | .publish _ => true
  | _ => false

/-! ## The broadcast arm -/

theorem try_send_last_enqueued (c : PeerChannel) (frame : Bytes) :
    ((c.try_send frame).2.last_enqueued = c.last_enqueued ∨ (c.try_send frame).2.last_enqueued = some frame) ∧
      ((c.try_send frame).1 = true → (c.try_send frame).2.last_enqueued = some frame) := by
  unfold PeerChannel.try_send
  split_ifs <;> simp

/-- A broadcast leaves each channel's last frame as it was or sets it to the frame. -/
theorem broadcast_last_enqueued (frame : Bytes) :
    ∀ (peers : List Nat) (channels : Nat → PeerChannel) (t : Nat),
      ((broadcast frame peers channels).2 t).last_enqueued = (channels t).last_enqueued ∨
        ((broadcast frame peers channels).2 t).last_enqueued = some frame
  | [], _, _ => .inl rfl
  | tx :: rest, channels, t => by
    rcases broadcast_last_enqueued frame rest _ t with same | sent
    · rw [broadcast, same]
      by_cases here : t = tx
      · subst here
        simpa using (try_send_last_enqueued (channels t) frame).1
      · exact .inl (by rw [Function.update_noteq here])
    · exact .inr sent

/-- Every peer the broadcast keeps took the frame. -/
theorem broadcast_delivered (frame : Bytes) :
    ∀ (peers : List Nat) (channels : Nat → PeerChannel), ∀ tx ∈ (broadcast frame peers channels).1,
      ((broadcast frame peers channels).2 tx).last_enqueued = some frame
  | [], _, _, kept => by cases kept
  | tx :: rest, channels, t, kept => by
    simp only [broadcast] at kept ⊢
    have later := broadcast_delivered frame rest (Function.update channels tx ((channels tx).try_send frame).2) t
    split_ifs at kept with ok
    · rcases List.mem_cons.mp kept with rfl | kept
      · rcases broadcast_last_enqueued frame rest _ t with same | sent
        · rw [same, Function.update_same]
          exact (try_send_last_enqueued _ frame).2 ok
        · exact sent
      · exact later kept
    · exact later kept

/-- Open channels with room for one frame, but for channel 1, whose receiver is gone. -/
def one_closed : Nat → PeerChannel := Function.update (fun _ => ⟨1, [], false, none⟩) 1 ⟨1, [], true, none⟩

/-- A broadcast to peers 0 and 1 keeps peer 0 alone, which took the frame. -/
theorem one_closed_delivered :
    (broadcast [7] [0, 1] one_closed).1 = [0] ∧
      ∀ tx ∈ (broadcast [7] [0, 1] one_closed).1, ((broadcast [7] [0, 1] one_closed).2 tx).last_enqueued = some [7] :=
  ⟨by decide, broadcast_delivered [7] [0, 1] one_closed⟩

/-! ## Broadcast rounds -/

section
variable {S : Type} (api : StreamApi S)

theorem handle_watch (s : SyncState S) (cmd : SettingsCmd) :
    (handle api s cmd).version = s.version ∧ (handle api s cmd).sender_dropped = s.sender_dropped ∧
      ((handle api s cmd).seen = s.seen ∨ (handle api s cmd).seen = s.version) := by
  unfold handle
  split
  · split <;> simp
  · simp

/-- While the sender lives, a step runs the broadcast arm only on an unseen
    value: the published values not yet seen bound the rounds to come. -/
theorem step_rounds {s s' : SyncState S} {event : SyncEvent S} (ordered : s.seen ≤ s.version)
    (live : s.sender_dropped = false) (kept : event ≠ .drop_sender) (stepped : step api s event = some s') :
    s'.seen ≤ s'.version ∧ s'.sender_dropped = false ∧
      (if event.isLocalChanged then 1 else 0) + (s'.version - s'.seen) ≤
        (if event.isPublish then 1 else 0) + (s.version - s.seen) := by
  cases event with
  | publish value =>
    simp only [step, live, Bool.false_eq_true, ↓reduceIte, Option.some.injEq] at stepped
    subst stepped
    simp [SyncEvent.isLocalChanged, SyncEvent.isPublish]
    omega
  | drop_sender => exact absurd rfl kept
  | local_changed =>
    simp only [step, live, Bool.false_eq_true, or_false] at stepped
    split_ifs at stepped with unseen
    cases stepped
    simp [SyncEvent.isLocalChanged, SyncEvent.isPublish]
    omega
  | command =>
    simp only [step] at stepped
    split at stepped
    · rename_i cmd rest _
      cases stepped
      obtain ⟨version, dropped, seen⟩ := handle_watch api { s with commands := rest } cmd
      dsimp only at version dropped seen
      simp only [SyncEvent.isLocalChanged, SyncEvent.isPublish, version, dropped, Bool.false_eq_true,
        ↓reduceIte]
      exact ⟨by omega, live, by omega⟩
    · cases stepped
  | send_cmd cmd =>
    simp only [step] at stepped
    split_ifs at stepped
    cases stepped
    exact ⟨ordered, live, le_rfl⟩
  | drain tx =>
    simp only [step] at stepped
    split at stepped <;> cases stepped
    exact ⟨ordered, live, le_rfl⟩
  | close tx =>
    cases stepped
    exact ⟨ordered, live, le_rfl⟩

theorem run_rounds :
    ∀ {s s' : SyncState S} {events : List (SyncEvent S)}, run api s events = some s' →
      s.seen ≤ s.version → s.sender_dropped = false → (∀ event ∈ events, event ≠ .drop_sender) →
      events.countP SyncEvent.isLocalChanged + (s'.version - s'.seen) ≤
        events.countP SyncEvent.isPublish + (s.version - s.seen)
  | _, _, [], ran, _, _, _ => by cases ran; simp
  | s, s', event :: events, ran, ordered, live, kept => by
    obtain ⟨t, stepped, rest⟩ := Option.bind_eq_some.mp ran
    obtain ⟨ordered', live', counted⟩ := step_rounds api ordered live (kept event (.head _)) stepped
    have later := run_rounds rest ordered' live' (fun e mem => kept e (.tail _ mem))
    simp only [List.countP_cons]
    split_ifs at counted ⊢ <;> omega

/-- While the watch sender lives, the broadcast arm runs at most once per
    published value, and once more for an initial value not marked seen. -/
theorem rounds_le_published {s : SyncState S} (initial : S) (marked_seen : Bool) (channels : Nat → PeerChannel)
    (events : List (SyncEvent S)) (ran : run api (spawn api initial marked_seen channels) events = some s)
    (live : ∀ event ∈ events, event ≠ .drop_sender) :
    events.countP SyncEvent.isLocalChanged ≤
      events.countP SyncEvent.isPublish + if marked_seen then 0 else 1 := by
  have counted := run_rounds api ran (Nat.zero_le _) rfl live
  simp only [spawn] at counted
  split_ifs at counted ⊢ <;> omega

/-- Once dropped, the sender stays dropped and the broadcast arm is always ready. -/
theorem run_dropped :
    ∀ (n : Nat) {s : SyncState S}, s.sender_dropped = true → (run api s (List.replicate n .local_changed)).isSome
  | 0, _, _ => rfl
  | n + 1, s, dropped => by
    simp only [List.replicate_succ, run, step, dropped, or_true, ↓reduceIte, Option.some_bind]
    exact run_dropped n rfl

/-- After the watch sender is dropped the task runs the broadcast arm any number
    of times with no value published. -/
theorem broadcast_after_sender_dropped (initial : S) (marked_seen : Bool) (channels : Nat → PeerChannel)
    (n : Nat) :
    (run api (spawn api initial marked_seen channels) (.drop_sender :: List.replicate n .local_changed)).isSome ∧
      (SyncEvent.drop_sender :: List.replicate n (SyncEvent.local_changed (S := S))).countP
        SyncEvent.isLocalChanged = n ∧
      (SyncEvent.drop_sender :: List.replicate n (SyncEvent.local_changed (S := S))).countP
        SyncEvent.isPublish = 0 := by
  refine ⟨run_dropped api n rfl, ?_, ?_⟩ <;> simp [List.countP_replicate, SyncEvent.isLocalChanged, SyncEvent.isPublish]

/-! ## Registration -/

/-- A fresh peer channel with room for one frame. -/
def freshChannel : PeerChannel := ⟨1, [], false, none⟩

/-- A peer that registers on a channel whose receiver is gone is kept, and its
    channel never received the current frame. -/
theorem closed_peer_registered (initial : S) (marked_seen : Bool) :
    ∃ s, run api (spawn api initial marked_seen fun _ => freshChannel)
        [.close 0, .send_cmd (.RegisterTx 0), .command] =
        some s ∧ 0 ∈ s.peers ∧ (s.channels 0).last_enqueued ≠ some s.frame_bytes :=
  ⟨_, rfl, by simp [handle, spawn], by simp [handle, spawn, freshChannel, PeerChannel.try_send]⟩

end

/-! ## Merging -/

/-- The `width` bytes of `value`, most significant first. -/
def toBytesBE : Nat → Nat → Bytes
  | 0, _ => []
  | width + 1, value => toBytesBE width (value / 256) ++ [UInt8.ofNat (value % 256)]

/-- The number whose bytes, most significant first, are `bytes`. -/
def ofBytesBE (bytes : Bytes) : Nat := bytes.foldl (fun acc byte => acc * 256 + byte.toNat) 0

/-- Modelled from the spec: a SETTINGS payload, a sequence of `{id: u16, value: u64}`
    entries; the spec gives no byte order, big-endian is taken. -/
def parseSettings : Bytes → Option (List Setting)
  | [] => some []
  | i0 :: i1 :: v0 :: v1 :: v2 :: v3 :: v4 :: v5 :: v6 :: v7 :: rest =>
    (parseSettings rest).map (⟨ofBytesBE [i0, i1], ofBytesBE [v0, v1, v2, v3, v4, v5, v6, v7]⟩ :: ·)
  | _ => none

/-- Modelled from the spec: `StreamSettings` as its known settings with their values;
    `apply` overrides exactly the known ids present in the frame (the last entry
    for an id wins, unknown ids are ignored), and a frame is its SETTINGS payload. -/
def specApi : StreamApi (List Setting) where
  to_frame settings := settings
  apply current frame := current.map fun entry =>
    match (frame.filter (·.id = entry.id)).getLast? with
    | some override => { entry with value := override.value }
    | none => entry
  build_settings_frame settings := settings.flatMap fun entry => toBytesBE 2 entry.id ++ toBytesBE 8 entry.value
  parse_settings_frame := parseSettings

/-- An inbound frame sets id 1 to 1 in `current`; a later local change of id 2
    alone replaces `current` by the watch value, where id 1 is still 0. -/
theorem inbound_override_undone :
    (run specApi (spawn specApi [⟨1, 0⟩, ⟨2, 0⟩] true fun _ => freshChannel)
        [.send_cmd (.Inbound (specApi.build_settings_frame [⟨1, 1⟩])), .command]).map (·.current) =
      some [⟨1, 1⟩, ⟨2, 0⟩] ∧
    (run specApi (spawn specApi [⟨1, 0⟩, ⟨2, 0⟩] true fun _ => freshChannel)
        [.send_cmd (.Inbound (specApi.build_settings_frame [⟨1, 1⟩])), .command,
          .publish [⟨1, 0⟩, ⟨2, 5⟩], .local_changed]).map (·.current) =
      some [⟨1, 0⟩, ⟨2, 5⟩] := by
  decide

/-- A task spawned on a value its receiver has not marked seen runs the broadcast
    arm once with nothing published, and that round is the one the bound allows. -/
theorem unseen_initial_round :
    (∀ event ∈ [SyncEvent.local_changed (S := List Setting)], event ≠ .drop_sender) ∧
      [SyncEvent.local_changed (S := List Setting)].countP SyncEvent.isLocalChanged = 1 ∧
      [SyncEvent.local_changed (S := List Setting)].countP SyncEvent.isLocalChanged ≤
        [SyncEvent.local_changed (S := List Setting)].countP SyncEvent.isPublish + if false then 0 else 1 :=
  ⟨by simp, rfl,
    rounds_le_published specApi [⟨1, 0⟩] false (fun _ => freshChannel) [.local_changed] rfl (by simp)⟩

end NyxNet.Settings
