import Mathlib.Data.Rat.Floor
import Mathlib.Data.List.Sort
import Mathlib.Data.List.Forall2

/-!
# The timing obfuscator of `nyx-fec`

The worker task `TimingObfuscator::new` spawns, over the packets in the order they
reach its internal channel. Times are whole milliseconds; `f64` is `ℚ`; each
packet's `Normal(0, sigma)` draw is an input of the worker, so every result holds
for every draw (`rand_distr` 0.4 accepts a negative `sigma` too). The output
receiver, while the `TimingObfuscator` holds it, reads each packet as it is sent:
the 1024-slot output channel never fills and `send` never waits. A receiver that
falls 1024 packets behind is outside the model, and every result below assumes
one that keeps up until it is dropped.

One worker receives a packet only after it has released the previous one and then
sleeps the packet's full delay, so packet `i` leaves at
`max(release of packet i-1, e_i) + d_i`: every packet leaves exactly once, in
enqueue order, no earlier than its deadline `e_i + d_i` (`worker_releases`), and
at nondecreasing times (`worker_sorted`); packets waiting for the worker leave at
the running sums of their delays (`worker_backlogged`). A packet queued behind a
longer delay leaves after its deadline and after packets with later deadlines
(`release_queued_behind_delay`).

Whenever the receiver is dropped, the packets sent are a prefix of those enqueued
(`worker_payloads_prefix`), and dropping it only cuts the run short
(`worker_takeWhile`). Once every packet is enqueued, the last leaves within the sum
of the delays (`worker_release_bound`).
-/

namespace NyxNet.Fec

/-- Obfuscated packet with payload bytes. -/
structure Packet where
  data : List UInt8
  deriving DecidableEq, Repr

/-- TimingObfuscator parameters. -/
structure TimingConfig where
  /-- Mean delay in milliseconds. -/
  mean_ms : ℚ
  /-- Standard deviation. -/
  sigma_ms : ℚ

/-- `TimingConfig::default()`. -/
def TimingConfig.default : TimingConfig := ⟨20, 10⟩

/-- `(config.mean_ms + noise).max(0.0) as u64`: the sleep for one packet, in whole
    milliseconds (the cast truncates and saturates at `u64::MAX`). -/
def sampled_delay (config : TimingConfig) (noise : ℚ) : Nat :=
  min ⌊max (config.mean_ms + noise) 0⌋₊ (2 ^ 64 - 1)

/-- A packet as the worker's `recv` sees it: sent on the internal channel at
    `enqueued_at`, with the draw the worker's generator makes for it. -/
structure Arrival where
  pkt : Packet
  enqueued_at : Nat
  noise : ℚ

/-- The worker loop, back at `recv` at time `free`; `receiver_open t` says the
    `TimingObfuscator` still holds the output receiver at `t`, which then takes each
    packet as it is sent. It yields the packets sent on the output channel with
    their send times; a failed `send` breaks the loop. -/
def TimingObfuscator.worker (config : TimingConfig) (receiver_open : Nat → Bool) (free : Nat) :
    List Arrival → List (Packet × Nat)
  | [] => []
  | arrival :: rest =>
    let released := max free arrival.enqueued_at + sampled_delay config arrival.noise
    if receiver_open released then (arrival.pkt, released) :: worker config receiver_open released rest
    else []

open TimingObfuscator

/-- Two packets enqueued together at time 0 whose draws give 10 ms and 0 ms of
    delay under the default configuration. -/
def pair_at_zero : List Arrival := [⟨⟨[1]⟩, 0, -10⟩, ⟨⟨[2]⟩, 0, -30⟩]

section
variable (config : TimingConfig) (receiver_open : Nat → Bool)

/-- Nothing leaves before the worker is back at `recv`. -/
theorem worker_after {free : Nat} :
    ∀ {arrivals : List Arrival}, ∀ out ∈ worker config receiver_open free arrivals, free ≤ out.2
  | [], _, mem => by cases mem
  | arrival :: rest, out, mem => by
    simp only [worker] at mem
    split_ifs at mem
    · rcases List.mem_cons.mp mem with rfl | later
      · exact le_add_right (le_max_left _ _)
      · exact le_trans (le_add_right (le_max_left _ _)) (worker_after out later)
    · cases mem

theorem worker_sorted (free : Nat) :
    ∀ arrivals : List Arrival, List.Sorted (· ≤ ·) ((worker config receiver_open free arrivals).map (·.2))
  | [] => .nil
  | arrival :: rest => by
    simp only [worker]
    split_ifs
    · refine List.sorted_cons.mpr ⟨?_, worker_sorted _ rest⟩
      simp only [List.mem_map]
      rintro _ ⟨out, mem, rfl⟩
      exact worker_after config receiver_open out mem
    · exact .nil

/-- With a receiver that keeps up, each packet leaves once, in enqueue order, no
    earlier than its deadline. -/
theorem worker_releases (free : Nat) :
    ∀ arrivals : List Arrival,
      List.Forall₂ (fun arrival out => out.1 = arrival.pkt ∧
          arrival.enqueued_at + sampled_delay config arrival.noise ≤ out.2)
        arrivals (worker config (fun _ => true) free arrivals)
  | [] => .nil
  | arrival :: rest => by
    simp only [worker, if_true]
    exact .cons ⟨rfl, Nat.add_le_add_right (le_max_right _ _) _⟩ (worker_releases _ rest)

/-- With a receiver that keeps up, packets already waiting when the worker is free
    leave at the running sums of their delays: the delays add up instead of
    overlapping. -/
theorem worker_backlogged :
    ∀ (free : Nat) (arrivals : List Arrival), (∀ arrival ∈ arrivals, arrival.enqueued_at ≤ free) →
      (worker config (fun _ => true) free arrivals).map (·.2) =
        ((arrivals.map fun arrival => sampled_delay config arrival.noise).scanl (· + ·) free).tail
  | _, [], _ => rfl
  | free, arrival :: rest, waiting => by
    have later := worker_backlogged (free + sampled_delay config arrival.noise) rest
      fun a mem => le_add_right (waiting a (.tail _ mem))
    simp only [worker, if_true, max_eq_left (waiting arrival (.head _)),
      List.map_cons, later, List.scanl_cons, List.tail_cons]
    cases rest <;> rfl

theorem pair_at_zero_backlogged :
    (∀ arrival ∈ pair_at_zero, arrival.enqueued_at ≤ 0) ∧
      (worker TimingConfig.default (fun _ => true) 0 pair_at_zero).map (·.2) =
        ((pair_at_zero.map fun arrival => sampled_delay TimingConfig.default arrival.noise).scanl (· + ·) 0).tail :=
  ⟨by simp [pair_at_zero], worker_backlogged _ 0 pair_at_zero (by simp [pair_at_zero])⟩

end

/-- With the default configuration two packets enqueued together at time 0, drawn
    10 ms and 0 ms of delay, both leave at 10 ms, the first first: the second
    misses its 0 ms deadline and leaves after a packet with a later one. -/
theorem release_queued_behind_delay (first second : Packet) :
    sampled_delay TimingConfig.default (-10) = 10 ∧ sampled_delay TimingConfig.default (-30) = 0 ∧
      worker TimingConfig.default (fun _ => true) 0 [⟨first, 0, -10⟩, ⟨second, 0, -30⟩] =
        [(first, 10), (second, 10)] := by
  have d1 : sampled_delay TimingConfig.default (-10) = 10 := by
    norm_num [sampled_delay, TimingConfig.default]
  have d2 : sampled_delay TimingConfig.default (-30) = 0 := by
    norm_num [sampled_delay, TimingConfig.default]
  exact ⟨d1, d2, by simp [worker, d1, d2]⟩

/-! ## The output receiver -/

section
variable (config : TimingConfig) (receiver_open : Nat → Bool)

/-- Dropping the output receiver only cuts the run short: the worker sends what the
    run with a receiver that is never dropped sends, up to the first send after the
    drop. -/
theorem worker_takeWhile (free : Nat) :
    ∀ arrivals : List Arrival, worker config receiver_open free arrivals =
      (worker config (fun _ => true) free arrivals).takeWhile (fun out => receiver_open out.2)
  | [] => rfl
  | arrival :: rest => by
    simp only [worker, if_true]
    split_ifs with isOpen
    · simp only [List.takeWhile_cons, isOpen, if_true, worker_takeWhile]
    · simp [List.takeWhile_cons, isOpen]

/-- Whatever the configuration and whenever the receiver is dropped, the packets
    sent are a prefix of the packets enqueued: none is dropped before a later one
    is sent, duplicated, reordered or invented. -/
theorem worker_payloads_prefix (free : Nat) :
    ∀ arrivals : List Arrival, (worker config receiver_open free arrivals).map (·.1) <+: arrivals.map (·.pkt)
  | [] => List.nil_prefix
  | arrival :: rest => by
    simp only [worker]
    split_ifs
    · exact List.cons_prefix_cons.mpr ⟨rfl, worker_payloads_prefix _ rest⟩
    · exact List.nil_prefix

/-- With a receiver that keeps up until it is dropped: once the worker is free and
    every packet enqueued by time `c`, every packet leaves by `c` plus the sum of
    the delays drawn. -/
theorem worker_release_bound (c : Nat) :
    ∀ (free : Nat) (arrivals : List Arrival), free ≤ c → (∀ arrival ∈ arrivals, arrival.enqueued_at ≤ c) →
      ∀ out ∈ worker config receiver_open free arrivals,
        out.2 ≤ c + (arrivals.map fun arrival => sampled_delay config arrival.noise).sum
  | _, [], _, _, out, mem => by cases mem
  | free, arrival :: rest, idle, enqueued, out, mem => by
    have first : max free arrival.enqueued_at ≤ c := max_le idle (enqueued arrival (.head _))
    simp only [worker] at mem
    split_ifs at mem
    · rcases List.mem_cons.mp mem with rfl | later
      · simp only [List.map_cons, List.sum_cons]
        omega
      · have bound := worker_release_bound (c + sampled_delay config arrival.noise) _ rest
          (Nat.add_le_add_right first _) (fun a mem => le_add_right (enqueued a (.tail _ mem))) out later
        simp only [List.map_cons, List.sum_cons]
        omega
    · cases mem

/-- The bound for `pair_at_zero`, with the worker idle and both packets enqueued at 0. -/
theorem pair_at_zero_release_bound :
    (0 ≤ 0 ∧ ∀ arrival ∈ pair_at_zero, arrival.enqueued_at ≤ 0) ∧
      ∀ out ∈ worker TimingConfig.default (fun _ => true) 0 pair_at_zero,
        out.2 ≤ 0 + (pair_at_zero.map fun arrival => sampled_delay TimingConfig.default arrival.noise).sum :=
  ⟨⟨le_rfl, by simp [pair_at_zero]⟩,
    worker_release_bound TimingConfig.default _ 0 0 pair_at_zero le_rfl (by simp [pair_at_zero])⟩

end

end NyxNet.Fec
