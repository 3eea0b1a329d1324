import Mathlib.Algebra.Order.Group.Nat
import Mathlib.Logic.Function.Iterate
import Mathlib.Data.Nat.GCD.Basic

/-!
# The Wesolowski VDF of `nyx-mix`

`eval`, `prove`, `verify` and `prove_mont` of `vdf.rs` over `Nat`, with
`BigUint::modpow` as `x ^ e % n` (the Rust call panics on a zero modulus; no
result below needs one). The difficulty `t : u64` is a `Nat`, so every result
holds for each `u64` value in particular.

`eval` is `x^(2^t) mod n` once the loop has run and `x` itself when it has not
(`eval_eq_pow_two_pow`). `verify` accepts what `prove` returns exactly when the chain of squarings ran at
least once or the input was already reduced (`verify_prove_iff`); at `t = 0` the
unreduced input comes back as `y`. `prove_mont` is `prove` on every input.

With the proof `prove` gives, `verify` accepts exactly `x^(2^t) mod n`
(`verify_honest_proof_iff`); its `r = 0` branch is never taken, `ℓ` being odd
(`verify_eq_modpow`); and up to `t = 128` the proof is `1 mod n` for every input
(`prove_pi_trivial`).
-/

namespace NyxNet.Vdf

/-- Public prime ℓ for Wesolowski (2^128 + 51), `L_PRIME_DEC`. -/
def L_PRIME : Nat := 340282366920938463463374607431768211507

theorem L_PRIME_eq : L_PRIME = 2 ^ 128 + 51 := by decide

/-- `BigUint::modpow`: `(self ^ exponent) % modulus`. -/
def modpow (x exponent modulus : Nat) : Nat := x ^ exponent % modulus

/-- Classic repeated squaring (legacy helper): `t` times `y ← y.modpow(2, n)` from `y = x`. -/
def eval (x n t : Nat) : Nat := (fun y => modpow y 2 n)^[t] x

/-- Evaluate Wesolowski VDF and return `(y, π)`. -/
def prove (x n t : Nat) : Nat × Nat :=
  let y := eval x n t
  let exp_two := 1 <<< t
  let r := exp_two % L_PRIME
  let q := (exp_two - r) / L_PRIME
  let pi := modpow x q n
  (y, pi)

/-- Verify Wesolowski proof: `π^ℓ · x^r mod n` against `y`. -/
def verify (x y pi n t : Nat) : Bool :=
  let exp_two := 1 <<< t
  let r := exp_two % L_PRIME
  let lhs :=
    let a := modpow pi L_PRIME n
    let b := if r = 0 then 1 else modpow x r n
    (a * b) % n
  lhs == y

/-- The repeated squaring of `prove_mont`: `t` times `y ← (y * y) % n` from `y = x`. -/
def fast_pow2 (x n t : Nat) : Nat := (fun y => (y * y) % n)^[t] x

/-- Evaluate Wesolowski VDF with mul-then-reduce squaring; `rayon::join` runs the
    two components in parallel. -/
def prove_mont (x n t : Nat) : Nat × Nat :=
  let exp_two := 1 <<< t
  let r := exp_two % L_PRIME
  let q := (exp_two - r) / L_PRIME
  (fast_pow2 x n t, modpow x q n)

/-! ## The squaring chain -/

@[simp] theorem eval_zero (x n : Nat) : eval x n 0 = x := rfl

theorem eval_succ (x n t : Nat) : eval x n (t + 1) = eval x n t ^ 2 % n :=
  Function.iterate_succ_apply' _ _ _

/-- After at least one squaring the loop variable is `x^(2^t) mod n`. -/
theorem eval_pos {t : Nat} (x n : Nat) (pos : 0 < t) : eval x n t = x ^ 2 ^ t % n := by
  induction t, pos using Nat.le_induction with
  | base => rfl
  | succ t _ ih => rw [eval_succ, ih, ← Nat.pow_mod, ← pow_mul, ← pow_succ]

/-- The chain returns its input unreduced when it never runs, and `x^(2^t) mod n`
    otherwise. -/
theorem eval_eq_pow_two_pow (x n t : Nat) : eval x n t = if t = 0 then x else x ^ 2 ^ t % n := by
  split_ifs with zero
  · rw [zero, eval_zero]
  · exact eval_pos x n (Nat.pos_of_ne_zero zero)

/-- The proof exponent and the remainder recompose `2^t`. -/
theorem exponent_split (t : Nat) :
    (1 <<< t - 1 <<< t % L_PRIME) / L_PRIME * L_PRIME + 1 <<< t % L_PRIME = 2 ^ t := by
  rw [← Nat.div_eq_sub_mod_div, Nat.one_shiftLeft, Nat.div_add_mod']

/-- What `verify` recomputes from a proof `π = x^q mod n`: `x^(qℓ + r) mod n`. -/
theorem verify_lhs (x n q r : Nat) :
    modpow (modpow x q n) L_PRIME n * (if r = 0 then 1 else modpow x r n) % n =
      x ^ (q * L_PRIME + r) % n := by
  have unit : (if r = 0 then 1 else modpow x r n) % n = x ^ r % n := by
    split_ifs with zero <;> simp [zero, modpow]
  have power : modpow (modpow x q n) L_PRIME n = x ^ (q * L_PRIME) % n := by
    rw [modpow, modpow, ← Nat.pow_mod, ← pow_mul]
  rw [Nat.mul_mod, unit, power, Nat.mod_mod, pow_add, Nat.mul_mod (x ^ _)]

/-- `verify` accepts the output of `prove` exactly when the chain ran at least
    once or `x` was already reduced modulo `n`. -/
theorem verify_prove_iff (x n t : Nat) :
    verify x (prove x n t).1 (prove x n t).2 n t = true ↔ 0 < t ∨ x % n = x := by
  simp only [verify, prove, beq_iff_eq, verify_lhs, exponent_split]
  rcases Nat.eq_zero_or_pos t with rfl | pos
  · simp
  · simp [eval_pos x n pos, pos]

/-! ## The verifier -/

/-- `ℓ` is odd, so it divides no power of two. -/
theorem two_pow_mod_L_PRIME_ne_zero (t : Nat) : 2 ^ t % L_PRIME ≠ 0 := by
  intro divides
  have coprime : Nat.Coprime L_PRIME (2 ^ t) := Nat.Coprime.pow_right t (by decide)
  exact absurd (coprime.eq_one_of_dvd (Nat.dvd_of_mod_eq_zero divides)) (by decide)

/-- The remainder `r = 2^t mod ℓ` is never zero, so the `BigUint::one()` branch of
    `verify` is never taken: `verify` always checks `π^ℓ · x^r mod n`. -/
theorem verify_eq_modpow (x y pi n t : Nat) :
    verify x y pi n t = (modpow pi L_PRIME n * modpow x (2 ^ t % L_PRIME) n % n == y) := by
  simp only [verify, Nat.one_shiftLeft, if_neg (two_pow_mod_L_PRIME_ne_zero t)]

/-- With the proof `prove` computes, `verify` accepts exactly the output
    `x^(2^t) mod n`, whatever the difficulty. -/
theorem verify_honest_proof_iff (x y n t : Nat) :
    verify x y (prove x n t).2 n t = true ↔ y = x ^ 2 ^ t % n := by
  simp only [verify, prove, beq_iff_eq, verify_lhs, exponent_split]
  exact eq_comm

/-- Up to `t = 128` the exponent `2^t` is below `ℓ`, so `q = 0` and the proof is
    `1 mod n` whatever the input: `verify` then recomputes `x^(2^t)` itself. -/
theorem prove_pi_trivial (x n t : Nat) (small : t ≤ 128) : (prove x n t).2 = 1 % n := by
  have below : 2 ^ t < L_PRIME :=
    calc 2 ^ t ≤ 2 ^ 128 := Nat.pow_le_pow_right (by decide) small
      _ < L_PRIME := by rw [L_PRIME_eq]; omega
  simp only [prove, modpow, Nat.one_shiftLeft, Nat.mod_eq_of_lt below, Nat.sub_self, Nat.zero_div, pow_zero]

/-- The difficulty of the crate's round-trip test. -/
theorem round_trip_test_pi_trivial : 100 ≤ 128 ∧ (prove 5 (1009 * 1013) 100).2 = 1 % (1009 * 1013) :=
  ⟨by decide, prove_pi_trivial 5 (1009 * 1013) 100 (by decide)⟩

theorem prove_verify_unreduced :
    verify 5 (prove 5 3 0).1 (prove 5 3 0).2 3 0 = false := by
  simpa using (verify_prove_iff 5 3 0).not.mpr (by decide)

/-! ## The optimised prover -/

theorem fast_pow2_eq_eval (x n t : Nat) : fast_pow2 x n t = eval x n t := by
  simp only [fast_pow2, eval, modpow, sq]

theorem prove_mont_eq_prove (x n t : Nat) : prove_mont x n t = prove x n t := by
  simp only [prove_mont, prove, fast_pow2_eq_eval]

end NyxNet.Vdf
