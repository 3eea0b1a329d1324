import Mathlib.Algebra.Order.Group.Nat
import Mathlib.Logic.Function.Basic
import Mathlib.Data.List.Range

/-!
# Webhook delivery

`send_webhook_http` from the parse of its URL on. Its inputs are the URL, what
`url::Url::parse` makes of it (scheme and host), the retry count
(`NYX_ALERT_WEBHOOK_RETRIES`, 2 when unset) and what each attempt meets on the
network; its output is the result and the attempts and sleeps it made. A URL that
does not parse, or has no host, is rejected before any attempt.

For an `http` URL with a host an attempt ends the loop when its request is written or when
writing it fails (`send_webhook_http_ended`); only connect failures are retried,
with a sleep of `200 * min(2^i, 8)` ms after failed attempt `i`, and once every
attempt has failed to connect the last one's error is returned
(`send_webhook_http_connect_failures`). A write error leaves through the early
`return Err` inside the attempt, so it is never retried
(`webhook_write_error_not_retried`). An `https` URL is rejected at once
(`send_webhook_http_https`), while any other scheme goes through every attempt
and sleep before `unsupported scheme` is returned (`send_webhook_unsupported_scheme`).
-/

namespace NyxNet.Alerting

/-- What one attempt meets on the network. -/
inductive AttemptOutcome
  /-- `tokio::time::timeout` expires before `TcpStream::connect` returns. -/
  | connect_timeout
  /-- `TcpStream::connect` fails. -/
  | connect_error (e : String)
  /-- `write_all` of the request fails. -/
  | write_error (e : String)
  /-- The request is written; the read of the response is not checked. -/
  | written
  deriving DecidableEq, Repr

/-- What the loop does, in order. -/
inductive WebhookEvent
  /-- The body of the loop runs for attempt `i`: for an `http` URL, one connect. -/
  | attempt (i : Nat)
  | sleep (ms : Nat)
  deriving DecidableEq, Repr

/-- `u64::saturating_pow`. -/
def saturating_pow (base exp : Nat) : Nat := min (base ^ exp) (2 ^ 64 - 1)

/-- `2u64.saturating_pow(attempt).min(8)`. -/
def backoff (attempt : Nat) : Nat := min (saturating_pow 2 attempt) 8

/-- One pass of the loop body: `.error e` is an early `return Err(e)`, `.ok result`
    the `result` the retry match inspects. -/
def attempt_result (scheme : String) (outcome : AttemptOutcome) : Except String (Except String Unit) :=
  if scheme = "http" then
    match outcome with
    | .connect_timeout => .ok (.error "connect timeout")
    | .connect_error e => .ok (.error e)
    | .write_error e => .error e
    | .written => .ok (.ok ())
  else if scheme = "https" then .error "https not supported"
  else .ok (.error "unsupported scheme")

/-- `for attempt in attempts { .. }`, then the trailing `Err("unreachable")`. -/
def retry_loop (scheme : String) (retries : Nat) (outcome : Nat → AttemptOutcome) :
    List Nat → Except String Unit × List WebhookEvent
  | [] => (.error "unreachable", [])
  | attempt :: attempts =>
    match attempt_result scheme (outcome attempt) with
    | .error e => (.error e, [.attempt attempt])
    | .ok (.ok ()) => (.ok (), [.attempt attempt])
    | .ok (.error e) =>
      if attempt = retries then (.error e, [.attempt attempt])
      else
        let rest := retry_loop scheme retries outcome attempts
        (rest.1, .attempt attempt :: .sleep (200 * backoff attempt) :: rest.2)

/-- What `url::Url::parse` gives the function: the scheme and `host_str()`. -/
structure ParsedUrl where
  scheme : String
  host : Option String
  deriving DecidableEq, Repr

/-- Minimal HTTP POST webhook: `parsed` is what `url::Url::parse(url)` returns, its
    error text on failure. The port, path, JSON body and HMAC header only shape the
    bytes sent (`Hmac::new_from_slice` takes a key of any length), so the loop over
    the attempts `0..=retries` follows the two early returns. -/
def send_webhook_http (url : String) (parsed : Except String ParsedUrl) (retries : Nat)
    (outcome : Nat → AttemptOutcome) : Except String Unit × List WebhookEvent :=
  match parsed with
  | .error e => (.error ("invalid url " ++ url ++ ": " ++ e), [])
  | .ok parsed =>
    match parsed.host with
    | none => (.error "missing host", [])
    | some _ => retry_loop parsed.scheme retries outcome (List.range (retries + 1))

/-- A URL with a host goes to the loop over its attempts. -/
theorem send_webhook_http_host (url scheme host : String) (retries : Nat) (outcome : Nat → AttemptOutcome) :
    send_webhook_http url (.ok ⟨scheme, some host⟩) retries outcome =
      retry_loop scheme retries outcome (List.range' 0 (retries + 1)) := by
  rw [send_webhook_http, List.range_eq_range']

/-! ## The loop over an `http` URL -/

/-- The attempt leaves the loop whatever the retry count: its request was written,
    or writing it failed. -/
def AttemptOutcome.ends : AttemptOutcome → Bool
  | .write_error _ | .written => true
  | .connect_timeout | .connect_error _ => false

/-- What the attempt reports when it is the one that leaves the loop. -/
def AttemptOutcome.result : AttemptOutcome → Except String Unit
  | .connect_timeout => .error "connect timeout"
  | .connect_error e => .error e
  | .write_error e => .error e
  | .written => .ok ()

/-- Attempts `a, ..., a + k`, each but the last followed by its backoff sleep. -/
def attempts_from (a k : Nat) : List WebhookEvent :=
  (List.range' a k).flatMap (fun i => [.attempt i, .sleep (200 * min (2 ^ i) 8)]) ++ [.attempt (a + k)]

theorem attempts_from_succ (a k : Nat) :
    attempts_from a (k + 1) = .attempt a :: .sleep (200 * min (2 ^ a) 8) :: attempts_from (a + 1) k := by
  simp [attempts_from, List.range'_succ, Nat.add_right_comm a 1 k, Nat.add_assoc]

/-- The factor never saturates before the cap of 8. -/
theorem backoff_eq (attempt : Nat) : backoff attempt = min (2 ^ attempt) 8 := by
  unfold backoff saturating_pow
  omega

/-- One pass over an `http` URL: the attempt ends the loop, or it is the last, or
    the loop sleeps and goes on. -/
theorem retry_loop_http_cons (retries : Nat) (outcome : Nat → AttemptOutcome) (a : Nat) (rest : List Nat) :
    retry_loop "http" retries outcome (a :: rest) =
      if (outcome a).ends ∨ a = retries then ((outcome a).result, [.attempt a])
      else ((retry_loop "http" retries outcome rest).1,
        .attempt a :: .sleep (200 * min (2 ^ a) 8) :: (retry_loop "http" retries outcome rest).2) := by
  rw [retry_loop]
  cases outcome a <;> by_cases last : a = retries <;>
    simp [attempt_result, AttemptOutcome.ends, AttemptOutcome.result, backoff_eq, last]

section
variable (retries : Nat) (outcome : Nat → AttemptOutcome)

theorem retry_loop_connect_failures {a : Nat} :
    ∀ {k : Nat}, a + k = retries → (∀ i, a ≤ i → i ≤ retries → (outcome i).ends = false) →
      retry_loop "http" retries outcome (List.range' a (k + 1)) =
        ((outcome retries).result, attempts_from a k)
  | 0, last, failed => by
    simp [List.range'_succ, retry_loop_http_cons, ← last, attempts_from]
  | k + 1, last, failed => by
    have later := retry_loop_connect_failures (a := a + 1) (k := k) (by omega)
      fun i above within => failed i (by omega) within
    rw [List.range'_succ, retry_loop_http_cons, if_neg (by simp [failed a le_rfl (by omega)]; omega),
      later, attempts_from_succ]

theorem retry_loop_ended {a i : Nat} (within : i ≤ retries) (ended : (outcome i).ends = true)
    (failed : ∀ j, a ≤ j → j < i → (outcome j).ends = false) :
    ∀ {k : Nat}, a + k = retries → a ≤ i →
      retry_loop "http" retries outcome (List.range' a (k + 1)) = ((outcome i).result, attempts_from a (i - a))
  | 0, last, above => by
    obtain rfl : i = a := by omega
    simp [List.range'_succ, retry_loop_http_cons, ended, attempts_from]
  | k + 1, last, above => by
    rw [List.range'_succ, retry_loop_http_cons]
    rcases Nat.eq_or_lt_of_le above with same | before
    · subst same
      simp [ended, attempts_from]
    · have later := retry_loop_ended within ended (fun j above' => failed j (by omega))
        (a := a + 1) (k := k) (by omega) before
      rw [if_neg (by simp [failed a le_rfl before]; omega), later,
        show i - a = i - (a + 1) + 1 by omega, attempts_from_succ]

end

/-- With every attempt failing to connect, the loop makes all `retries + 1`
    attempts, sleeps after each but the last, and returns the last one's error. -/
theorem send_webhook_http_connect_failures (url host : String) (retries : Nat) (outcome : Nat → AttemptOutcome)
    (failed : ∀ i ≤ retries, (outcome i).ends = false) :
    send_webhook_http url (.ok ⟨"http", some host⟩) retries outcome =
      ((outcome retries).result, attempts_from 0 retries) := by
  rw [send_webhook_http_host]
  exact retry_loop_connect_failures retries outcome (Nat.zero_add _) fun i _ => failed i

theorem timeouts_exhaust_retries : AttemptOutcome.connect_timeout.ends = false ∧
    send_webhook_http "http://127.0.0.1/hook" (.ok ⟨"http", some "127.0.0.1"⟩) 2 (fun _ => .connect_timeout) =
      (.error "connect timeout", attempts_from 0 2) :=
  ⟨rfl, send_webhook_http_connect_failures _ _ 2 _ fun _ _ => rfl⟩

/-- The first attempt that writes its request, or fails to, ends the loop with its
    own result, after the sleeps of the attempts before it. -/
theorem send_webhook_http_ended (url host : String) (retries : Nat) (outcome : Nat → AttemptOutcome) {i : Nat}
    (within : i ≤ retries) (ended : (outcome i).ends = true) (failed : ∀ j < i, (outcome j).ends = false) :
    send_webhook_http url (.ok ⟨"http", some host⟩) retries outcome = ((outcome i).result, attempts_from 0 i) := by
  rw [send_webhook_http_host]
  exact retry_loop_ended retries outcome within ended (fun j _ => failed j) (Nat.zero_add _) (Nat.zero_le i)

/-- Attempt 0 times out, every later attempt writes its request. -/
def timeout_then_written : Nat → AttemptOutcome := Function.update (fun _ => .written) 0 .connect_timeout

theorem written_after_timeout :
    1 ≤ 2 ∧ (timeout_then_written 1).ends = true ∧ (∀ j < 1, (timeout_then_written j).ends = false) ∧
      send_webhook_http "http://127.0.0.1/hook" (.ok ⟨"http", some "127.0.0.1"⟩) 2 timeout_then_written =
        (.ok (), attempts_from 0 1) :=
  ⟨by decide, by decide, by decide,
    send_webhook_http_ended _ _ 2 timeout_then_written (i := 1) (by decide) (by decide) (by decide)⟩

/-- An `https` URL is rejected at the first attempt, whatever the retry count. -/
theorem send_webhook_http_https (url host : String) (retries : Nat) (outcome : Nat → AttemptOutcome) :
    send_webhook_http url (.ok ⟨"https", some host⟩) retries outcome = (.error "https not supported", [.attempt 0]) := by
  rw [send_webhook_http_host, List.range'_succ]
  simp [retry_loop, attempt_result]

section
variable (retries : Nat) (outcome : Nat → AttemptOutcome) {scheme : String}

/-- Over any other scheme each attempt fails as a connect failure with the error
    `unsupported scheme` would. -/
theorem retry_loop_unsupported (notHttp : scheme ≠ "http") (notHttps : scheme ≠ "https") :
    ∀ attempts : List Nat, retry_loop scheme retries outcome attempts =
      retry_loop "http" retries (fun _ => .connect_error "unsupported scheme") attempts
  | [] => rfl
  | a :: rest => by
    simp only [retry_loop, attempt_result, if_neg notHttp, if_neg notHttps, ite_true,
      retry_loop_unsupported notHttp notHttps rest]

/-- A URL with a host whose scheme is neither `http` nor `https` can never be
    delivered, yet the loop makes all `retries + 1` attempts and every backoff sleep
    before returning `unsupported scheme`. -/
theorem send_webhook_unsupported_scheme (url host : String) (notHttp : scheme ≠ "http")
    (notHttps : scheme ≠ "https") :
    send_webhook_http url (.ok ⟨scheme, some host⟩) retries outcome =
      (.error "unsupported scheme", attempts_from 0 retries) := by
  rw [send_webhook_http_host, retry_loop_unsupported retries outcome notHttp notHttps]
  exact retry_loop_connect_failures retries _ (Nat.zero_add _) fun _ _ _ => rfl

theorem ftp_url_retried : "ftp" ≠ "http" ∧ "ftp" ≠ "https" ∧
    send_webhook_http "ftp://127.0.0.1/hook" (.ok ⟨"ftp", some "127.0.0.1"⟩) 2 (fun _ => .written) =
      (.error "unsupported scheme", attempts_from 0 2) :=
  ⟨by decide, by decide, send_webhook_unsupported_scheme 2 _ _ _ (by decide) (by decide)⟩

end

theorem webhook_write_error_not_retried (url host : String) (retries : Nat) (e : String)
    (outcome : Nat → AttemptOutcome) :
    send_webhook_http url (.ok ⟨"http", some host⟩) retries (Function.update outcome 0 (.write_error e)) =
      (.error e, [.attempt 0]) := by
  rw [send_webhook_http_host, List.range'_succ, retry_loop_http_cons]
  simp [AttemptOutcome.ends, AttemptOutcome.result]

end NyxNet.Alerting
