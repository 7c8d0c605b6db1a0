import ClusterBilling.Fault

/-!
# Retries with growing waits

An operation is a step of some outer state that succeeds or fails. `RetryPolicy.afterFailure` says
whether a failure ends it or after which wait it is tried once more. `RetryPolicy.run` repeats it
while the failures are of a kind the policy retries and its budget lasts, and reports the outcome,
the waits between the attempts and the state the last attempt left. The state is opaque: nothing
is undone between attempts.

A wait grows up to the cap of the policy. A cap can be so long that the wait is longer than any
duration; the program does not come through that, and the operation ends there.
-/

namespace ClusterBilling

/-- When and how often a failed operation is tried again. -/
structure RetryPolicy where
  /-- The wait before the second attempt. -/
  baseDelay : Duration
  /-- The growth of the wait from one attempt to the next. -/
  multiplier : Float
  /-- The longest wait. -/
  maxDelay : Duration
  /-- Attempts in all; none count as one. -/
  maxAttempts : Nat
  /-- The failures that are worth another attempt. -/
  retries : Fault → Bool

namespace RetryPolicy

/-- Five attempts, one second at first, twice as long each time up to ten seconds. -/
def standard : RetryPolicy :=
  ⟨.ofSeconds 1, 2.0, .ofSeconds 10, 5, Fault.isTransient⟩

/-- The standard waits with another budget. -/
def withAttempts (attempts : Nat) : RetryPolicy :=
  { standard with maxAttempts := max attempts 1 }

/-- One attempt. -/
def once : RetryPolicy := withAttempts 1

/-- Integer power by repeated squaring from the lowest bit; the first argument bounds the bits. -/
def powerFrom : Nat → Float → Float → Nat → Float
  | 0, result, _, _ => result
  | bits + 1, result, base, n =>
    let result := if n % 2 = 1 then result * base else result
    if n / 2 = 0 then result else powerFrom bits result (base * base) (n / 2)

def power (base : Float) (n : Nat) : Float := powerFrom 64 1.0 base n

/-- The greatest exponent that is used for a wait. -/
def maxExponent : Nat := 2147483647

/-- The smaller of two numbers, the other one where one is no number. -/
def smaller (a b : Float) : Float :=
  if a.isNaN then b else if b.isNaN then a else if b < a then b else a

/-- The greater of two numbers, the other one where one is no number. -/
def greater (a b : Float) : Float :=
  if a.isNaN then b else if b.isNaN then a else if a < b then b else a

/-- The seconds to wait after `failed + 1` failed attempts: the base delay, grown `failed` times,
capped. -/
def cappedSeconds (p : RetryPolicy) (failed : Nat) : Float :=
  let factor := power p.multiplier (min failed maxExponent)
  greater (smaller (p.baseDelay.toSeconds * factor) p.maxDelay.toSeconds) 0.0

/-- **The wait** after `failed + 1` failed attempts, if a duration can hold it. -/
def backoff? (p : RetryPolicy) (failed : Nat) : Option Duration :=
  Duration.ofFloatSeconds? (p.cappedSeconds failed)

/-- The attempts that a policy allows. -/
def budget (p : RetryPolicy) : Nat := max p.maxAttempts 1

end RetryPolicy

/-- Where a retried operation stands. -/
structure Attempts where
  /-- The attempts that may follow the next one. -/
  left : Nat
  /-- The attempts that failed. -/
  failed : Nat
  /-- The latest wait. -/
  lastWait : Duration
deriving DecidableEq, Repr, Inhabited

/-- How a retried operation went. -/
structure Attempted (σ β : Type) where
  outcome : Except Fault β
  /-- The waits between the attempts. -/
  waits : List Duration
  /-- The state after the last attempt. -/
  state : σ

namespace RetryPolicy

variable {σ β : Type}

/-- Before the first attempt. -/
def start (p : RetryPolicy) : Attempts := ⟨p.budget - 1, 0, .zero⟩

/-- The end of an operation whose next wait no duration can hold. -/
def tooLong : Fault := .stopped "a wait is longer than any duration"

/-- **What follows a failure**: the attempts to go on with after their latest wait, or the fault
to end with. A failure the policy does not retry ends the operation as it is; when every allowed
attempt failed, the last failure is wrapped. -/
def afterFailure (p : RetryPolicy) (operation : String) (attempts : Attempts) (fault : Fault) :
    Except Fault Attempts :=
  if p.retries fault then
    match attempts.left with
    | 0 => .error (.retriesExhausted operation p.budget attempts.lastWait fault)
    | left + 1 =>
      match p.backoff? attempts.failed with
      | some wait => .ok ⟨left, attempts.failed + 1, wait⟩
      | none => .error tooLong
  else .error fault

/-- Going on costs an attempt. -/
theorem left_lt_of_afterFailure {p : RetryPolicy} {operation : String} {attempts next : Attempts}
    {fault : Fault} (goesOn : p.afterFailure operation attempts fault = .ok next) :
    next.left < attempts.left := by
  unfold afterFailure at goesOn
  split at goesOn
  · split at goesOn
    · cases goesOn
    · next left budgeted =>
      split at goesOn
      · cases goesOn
        simp [budgeted]
      · cases goesOn
  · cases goesOn

/-- The attempts that are still allowed. -/
def attempt (p : RetryPolicy) (operation : String) (act : σ → Except Fault β × σ)
    (attempts : Attempts) (s : σ) : Attempted σ β :=
  match act s with
  | (.ok value, s) => ⟨.ok value, [], s⟩
  | (.error fault, s) =>
    match _goesOn : p.afterFailure operation attempts fault with
    | .error fault => ⟨.error fault, [], s⟩
    | .ok next =>
      let rest := attempt p operation act next s
      { rest with waits := next.lastWait :: rest.waits }
termination_by attempts.left
decreasing_by exact left_lt_of_afterFailure _goesOn

/-- **The retry loop.** -/
def run (p : RetryPolicy) (operation : String) (act : σ → Except Fault β × σ) (s : σ) :
    Attempted σ β :=
  p.attempt operation act p.start s

end RetryPolicy

end ClusterBilling
