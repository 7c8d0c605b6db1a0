import ClusterBilling.Retry

/-!
# What a retried operation comes to

An operation that is called again and again answers a sequence of outcomes (`outcomeAt`), each call
going on from the state that the one before left. An outcome is final for a policy if it is a
success or a fault the policy does not retry.

**The loop ends at the first final outcome, or with its budget** (`run_endsAtFirst`): a final
outcome within the budget is returned as it is, after one call for it and one for each outcome
before; if there is none, every allowed attempt was made and the last fault is wrapped. There is a
wait behind every attempt but the last one, and the waits are those of the policy from its first one
on. All of this is so as long as a duration can hold the waits that come up; the loop does not come
through one that is too long, whatever is left of its budget (`run_endless`).

The step is `afterFailure_attemptsAfter`: how many attempts failed is all that a loop has to know of
its past. The same step serves loops that stand still between two attempts.
-/

namespace ClusterBilling

variable {σ β : Type}

namespace RetryPolicy

/-- The latest wait once an operation failed a number of times and is tried again. -/
def waitAfter (p : RetryPolicy) : Nat → Duration
  | 0 => .zero
  | failed + 1 => (p.backoff? failed).getD .zero

/-- Whether a duration can hold every wait that the budget of a policy has room for. -/
def WaitsFit (p : RetryPolicy) : Prop :=
  ∀ failed, failed + 1 < p.budget → (p.backoff? failed).isSome

/-- The attempts of an operation that failed a number of times. -/
def attemptsAfter (p : RetryPolicy) (failed : Nat) : Attempts :=
  ⟨p.budget - 1 - failed, failed, p.waitAfter failed⟩

theorem budget_pos (p : RetryPolicy) : 0 < p.budget := Nat.le_max_right _ _

/-- **What follows a failure**: a fault that is not retried ends the operation, and so does the last
failure that is allowed; any other one leaves an attempt less, if there can be a wait before it. -/
theorem afterFailure_attemptsAfter (p : RetryPolicy) (operation : String) (fault : Fault)
    {failed : Nat} (allowed : failed < p.budget) :
    (p.retries fault = false
        ∧ p.afterFailure operation (p.attemptsAfter failed) fault = .error fault)
      ∨ (p.retries fault = true ∧ failed + 1 = p.budget
        ∧ p.afterFailure operation (p.attemptsAfter failed) fault
          = .error (.retriesExhausted operation p.budget (p.waitAfter failed) fault))
      ∨ (p.retries fault = true ∧ failed + 1 < p.budget ∧ (p.backoff? failed).isSome
        ∧ p.afterFailure operation (p.attemptsAfter failed) fault
          = .ok (p.attemptsAfter (failed + 1)))
      ∨ (p.retries fault = true ∧ failed + 1 < p.budget ∧ p.backoff? failed = none
        ∧ p.afterFailure operation (p.attemptsAfter failed) fault = .error tooLong) := by
  cases again : p.retries fault with
  | false => exact .inl ⟨rfl, by simp [afterFailure, again]⟩
  | true =>
    cases left : p.budget - 1 - failed with
    | zero =>
      refine .inr (.inl ⟨rfl, by omega, ?_⟩)
      simp [afterFailure, again, attemptsAfter, left]
    | succ more =>
      have rest : p.budget - 1 - (failed + 1) = more := by omega
      cases wait : p.backoff? failed with
      | some delay =>
        refine .inr (.inr (.inl ⟨rfl, by omega, rfl, ?_⟩))
        simp [afterFailure, again, attemptsAfter, left, rest, waitAfter, wait]
      | none =>
        refine .inr (.inr (.inr ⟨rfl, by omega, rfl, ?_⟩))
        simp [afterFailure, again, attemptsAfter, left, wait]

/-! ## Sequences of outcomes -/

/-- The state of an operation after a number of calls. -/
def stateAfter (act : σ → Except Fault β × σ) (s : σ) : Nat → σ
  | 0 => s
  | calls + 1 => (act (stateAfter act s calls)).2

/-- What an operation answers behind a number of calls. -/
def outcomeAt (act : σ → Except Fault β × σ) (s : σ) (before : Nat) : Except Fault β :=
  (act (stateAfter act s before)).1

/-- The operation that also counts its calls. -/
def counted (act : σ → Except Fault β × σ) (s : σ × Nat) : Except Fault β × (σ × Nat) :=
  ((act s.1).1, (act s.1).2, s.2 + 1)

/-- Whether an outcome ends the loop whatever is left of its budget. -/
inductive IsFinal (p : RetryPolicy) : Except Fault β → Prop
  | success (value : β) : IsFinal p (.ok value)
  | refused {fault : Fault} (refused : p.retries fault = false) : IsFinal p (.error fault)

theorem exists_fault_of_not_isFinal {p : RetryPolicy} {outcome : Except Fault β}
    (goesOn : ¬ p.IsFinal outcome) :
    ∃ fault, outcome = .error fault ∧ p.retries fault = true := by
  cases outcome with
  | ok value => exact absurd (.success value) goesOn
  | error fault => exact ⟨fault, rfl, eq_true_of_ne_false fun refused => goesOn (.refused refused)⟩

theorem stateAfter_counted (act : σ → Except Fault β × σ) (s : σ) (calls : Nat) :
    stateAfter (counted act) (s, 0) calls = (stateAfter act s calls, calls) := by
  induction calls with
  | zero => rfl
  | succ calls ih => rw [stateAfter, ih]; rfl

theorem outcomeAt_counted (act : σ → Except Fault β × σ) (s : σ) (before : Nat) :
    outcomeAt (counted act) (s, 0) before = outcomeAt act s before := by
  rw [outcomeAt, stateAfter_counted]; rfl

/-! ## The loop -/

section Loop

variable {p : RetryPolicy} {operation : String} {act : σ → Except Fault β × σ} {s : σ}
variable {failed : Nat}

/-- An attempt with a final outcome is the last one. -/
theorem attempt_of_isFinal (allowed : failed < p.budget) (final : p.IsFinal (act s).1) :
    p.attempt operation act (p.attemptsAfter failed) s = ⟨(act s).1, [], (act s).2⟩ := by
  rw [attempt]
  generalize act s = answer at final
  obtain ⟨outcome, after⟩ := answer
  cases final with
  | success value => rfl
  | @refused fault refused =>
    rcases p.afterFailure_attemptsAfter operation fault allowed with
      ⟨-, ends⟩ | ⟨again, -⟩ | ⟨again, -⟩ | ⟨again, -⟩
    · dsimp only
      rw [ends]
    all_goals cases refused.symm.trans again

/-- Behind a failure that may be retried the loop waits and goes on, if an attempt is left. -/
theorem attempt_of_attemptsLeft (operation : String) (left : failed + 1 < p.budget)
    (goesOn : ¬ p.IsFinal (act s).1) {wait : Duration} (waits : p.backoff? failed = some wait) :
    p.attempt operation act (p.attemptsAfter failed) s =
      let rest := p.attempt operation act (p.attemptsAfter (failed + 1)) (act s).2
      { rest with waits := wait :: rest.waits } := by
  rw [attempt]
  obtain ⟨fault, failure, retried⟩ := exists_fault_of_not_isFinal goesOn
  generalize act s = answer at failure
  obtain ⟨outcome, after⟩ := answer
  obtain rfl : outcome = .error fault := failure
  have latest : (p.attemptsAfter (failed + 1)).lastWait = wait := by
    simp [attemptsAfter, waitAfter, waits]
  rcases p.afterFailure_attemptsAfter operation fault (Nat.lt_of_succ_lt left) with
    ⟨refused, -⟩ | ⟨-, all, -⟩ | ⟨-, -, -, again⟩ | ⟨-, -, none, -⟩
  · cases refused.symm.trans retried
  · omega
  · dsimp only
    rw [again]
    dsimp only
    rw [latest]
  · cases waits.symm.trans none

/-- A failure that may be retried is wrapped if no attempt is left. -/
theorem attempt_of_exhausted (all : failed + 1 = p.budget) {fault : Fault}
    (failure : (act s).1 = .error fault) (retried : p.retries fault = true) :
    p.attempt operation act (p.attemptsAfter failed) s
      = ⟨.error (.retriesExhausted operation p.budget (p.waitAfter failed) fault), [],
        (act s).2⟩ := by
  rw [attempt]
  generalize act s = answer at failure
  obtain ⟨outcome, after⟩ := answer
  obtain rfl : outcome = .error fault := failure
  rcases p.afterFailure_attemptsAfter operation fault (Nat.lt_of_succ_le (Nat.le_of_eq all)) with
    ⟨refused, -⟩ | ⟨-, -, ends⟩ | ⟨-, left, -⟩ | ⟨-, left, -⟩
  · cases refused.symm.trans retried
  · dsimp only
    rw [ends]
  · omega
  · omega

/-- The loop does not come through a wait that is too long. -/
theorem attempt_of_tooLong (operation : String) (left : failed + 1 < p.budget)
    (goesOn : ¬ p.IsFinal (act s).1) (none : p.backoff? failed = none) :
    p.attempt operation act (p.attemptsAfter failed) s = ⟨.error tooLong, [], (act s).2⟩ := by
  rw [attempt]
  obtain ⟨fault, failure, retried⟩ := exists_fault_of_not_isFinal goesOn
  generalize act s = answer at failure
  obtain ⟨outcome, after⟩ := answer
  obtain rfl : outcome = .error fault := failure
  rcases p.afterFailure_attemptsAfter operation fault (Nat.lt_of_succ_lt left) with
    ⟨refused, -⟩ | ⟨-, all, -⟩ | ⟨-, -, some, -⟩ | ⟨-, -, -, ends⟩
  · cases refused.symm.trans retried
  · omega
  · rw [none] at some
    cases some
  · dsimp only
    rw [ends]

/-- **Up to some attempt within the budget** the loop has made one attempt after the other, with
the waits of the policy in between, if no outcome before was final and no wait too long. -/
theorem run_eq_attempt (operation : String) {before : Nat} (allowed : before < p.budget)
    (goesOn : ∀ earlier < before, ¬ p.IsFinal (outcomeAt act s earlier))
    (held : ∀ earlier < before, (p.backoff? earlier).isSome) :
    ∃ waits, waits.map some = (List.range before).map p.backoff?
      ∧ p.run operation act s =
        let rest := p.attempt operation act (p.attemptsAfter before) (stateAfter act s before)
        { rest with waits := waits ++ rest.waits } := by
  induction before with
  | zero => exact ⟨[], rfl, rfl⟩
  | succ before ih =>
    obtain ⟨waits, same, ran⟩ := ih (Nat.lt_of_succ_lt allowed)
      (fun earlier less => goesOn earlier (Nat.lt_succ_of_lt less))
      fun earlier less => held earlier (Nat.lt_succ_of_lt less)
    obtain ⟨wait, latest⟩ := Option.isSome_iff_exists.mp (held before (Nat.lt_succ_self before))
    have retried := attempt_of_attemptsLeft operation allowed
      (goesOn before (Nat.lt_succ_self before)) latest
    refine ⟨waits ++ [wait], ?_, ?_⟩
    · rw [List.map_append, List.range_succ, List.map_append, same, List.map_singleton,
        List.map_singleton, latest]
    · rw [ran, retried]
      simp only [List.append_assoc]
      rfl

/-- The latest wait of a budget that is used up. -/
theorem waitAfter_last (held : ∀ earlier < p.budget - 1, (p.backoff? earlier).isSome) :
    (if p.budget = 1 then some .zero else p.backoff? (p.budget - 2))
      = some (p.waitAfter (p.budget - 1)) := by
  have positive := p.budget_pos
  generalize p.budget = budget at positive held
  match budget, positive with
  | 1, _ => rfl
  | more + 2, _ =>
    obtain ⟨wait, latest⟩ := Option.isSome_iff_exists.mp (held more (by omega))
    simp [waitAfter, latest]

/-- **The loop ends at a wait that is too long**, with the outcomes up to there taken in. -/
theorem run_of_tooLong (operation : String) {before : Nat} (allowed : before + 1 < p.budget)
    (goesOn : ∀ earlier ≤ before, ¬ p.IsFinal (outcomeAt act s earlier))
    (held : ∀ earlier < before, (p.backoff? earlier).isSome) (none : p.backoff? before = none) :
    ∃ waits, waits.map some = (List.range before).map p.backoff?
      ∧ p.run operation act s = ⟨.error tooLong, waits, stateAfter act s (before + 1)⟩ := by
  obtain ⟨waits, same, ran⟩ := run_eq_attempt operation (Nat.lt_of_succ_lt allowed)
    (fun earlier less => goesOn earlier (Nat.le_of_lt less)) held
  refine ⟨waits, same, ?_⟩
  rw [ran, attempt_of_tooLong operation allowed (goesOn before (Nat.le_refl before)) none]
  simp only [List.append_nil]
  rfl

end Loop

/-- **The loop ends at the first final outcome, or with its budget.** A final outcome with fewer
outcomes before it than attempts are allowed is returned as it is; the operation was called for it
and for each outcome before, and behind each of these came the wait that the policy has for it. If
no outcome within the budget is final, the operation was called as often as the budget allows, and
the last fault is wrapped, with the latest wait if there was one. So it is if a duration can hold
the waits that come up; at the first one that none can hold the loop ends. -/
theorem run_endsAtFirst (p : RetryPolicy) (operation : String) (act : σ → Except Fault β × σ)
    (s : σ) :
    (∀ first < p.budget, p.IsFinal (outcomeAt act s first) →
      (∀ earlier < first, ¬ p.IsFinal (outcomeAt act s earlier)) →
      (∀ earlier < first, (p.backoff? earlier).isSome) →
      ∃ waits, waits.map some = (List.range first).map p.backoff?
        ∧ p.run operation (counted act) (s, 0)
          = ⟨outcomeAt act s first, waits, (stateAfter act s (first + 1), first + 1)⟩)
    ∧ ((∀ earlier < p.budget, ¬ p.IsFinal (outcomeAt act s earlier)) →
      (∀ earlier < p.budget - 1, (p.backoff? earlier).isSome) →
      ∃ fault waits last, outcomeAt act s (p.budget - 1) = .error fault
        ∧ waits.map some = (List.range (p.budget - 1)).map p.backoff?
        ∧ (if p.budget = 1 then some .zero else p.backoff? (p.budget - 2)) = some last
        ∧ p.run operation (counted act) (s, 0)
          = ⟨.error (.retriesExhausted operation p.budget last fault), waits,
            (stateAfter act s p.budget, p.budget)⟩)
    ∧ (∀ before, before + 1 < p.budget →
      (∀ earlier ≤ before, ¬ p.IsFinal (outcomeAt act s earlier)) →
      (∀ earlier < before, (p.backoff? earlier).isSome) → p.backoff? before = none →
      ∃ waits, waits.map some = (List.range before).map p.backoff?
        ∧ p.run operation (counted act) (s, 0)
          = ⟨.error tooLong, waits, (stateAfter act s (before + 1), before + 1)⟩) := by
  simp only [← outcomeAt_counted act s, ← stateAfter_counted act s]
  generalize counted act = act, (s, 0) = s
  refine ⟨fun first allowed final goesOn held => ?_, fun goesOn held => ?_,
    fun before allowed goesOn held none => run_of_tooLong operation allowed goesOn held none⟩
  · obtain ⟨waits, same, ran⟩ := run_eq_attempt operation allowed goesOn held
    refine ⟨waits, same, ?_⟩
    rw [ran, attempt_of_isFinal allowed final]
    simp only [List.append_nil]
    rfl
  · have last : p.budget - 1 + 1 = p.budget := Nat.succ_pred_eq_of_pos p.budget_pos
    have allowed : p.budget - 1 < p.budget := Nat.lt_of_succ_le (Nat.le_of_eq last)
    obtain ⟨fault, failure, retried⟩ := exists_fault_of_not_isFinal (goesOn _ allowed)
    obtain ⟨waits, same, ran⟩ := run_eq_attempt operation allowed
      (fun earlier less => goesOn earlier (Nat.lt_trans less allowed)) held
    refine ⟨fault, waits, _, failure, same, waitAfter_last held, ?_⟩
    rw [ran, attempt_of_exhausted last failure retried]
    have state : (act (stateAfter act s (p.budget - 1))).2 = stateAfter act s p.budget :=
      congrArg (stateAfter act s) last
    simp only [List.append_nil, state]

section Sample

/-- An operation that is refused for the time being, and done when it is called for the third
time. -/
def busyTwice (calls : Nat) : Except Fault String × Nat :=
  (if calls < 2 then .error (.refused "503" "busy") else .ok "done", calls + 1)

theorem run_endsAtFirst_busyTwice :
    (standard.backoff? 0).isSome ∧ (standard.backoff? 1).isSome
      ∧ ∃ waits, waits.map some = (List.range 2).map standard.backoff?
        ∧ standard.run "sample" (counted busyTwice) (0, 0) = ⟨.ok "done", waits, (3, 3)⟩ := by
  have first : (standard.backoff? 0).isSome := by decide +kernel
  have second : (standard.backoff? 1).isSome := by decide +kernel
  have busy : ∀ earlier < 2, ¬ standard.IsFinal (outcomeAt busyTwice 0 earlier) := by
    intro earlier less final
    have busy : outcomeAt busyTwice 0 earlier = .error (.refused "503" "busy") := by
      rcases Nat.lt_succ_iff_lt_or_eq.mp less with first | rfl
      · obtain rfl : earlier = 0 := Nat.lt_one_iff.mp first
        rfl
      · rfl
    rw [busy] at final
    cases final with
    | refused refused => cases refused
  have held : ∀ earlier < 2, (standard.backoff? earlier).isSome := by
    intro earlier less
    rcases Nat.lt_succ_iff_lt_or_eq.mp less with one | rfl
    · obtain rfl : earlier = 0 := Nat.lt_one_iff.mp one
      exact first
    · exact second
  exact ⟨first, second,
    (standard.run_endsAtFirst "sample" busyTwice 0).1 2 (by decide) (.success "done") busy held⟩

/-- An operation that is always refused for the time being. -/
def alwaysBusy (s : Unit) : Except Fault String × Unit := (.error (.refused "503" "busy"), s)

/-- A policy whose waits grow fast and have no cap. -/
def uncapped : RetryPolicy := ⟨.ofSeconds 1, 1e20, .longest, 3, Fault.isTransient⟩

/-- **A loop without end to its waits.** Three attempts are allowed and every failure may be retried;
but after two of them the loop is stopped, and no failure is wrapped. -/
theorem run_endless :
    uncapped.budget = 3 ∧ (∀ calls, ¬ uncapped.IsFinal (outcomeAt alwaysBusy () calls))
      ∧ uncapped.run "sample" (counted alwaysBusy) ((), 0)
        = ⟨.error tooLong, [.ofSeconds 1], ((), 2)⟩ := by
  have first : uncapped.backoff? 0 = some (.ofSeconds 1) := by decide +kernel
  have second : uncapped.backoff? 1 = none := by decide +kernel
  have busy (calls : Nat) : ¬ uncapped.IsFinal (outcomeAt alwaysBusy () calls) := by
    have refused : outcomeAt alwaysBusy () calls = .error (.refused "503" "busy") := rfl
    rw [refused]
    rintro ⟨⟩
    next final => exact absurd final (by decide)
  have counting (calls : Nat) :
      ¬ uncapped.IsFinal (outcomeAt (counted alwaysBusy) ((), 0) calls) := by
    rw [outcomeAt_counted]
    exact busy calls
  have held : ∀ earlier < 1, (uncapped.backoff? earlier).isSome := by
    intro earlier less
    obtain rfl : earlier = 0 := Nat.lt_one_iff.mp less
    rw [first]
    rfl
  obtain ⟨waits, same, ran⟩ : ∃ waits, waits.map some = (List.range 1).map uncapped.backoff?
      ∧ uncapped.run "sample" (counted alwaysBusy) ((), 0)
        = ⟨.error tooLong, waits, stateAfter (counted alwaysBusy) ((), 0) 2⟩ :=
    run_of_tooLong "sample" (by decide) (fun calls _ => counting calls) held second
  refine ⟨rfl, busy, ?_⟩
  rw [ran, stateAfter_counted]
  have waited : waits = [.ofSeconds 1] := by
    have mapped : waits.map some = [some (.ofSeconds 1)] := by
      rw [same]
      simp [List.range_succ, first]
    simpa [List.map_eq_singleton_iff] using mapped
  rw [waited]

end Sample

end RetryPolicy

end ClusterBilling
