import ClusterBilling.Proofs.Breakdown
import ClusterBilling.Proofs.Exact

/-!
# Combining breakdowns

A breakdown is known from its keys and their amounts (`eq_of_has_of_get`), and both are known of a
sum of breakdowns: **its keys are that of the total and those of its parts, and each amount is the
sum, from nothing on and from left to right, of the amounts that the parts have for the key**
(`has_sum`, `get_sum`). This holds bit for bit in binary floating point, for any breakdowns, and
however they are added up.

In exact arithmetic a part without an entry adds as much as one with an entry of nothing
(`get_sum_rat`), so a sum is one of amounts for each key apart. It follows that breakdowns may
change places, that some of them may be added up first, and that those without amounts may be left
out (`sum_combines`). In binary floating point a rounding can tell one order from another.
-/

namespace ClusterBilling

namespace Breakdown

variable {α : Type} [Amount α]

/-! ## Keys and amounts -/

/-- A key that has an entry answers its amount. -/
theorem get?_of_has {b : Breakdown α} {key : String} (known : b.has key) :
    b.entries.get? key = some (b.get key) := by
  obtain ⟨amount, there⟩ := Option.isSome_iff_exists.mp known
  rw [get, OrderedMap.getD, there, Option.getD_some]

/-- **A breakdown is known from its keys and their amounts.** -/
theorem eq_of_has_of_get {b b' : Breakdown α} (keys : ∀ key, b.has key ↔ b'.has key)
    (amounts : ∀ key, b.get key = b'.get key) : b = b' := by
  refine congrArg Breakdown.mk (OrderedMap.eq_of_get? fun key => ?_)
  by_cases known : b.has key
  · rw [get?_of_has known, get?_of_has ((keys key).mp known), amounts]
  · have unknown : ¬ b'.has key := fun there => known ((keys key).mpr there)
    rw [has, OrderedMap.contains_eq_isSome, Option.not_isSome_iff_eq_none] at known unknown
    rw [known, unknown]

/-! ## Sums -/

/-- Writing some entries adds those of a key to its amount, in their order. -/
theorem get_foldl_addAt (b : Breakdown α) (entries : List (String × α)) (key : String) :
    (entries.foldl (fun b entry => b.addAt entry.1 entry.2) b).get key
      = ((entries.filter fun entry => entry.1 = key).map Prod.snd).foldl (· + ·) (b.get key) := by
  induction entries generalizing b with
  | nil => rfl
  | cons entry rest ih =>
    rw [List.foldl_cons, ih, get_addAt, List.filter_cons]
    by_cases own : entry.1 = key
    · simp [own]
    · simp [own, Ne.symm own]

/-- The amounts that some breakdowns have for a key, in their order. -/
def amountsOf (key : String) (breakdowns : List (Breakdown α)) : List α :=
  breakdowns.filterMap fun b => b.entries.get? key

/-- **Adding up behind a breakdown** adds to each amount what the others have for its key. -/
theorem get_foldl_merge (b : Breakdown α) (breakdowns : List (Breakdown α)) (key : String) :
    (breakdowns.foldl merge b).get key = (amountsOf key breakdowns).foldl (· + ·) (b.get key) := by
  induction breakdowns generalizing b with
  | nil => rfl
  | cons first rest ih =>
    rw [List.foldl_cons, ih, merge, get_foldl_addAt, OrderedMap.map_snd_filter_key, amountsOf,
      amountsOf, List.filterMap_cons]
    cases first.entries.get? key <;> rfl

theorem get_sum (breakdowns : List (Breakdown α)) (key : String) :
    (sum breakdowns).get key = Amount.running (amountsOf key breakdowns) := by
  rw [sum, get_foldl_merge, get_start]
  rfl

theorem has_foldl_merge (b : Breakdown α) (breakdowns : List (Breakdown α)) (key : String) :
    (breakdowns.foldl merge b).has key ↔ b.has key ∨ ∃ part ∈ breakdowns, part.has key := by
  induction breakdowns generalizing b with
  | nil => simp
  | cons first rest ih => rw [List.foldl_cons, ih, has_merge, or_assoc, List.exists_mem_cons_iff]

theorem has_sum (breakdowns : List (Breakdown α)) (key : String) :
    (sum breakdowns).has key ↔ key = totalKey ∨ ∃ part ∈ breakdowns, part.has key := by
  rw [sum, has_foldl_merge, has_start]

/-! ## Exact sums -/

/-- Without rounding a part without an entry adds nothing. -/
theorem get_sum_rat (breakdowns : List (Breakdown ℚ)) (key : String) :
    (sum breakdowns).get key = (breakdowns.map fun b => b.get key).sum := by
  rw [get_sum, Amount.running_rat]
  induction breakdowns with
  | nil => rfl
  | cons first rest ih =>
    rw [amountsOf, List.filterMap_cons, List.map_cons, List.sum_cons, ← ih]
    cases known : first.entries.get? key with
    | none =>
      have nothing : first.get key = 0 := by
        rw [get, OrderedMap.getD, known, Option.getD_none, Amount.zero_rat]
      rw [nothing, zero_add]
      rfl
    | some amount =>
      have own : first.get key = amount := by
        rw [get, OrderedMap.getD, known, Option.getD_some]
      rw [own]
      rfl

variable {breakdowns others part rest zeros : List (Breakdown ℚ)}

/-- Breakdowns may change places. -/
theorem sum_eq_of_perm (perm : breakdowns.Perm others) : sum breakdowns = sum others := by
  refine eq_of_has_of_get (fun key => ?_) fun key => ?_
  · simp only [has_sum, perm.mem_iff]
  · rw [get_sum_rat, get_sum_rat, (perm.map _).sum_eq]

/-- Some breakdowns may be added up first. -/
theorem sum_cons_sum (part rest : List (Breakdown ℚ)) :
    sum (sum part :: rest) = sum (part ++ rest) := by
  refine eq_of_has_of_get (fun key => ?_) fun key => ?_
  · simp only [has_sum, List.exists_mem_cons_iff, List.mem_append, or_and_right, exists_or,
      or_assoc, or_self_left]
  · rw [get_sum_rat, get_sum_rat, List.map_cons, List.sum_cons, get_sum_rat, List.map_append,
      List.sum_append]

/-- Whether a breakdown has no amounts, and only keys that a sum of some others has anyway. -/
def AddsNothing (zero : Breakdown ℚ) (breakdowns : List (Breakdown ℚ)) : Prop :=
  ∀ key, zero.has key → zero.get key = 0 ∧ (key = totalKey ∨ ∃ b ∈ breakdowns, b.has key)

/-- Breakdowns without amounts may be left out. -/
theorem sum_append_of_addsNothing (nothing : ∀ zero ∈ zeros, zero.AddsNothing breakdowns) :
    sum (zeros ++ breakdowns) = sum breakdowns := by
  refine eq_of_has_of_get (fun key => ?_) fun key => ?_
  · simp only [has_sum, List.mem_append, or_and_right, exists_or]
    refine ⟨fun there => ?_, fun there => there.imp_right .inr⟩
    rcases there with total | ⟨zero, mem, known⟩ | own
    · exact .inl total
    · exact (nothing zero mem key known).2
    · exact .inr own
  · have none : ∀ amount ∈ zeros.map fun zero => zero.get key, amount = 0 := by
      intro amount mem
      obtain ⟨zero, listed, rfl⟩ := List.mem_map.mp mem
      by_cases known : zero.has key
      · exact (nothing zero listed key known).1
      · rw [get_of_not_has known, Amount.zero_rat]
    rw [get_sum_rat, get_sum_rat, List.map_append, List.sum_append, List.sum_eq_zero none, zero_add]

/-- **Combining breakdowns.** However some breakdowns are added up, the result has the key of the
total and those of its parts, and for each key the sum, from nothing on and from left to right, of
the amounts that the parts have for it; all this in binary floating point. In exact arithmetic the
sum stays the same if breakdowns change places, if some of them, wherever they stand, are replaced
by their own sum, and if breakdowns without amounts and without keys of their own are put among
them. -/
theorem sum_combines :
    (∀ breakdowns : List (Breakdown Float),
      addUp breakdowns = sum breakdowns
      ∧ (∀ key, (sum breakdowns).has key ↔ key = totalKey ∨ ∃ part ∈ breakdowns, part.has key)
      ∧ ∀ key, (sum breakdowns).get key
        = (breakdowns.filterMap fun part => part.entries.get? key).foldl (· + ·) 0.0)
    ∧ (∀ breakdowns others : List (Breakdown ℚ), breakdowns.Perm others →
      sum breakdowns = sum others)
    ∧ (∀ breakdowns part rest replaced : List (Breakdown ℚ), breakdowns.Perm (part ++ rest) →
      replaced.Perm (sum part :: rest) → sum replaced = sum breakdowns)
    ∧ ∀ breakdowns zeros longer : List (Breakdown ℚ), longer.Perm (zeros ++ breakdowns) →
      (∀ zero ∈ zeros, zero.AddsNothing breakdowns) → sum longer = sum breakdowns := by
  refine ⟨fun breakdowns => ⟨rfl, has_sum breakdowns, get_sum breakdowns⟩,
    fun _ _ perm => sum_eq_of_perm perm, ?_, ?_⟩
  · intro breakdowns part rest replaced whole places
    rw [sum_eq_of_perm places, sum_cons_sum, sum_eq_of_perm whole]
  · intro breakdowns zeros longer places nothing
    rw [sum_eq_of_perm places, sum_append_of_addsNothing nothing]

/-- Where sums are rounded the order of breakdowns counts. -/
example : (sum ([0.1, 0.2, 0.3].map fun x => (start : Breakdown Float).addAt totalKey x)).total
    ≠ (sum ([0.3, 0.2, 0.1].map fun x => (start : Breakdown Float).addAt totalKey x)).total := by
  decide +kernel

end Breakdown

end ClusterBilling
