import ClusterBilling.Proofs.Breakdown.Making
import ClusterBilling.Proofs.Exact

/-!
# The total is the sum of what was booked

In exact arithmetic the amounts of the entries with some kind of key add up to a sum that every
operation changes in an obvious way: writing to an entry adds what is written if the key is of that
kind (`sumOver_addAt`), room for a role adds nothing, and breakdowns add up. An amount that is
booked is written once to an entry of its role and once to the total. **So the total is the sum of
all other entries**, whatever was booked and added up before (`Made.balanced`).

Which entries there are is known from the roles (`Made.isFor`). Together this is the shape that
every breakdown has (`consistent_of_made`), whatever the roles are called.
-/

namespace ClusterBilling.Breakdown

/-! ## Sums over entries -/

/-- The sum of the amounts with keys of some kind. -/
def sumOver (b : Breakdown ℚ) (chosen : String → Prop) [DecidablePred chosen] : ℚ :=
  ((b.entries.toList.filter fun entry => chosen entry.1).map Prod.snd).sum

section Sums

variable (b : Breakdown ℚ) (chosen : String → Prop) [DecidablePred chosen]

/-- The amount of a key counts in a sum if the key is of the kind. -/
theorem sumOver_eq (key : String) :
    b.sumOver chosen = (if chosen key then b.get key else 0)
      + b.sumOver fun other => chosen other ∧ other ≠ key := by
  cases known : b.entries.get? key with
  | none =>
    have nothing : b.get key = 0 := by
      rw [get, OrderedMap.getD, known, Option.getD_none, Amount.zero_rat]
    have foreign : ∀ entry ∈ b.entries.toList,
        decide (chosen entry.1) = decide (chosen entry.1 ∧ entry.1 ≠ key) := by
      rintro ⟨other, amount⟩ mem
      have differs : other ≠ key := by
        rintro rfl
        rw [(b.entries.get?_eq_some_iff other amount).mpr mem] at known
        cases known
      simp [differs]
    rw [nothing, ite_self, zero_add, sumOver, List.filter_congr foreign]
    rfl
  | some amount =>
    have own : b.get key = amount := by rw [get, OrderedMap.getD, known, Option.getD_some]
    have apart := (OrderedMap.toList_perm_cons known).filter fun entry => decide (chosen entry.1)
    rw [own, sumOver, (apart.map Prod.snd).sum_eq, List.filter_cons, List.filter_filter]
    simp only [sumOver, Bool.decide_and]
    split <;> simp_all

/-- A sum is known from the answers for its keys. -/
theorem sumOver_congr {b b' : Breakdown ℚ}
    (alike : ∀ key, chosen key → b.entries.get? key = b'.entries.get? key) :
    b.sumOver chosen = b'.sumOver chosen := by
  rw [sumOver, sumOver, OrderedMap.filter_toList_eq (fun key => decide (chosen key))]
  intro key own
  exact alike key (of_decide_eq_true own)

/-- **Writing to an entry** adds to the sums that its key counts in. -/
theorem sumOver_addAt (key : String) (amount : ℚ) :
    (b.addAt key amount).sumOver chosen = b.sumOver chosen + if chosen key then amount else 0 := by
  have others : (b.addAt key amount).sumOver (fun other => chosen other ∧ other ≠ key)
      = b.sumOver fun other => chosen other ∧ other ≠ key := by
    apply sumOver_congr
    intro other own
    rw [addAt, OrderedMap.get?_insert, if_neg own.2]
  rw [sumOver_eq _ chosen key, sumOver_eq b chosen key, others, get_addAt, if_pos rfl]
  split <;> ring

/-- Writing some entries adds those of them that count. -/
theorem sumOver_foldl_addAt (entries : List (String × ℚ)) :
    (entries.foldl (fun b entry => b.addAt entry.1 entry.2) b).sumOver chosen
      = b.sumOver chosen + ((entries.filter fun entry => chosen entry.1).map Prod.snd).sum := by
  induction entries generalizing b with
  | nil => simp
  | cons entry rest ih =>
    rw [List.foldl_cons, ih, sumOver_addAt, List.filter_cons]
    by_cases own : chosen entry.1
    · simp [own, add_assoc]
    · simp [own]

/-- **Breakdowns add up.** -/
theorem sumOver_merge (other : Breakdown ℚ) :
    (b.merge other).sumOver chosen = b.sumOver chosen + other.sumOver chosen :=
  sumOver_foldl_addAt b chosen other.entries.toList

/-- Without rounding room for a role is what writing nothing to its entries leaves. -/
theorem ensureRole_eq_foldl_addAt (role : String) :
    b.ensureRole role = (CostCategory.all.map fun category => (key role category, (0 : ℚ))).foldl
      (fun b entry => b.addAt entry.1 entry.2) b := by
  have room (b : Breakdown ℚ) (key : String) :
      (⟨b.entries.insertNew key Amount.zero⟩ : Breakdown ℚ) = b.addAt key 0 := by
    refine congrArg Breakdown.mk (OrderedMap.eq_of_get? fun other => ?_)
    rw [OrderedMap.get?_insertNew, OrderedMap.get?_insert, add_zero]
    rfl
  simp only [ensureRole, CostCategory.all, List.map_cons, List.map_nil, List.foldl_cons,
    List.foldl_nil, ← room]

/-- Room for a role adds nothing. -/
theorem sumOver_ensureRole (role : String) :
    (b.ensureRole role).sumOver chosen = b.sumOver chosen := by
  have nothing : ∀ amount ∈ (((CostCategory.all.map fun category =>
      (key role category, (0 : ℚ))).filter fun entry => chosen entry.1).map Prod.snd),
      amount = 0 := by
    intro amount mem
    obtain ⟨entry, chosen, rfl⟩ := List.mem_map.mp mem
    obtain ⟨category, -, rfl⟩ := List.mem_map.mp (List.mem_of_mem_filter chosen)
    rfl
  rw [ensureRole_eq_foldl_addAt, sumOver_foldl_addAt, List.sum_eq_zero nothing, add_zero]

/-- The amount of one key is a sum as well. -/
theorem get_eq_sumOver (key : String) : b.get key = b.sumOver (· = key) := by
  have none : b.sumOver (fun other => other = key ∧ other ≠ key) = 0 := by
    simp [sumOver]
  rw [sumOver_eq b (· = key) key, none, if_pos rfl, add_zero]

end Sums

/-! ## The balance -/

/-- Whether the total is the sum of all other entries. -/
def Balanced (b : Breakdown ℚ) : Prop := b.total = b.sumOver (· ≠ totalKey)

theorem balanced_start : (start : Breakdown ℚ).Balanced := by
  show (start : Breakdown ℚ).get totalKey = 0
  rw [get_start, Amount.zero_rat]

namespace Balanced

variable {b other : Breakdown ℚ}

theorem ensureRole (balanced : b.Balanced) (role : String) : (b.ensureRole role).Balanced := by
  show (b.ensureRole role).get totalKey = _
  rw [get_ensureRole, sumOver_ensureRole]
  exact balanced

/-- **An amount is booked on both sides**: on the total, and on the entry of its role. -/
theorem add (balanced : b.Balanced) (role : String) (category : CostCategory) (amount : ℚ) :
    (b.add role category amount).Balanced := by
  have sides : b.get totalKey = b.sumOver (· ≠ totalKey) := balanced
  show (b.add role category amount).get totalKey = _
  rw [get_add, if_pos (.inl rfl), Breakdown.add, sumOver_addAt, sumOver_addAt, sumOver_ensureRole,
    if_pos (key_ne_totalKey role category), if_neg (not_not_intro rfl), add_zero, sides]

theorem merge (balanced : b.Balanced) (balanced' : other.Balanced) : (b.merge other).Balanced := by
  have sides : b.get totalKey = b.sumOver (· ≠ totalKey) := balanced
  have sides' : other.get totalKey = other.sumOver (· ≠ totalKey) := balanced'
  rw [get_eq_sumOver] at sides sides'
  show (b.merge other).get totalKey = _
  rw [get_eq_sumOver, sumOver_merge, sumOver_merge, sides, sides']

theorem sum {breakdowns : List (Breakdown ℚ)} (balanced : ∀ b ∈ breakdowns, b.Balanced) :
    (Breakdown.sum breakdowns).Balanced := by
  suffices goesOn : ∀ (breakdowns : List (Breakdown ℚ)) (b : Breakdown ℚ), b.Balanced →
      (∀ b ∈ breakdowns, b.Balanced) → (breakdowns.foldl Breakdown.merge b).Balanced from
    goesOn breakdowns start balanced_start balanced
  intro breakdowns
  induction breakdowns with
  | nil => exact fun _ own _ => own
  | cons first rest ih =>
    intro b own others
    exact ih _ (own.merge (others first List.mem_cons_self)) fun other mem =>
      others other (List.mem_cons_of_mem first mem)

end Balanced

namespace Made

/-- **The total of a breakdown is the sum of all other entries**, however it was made. -/
theorem balanced {b : Breakdown ℚ} {given : List String} (made : b.Made given) : b.Balanced := by
  induction made with
  | start => exact balanced_start
  | ensureRole _ role balanced => exact balanced.ensureRole role
  | add _ role category amount balanced => exact balanced.add role category amount
  | merge _ _ balanced balanced' => exact balanced.merge balanced'
  | sum _ balanced =>
    refine Balanced.sum fun b mem => ?_
    obtain ⟨part, among, rfl⟩ := List.mem_map.mp mem
    exact balanced part among

variable {α : Type} [Amount α]

/-- Making room for roles from the start on. -/
theorem ofRoles (roles : List String) : (Breakdown.ofRoles roles : Breakdown α).Made roles := by
  suffices goesOn : ∀ (roles : List String) (b : Breakdown α) (given : List String),
      b.Made given → (roles.foldl Breakdown.ensureRole b).Made (given ++ roles) from
    goesOn roles .start [] .start
  intro roles
  induction roles with
  | nil => intro b given made; simpa using made
  | cons role rest ih =>
    intro b given made
    simpa using ih _ _ (made.ensureRole role)

theorem emptyCluster : (Breakdown.emptyCluster : Breakdown α).Made defaultRoles :=
  ofRoles defaultRoles

end Made

/-! ## The shape of breakdowns -/

/-- **The shape of a breakdown**: the total is there and the sum of all other entries, every other
key is that of one role and one category, and a role that has one key has all of them. -/
structure Consistent (b : Breakdown ℚ) : Prop extends b.Whole where
  balanced : b.Balanced
  ofRole : ∀ known, b.has known → known ≠ totalKey →
    ∃! of : String × CostCategory, known = key of.1 of.2

/-- **Every breakdown is consistent**, whether it begins with nothing but a total, with some roles
or as the empty answer, and whatever is booked on it and added up with it. -/
theorem consistent_of_made :
    (∀ roles, (ofRoles roles : Breakdown ℚ).Made roles)
      ∧ (emptyCluster : Breakdown ℚ).Made defaultRoles
      ∧ ∀ (b : Breakdown ℚ) (given : List String), b.Made given → b.Consistent := by
  refine ⟨Made.ofRoles, Made.emptyCluster, fun b given made => ?_⟩
  constructor
  case toWhole => exact made.isFor.whole
  case balanced => exact made.balanced
  case ofRole =>
    intro known there other
    rcases (made.isFor known).mp there with total | ⟨role, -, category, rfl⟩
    · exact absurd total other
    · refine ⟨(role, category), rfl, ?_⟩
      rintro ⟨role', category'⟩ same
      obtain ⟨rfl, rfl⟩ := key_injective same
      rfl

section Sample

/-- Breakdowns with roles that are called like keys, added up. -/
def oddRoles : Breakdown ℚ :=
  .sum [emptyCluster.add "" .compute 1.5, (ofRoles ["TOTAL"]).add "CORE.COMPUTE" .storage (-0.5)]

theorem consistent_oddRoles :
    oddRoles.Made ["MASTER", "CORE", "", "TOTAL", "CORE.COMPUTE"] ∧ oddRoles.Consistent := by
  have made : oddRoles.Made ["MASTER", "CORE", "", "TOTAL", "CORE.COMPUTE"] := by
    refine @Made.sum ℚ _ [(_, ["MASTER", "CORE", ""]), (_, ["TOTAL", "CORE.COMPUTE"])] ?_
    simp only [List.forall_mem_cons, List.not_mem_nil, false_imp_iff, implies_true, and_true]
    exact ⟨Made.emptyCluster.add "" .compute 1.5,
      (Made.ofRoles ["TOTAL"]).add "CORE.COMPUTE" .storage (-0.5)⟩
  exact ⟨made, consistent_of_made.2.2 oddRoles _ made⟩

example : oddRoles.total = 1 ∧ oddRoles.get "TOTAL.STORAGE" = 0
    ∧ oddRoles.get "CORE.COMPUTE.STORAGE" = -0.5 := by decide +kernel

end Sample

end ClusterBilling.Breakdown
