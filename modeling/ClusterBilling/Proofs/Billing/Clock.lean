import ClusterBilling.Billing.Cluster
import ClusterBilling.Proofs.Spot.Transparency
import ClusterBilling.Proofs.Time.Cut

/-!
# What of an estimate depends on the clock

The clock is read at one place: it ends the life span of an instance that has no end of its own
(`Instance.billed`). From there on prices, gates and rounds go by the part of the life span that is
billed (`groupsEstimate_asOf`), whatever source the prices come from. So **the estimate of a
cluster does not depend on the clock** (`clusterEstimate_clock`) where every listed instance has an
end that is known: its own, that of the cluster, or that of the window.

That a cluster is gone does not give its instances an end. A cluster that is terminated, with no
end on record and an instance that has none either, goes on costing more
(`clusterEstimate_grows`).
-/

namespace ClusterBilling

/-- The same terms at another time. -/
def BillingTerms.asOf (terms : BillingTerms) (now : Instant) : BillingTerms :=
  { terms with now := now }

namespace Biller

variable {σ α : Type} [Amount α] (b : Biller σ α) (terms : BillingTerms) (volumes : List Volume)
  (later : Instant)

/-! ## Pricing goes by what is billed -/

theorem goOn_asOf (now visitor : Nat) (i : Instance) (stage : BillingStage α)
    (desk : PriceDesk σ α) (steps : Nat) :
    b.goOn (terms.asOf later) volumes now visitor i stage desk steps
      = b.goOn terms volumes now visitor i stage desk steps := by
  induction steps generalizing stage desk with
  | zero => rfl
  | succ steps ih =>
    simp only [goOn, ih]
    rfl

theorem turn_asOf (now visitor : Nat) (i : Instance) (stage : BillingStage α)
    (desk : PriceDesk σ α) (steps : Nat) :
    b.turn (terms.asOf later) volumes now visitor i stage desk steps
      = b.turn terms volumes now visitor i stage desk steps :=
  b.goOn_asOf ..

theorem giveTurn_asOf (g : GroupBilling σ α) (place : Nat) :
    b.giveTurn (terms.asOf later) volumes g place = b.giveTurn terms volumes g place := by
  unfold giveTurn
  simp only [turn_asOf]

theorem roundInOrder_asOf (g : GroupBilling σ α) :
    b.roundInOrder (terms.asOf later) volumes g = b.roundInOrder terms volumes g := by
  unfold roundInOrder
  simp only [giveTurn_asOf]

theorem roundInQueue_asOf (unbilled turns : Nat) (g : GroupBilling σ α) :
    b.roundInQueue (terms.asOf later) volumes unbilled turns g
      = b.roundInQueue terms volumes unbilled turns g := by
  have step := b.giveTurn_asOf terms volumes later
  fun_induction roundInQueue b terms volumes unbilled turns g with
  | case1 => unfold roundInQueue; rfl
  | case2 unbilled turns g none => unfold roundInQueue; split <;> simp_all
  | case3 unbilled g turns place _ ready next billed ih =>
    conv_lhs => unfold roundInQueue
    simp only [ready, step]
    exact (if_pos billed).trans ih
  | case4 unbilled g turns place _ ready next billed ih =>
    conv_lhs => unfold roundInQueue
    simp only [ready, step]
    exact (if_neg billed).trans ih

theorem rounds_asOf (g : GroupBilling σ α) :
    b.rounds (terms.asOf later) volumes g = b.rounds terms volumes g := by
  have round (g : GroupBilling σ α) :
      b.round (terms.asOf later) volumes g = b.round terms volumes g := by
    unfold Biller.round
    simp only [roundInOrder_asOf, roundInQueue_asOf]
  fun_induction rounds b terms volumes g with
  | case1 g next less settled =>
    rw [rounds]
    simp only [round]
    rw [dif_pos less, if_pos settled]
  | case2 g next less unsettled ih =>
    rw [rounds]
    simp only [round]
    rw [dif_pos less, if_neg unsettled]
    exact ih
  | case3 g next stuck =>
    rw [rounds]
    simp only [round]
    rw [dif_neg stuck]

theorem outcomes_asOf (lines : List (InstanceBilling α)) (book : PriceBook σ α) :
    b.outcomes (terms.asOf later) volumes lines book = b.outcomes terms volumes lines book := by
  have finish (line : InstanceBilling α) (book : PriceBook σ α) :
      b.finish (terms.asOf later) volumes line book = b.finish terms volumes line book := rfl
  induction lines generalizing book with
  | nil => rfl
  | cons line rest ih => simp only [outcomes, finish, ih]

variable {terms later}

theorem opening_asOf {i : Instance} (same : i.billed (terms.asOf later) = i.billed terms) :
    b.opening (terms.asOf later) volumes i = b.opening terms volumes i := by
  unfold opening
  rw [same]
  rfl

/-- A group whose instances are billed for the same time costs the same. -/
theorem groupCosts_asOf {g : GroupInstances}
    (same : ∀ i ∈ g.instances, i.billed (terms.asOf later) = i.billed terms) (steps : Nat)
    (book : PriceBook σ α) :
    b.groupCosts (terms.asOf later) g steps book = b.groupCosts terms g steps book := by
  have start : GroupBilling.start b (terms.asOf later) g steps book
      = GroupBilling.start b terms g steps book := by
    have lines : (g.instances.map fun i =>
          (⟨i, .listed (b.opening (terms.asOf later) g.group.volumes i)⟩ : InstanceBilling α))
        = g.instances.map fun i => ⟨i, .listed (b.opening terms g.group.volumes i)⟩ :=
      List.map_congr_left fun i mem => by rw [b.opening_asOf _ (same i mem)]
    simp only [GroupBilling.start, lines]
  simp only [groupCosts, start, rounds_asOf, outcomes_asOf]

/-- **Groups whose instances are billed for the same time** have the same estimate. -/
theorem groupsEstimate_asOf (cluster : ClusterId) {groups : List GroupInstances}
    (same : ∀ g ∈ groups, ∀ i ∈ g.instances, i.billed (terms.asOf later) = i.billed terms)
    (steps : Nat) (book : PriceBook σ α) :
    b.groupsEstimate (terms.asOf later) cluster groups steps book
      = b.groupsEstimate terms cluster groups steps book := by
  refine List.foldl_ext _ _ _ fun state g mem => ?_
  simp only [billGroup, b.groupCosts_asOf (same g mem)]

end Biller

/-! ## Ends that are known -/

/-- **An instance with an end of its own**, or in a window that has ended, is billed for the same
time at all later times. -/
theorem Instance.billed_asOf {i : Instance} {terms : BillingTerms} {later : Instant}
    (created : i.createdAt < terms.now) (created' : i.createdAt < later)
    (ends : i.terminatedAt.isSome ∨ ∃ stop ∈ terms.window.stop, stop ≤ terms.now ∧ stop ≤ later) :
    i.billed (terms.asOf later) = i.billed terms := by
  unfold billed endOr
  cases own : i.terminatedAt with
  | some stop => rfl
  | none =>
    obtain ⟨stop, bound, before, before'⟩ := ends.resolve_left (by simp [own])
    have begun : ¬ terms.now < i.createdAt := fun reversed =>
      Instant.lt_irrefl _ (Instant.lt_trans created reversed)
    have begun' : ¬ later < i.createdAt := fun reversed =>
      Instant.lt_irrefl _ (Instant.lt_trans created' reversed)
    have bounded : terms.window.stop = some stop := bound
    simp only [Option.getD_none, BillingTerms.asOf, begun, begun', if_false, TimeWindow.clip,
      bounded, Option.elim_some, Instant.earlier_of_le before, Instant.earlier_of_le before']

/-- Whether a time is later than the end of a cluster and the beginnings of all its instances. -/
structure Instant.IsAfter (now : Instant) (cluster : ClusterDescriptor)
    (groups : List GroupInstances) : Prop where
  ended : ∀ stop ∈ cluster.endedAt, stop < now
  created : ∀ g ∈ groups, ∀ i ∈ g.instances, i.createdAt < now

/-- Whether every instance has an end that is known at two times: its own, that of its cluster or
that of the window. -/
def ClusterDescriptor.EndsKnown (cluster : ClusterDescriptor) (window : TimeWindow)
    (now later : Instant) (groups : List GroupInstances) : Prop :=
  ∀ g ∈ groups, ∀ i ∈ g.instances, i.terminatedAt.isSome ∨ cluster.endedAt.isSome
    ∨ ∃ stop ∈ window.stop, stop ≤ now ∧ stop ≤ later

namespace Biller

variable {ι σ α : Type} [Amount α]

/-- **The estimate of a cluster does not depend on the clock** where the ends of all its instances
are known. -/
theorem clusterEstimate_clock (b : Biller σ α) (inventory : Inventory ι)
    (cluster : ClusterDescriptor) (surcharge : SurchargeModel) (window : TimeWindow)
    (now later : Instant) (s : ι) (steps : Nat) (book : PriceBook σ α)
    (listed : ∀ groups, (inventory.layout cluster.id s).1 = .ok groups →
      now.IsAfter cluster groups ∧ later.IsAfter cluster groups
        ∧ cluster.EndsKnown window now later groups) :
    b.clusterEstimate inventory cluster surcharge window now s steps book
      = b.clusterEstimate inventory cluster surcharge window later s steps book := by
  unfold clusterEstimate
  cases layout : inventory.layout cluster.id s with
  | mk outcome s' =>
    cases outcome with
    | error fault => rfl
    | ok groups =>
      obtain ⟨after, after', known⟩ := listed groups (by rw [layout])
      have same : ∀ g ∈ groups, ∀ i ∈ g.instances,
          i.billed ((cluster.terms surcharge window now).asOf (cluster.billedUntil later))
            = i.billed (cluster.terms surcharge window now) := by
        intro g group i item
        cases ended : cluster.endedAt with
        | some stop =>
          -- Both times lie behind the end of the cluster.
          have billed {now : Instant} (passed : stop < now) : cluster.billedUntil now = stop := by
            rw [ClusterDescriptor.billedUntil, ended]
            exact Instant.earlier_of_le (Instant.le_of_lt passed)
          rw [ClusterDescriptor.terms, billed (after.ended stop ended),
            billed (after'.ended stop ended)]
          rfl
        | none =>
          have billed (now : Instant) : cluster.billedUntil now = now := by
            rw [ClusterDescriptor.billedUntil, ended]
            rfl
          have ends := known g group i item
          rw [ended] at ends
          rw [ClusterDescriptor.terms, billed, billed]
          exact Instance.billed_asOf (after.created g group i item) (after'.created g group i item)
            (ends.imp_right fun others => others.resolve_left nofun)
      have estimate := b.groupsEstimate_asOf cluster.id same steps book
      exact congrArg (fun billed : RunningEstimate σ α =>
        (Except.ok billed.estimate, s', billed.steps, billed.book)) estimate.symm

section Sample

/-- A machine that is paid by the hour. -/
def loneMachine (terminatedAt : Option Instant) : Instance :=
  ⟨"i-1", "m5.large", .onDemand, .atHour 1, terminatedAt, []⟩

/-- An inventory that lists one machine for every cluster. -/
def loneInventory (terminatedAt : Option Instant) : Inventory Unit where
  describe cluster _ :=
    (.ok ⟨cluster, "", .terminated, "us-east-1a", .atHour 1, none, none⟩, ())
  groups _ _ := (.ok [⟨"ig-1", "CORE", "m5.large", []⟩], ())
  fleets _ _ := (.ok [], ())
  instances _ _ _ _ := (.ok [loneMachine terminatedAt], ())

/-- A cluster that is gone, with no end on record. -/
def goneCluster : ClusterDescriptor :=
  ⟨"j-1", "", .terminated, "us-east-1a", .atHour 1, none, none⟩

/-- A biller with one price, of a dollar an hour, and no server. -/
def dollarBiller : Biller Unit Float :=
  ⟨PriceCatalog.empty.withOnDemand "m5.large" 1.0, .silent, .once⟩

/-- The estimate of the cluster at some time. -/
def goneEstimate (terminatedAt : Option Instant) (now : Instant) :
    Except Fault (ClusterEstimate Float) :=
  (dollarBiller.clusterEstimate (loneInventory terminatedAt) goneCluster .absent .unbounded now ()
    GroupBilling.roundSteps (.start ())).1

theorem clusterEstimate_clock_gone :
    (∀ groups, ((loneInventory (some (.atHour 2))).layout goneCluster.id ()).1 = .ok groups →
        (Instant.atHour 3).IsAfter goneCluster groups
          ∧ (Instant.atHour 4).IsAfter goneCluster groups
          ∧ goneCluster.EndsKnown .unbounded (.atHour 3) (.atHour 4) groups)
      ∧ goneEstimate (some (.atHour 2)) (.atHour 3)
        = goneEstimate (some (.atHour 2)) (.atHour 4) := by
  have listed : ∀ groups,
      ((loneInventory (some (.atHour 2))).layout goneCluster.id ()).1 = .ok groups →
      (Instant.atHour 3).IsAfter goneCluster groups
        ∧ (Instant.atHour 4).IsAfter goneCluster groups
        ∧ goneCluster.EndsKnown .unbounded (.atHour 3) (.atHour 4) groups := by
    rintro groups ⟨⟩
    have running (now : Instant) : ∀ stop ∈ goneCluster.endedAt, stop < now := by
      simp [goneCluster]
    refine ⟨⟨running _, by decide⟩, ⟨running _, by decide⟩, fun g group i item => .inl ?_⟩
    obtain rfl := List.mem_singleton.mp group
    obtain rfl := List.mem_singleton.mp item
    rfl
  have same := clusterEstimate_clock dollarBiller (loneInventory (some (.atHour 2))) goneCluster
    .absent .unbounded (.atHour 3) (.atHour 4) () GroupBilling.roundSteps (.start ()) listed
  exact ⟨listed, by rw [goneEstimate, same, goneEstimate]⟩

/-- What the cluster pays for computing time at some time. -/
def goneCompute (now : Instant) : Option Float :=
  (goneEstimate none now).toOption.map fun e => e.breakdown.category "CORE" .compute

/-- **A cluster that is gone may cost more later**: its machine has no end on record, and is billed
until now. -/
theorem clusterEstimate_grows :
    goneCluster.isTerminal = true ∧ (loneMachine none).createdAt < .atHour 2
      ∧ goneCompute (.atHour 2) = some 1.0 ∧ goneCompute (.atHour 3) = some 2.0
      ∧ goneEstimate none (.atHour 2) ≠ goneEstimate none (.atHour 3) := by
  have early : goneCompute (.atHour 2) = some 1.0 := by decide +kernel
  have late : goneCompute (.atHour 3) = some 2.0 := by decide +kernel
  refine ⟨rfl, by decide, early, late, fun same => ?_⟩
  have paid : goneCompute (.atHour 2) = goneCompute (.atHour 3) := by
    rw [goneCompute, goneCompute, same]
  rw [early, late] at paid
  exact absurd paid (by decide +kernel)

end Sample

end Biller

end ClusterBilling
