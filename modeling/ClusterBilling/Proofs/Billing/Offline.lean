import ClusterBilling.Proofs.Billing.Conservation

/-!
# Billing without a server

A biller whose source is silent prices spot instances by the histories in the book alone. It never
waits, and though the book notes the markets that were asked for, it answers as before. So **every
instance costs what it costs on its own, with the book as it was at first**
(`charges_offline`), whoever is billed before it or beside it, and however many steps a round
has. The only fault left is a life span that ends before it begins. A bill on its way comes to the
same estimate (`ComesTo`), whoever turns to the book between two of its turns.
-/

namespace ClusterBilling

variable {α : Type} [Amount α]

namespace PriceBook

/-- A silent source brings nothing, and the history is integrated as it is. -/
theorem settle_silent (retry : RetryPolicy) (book : PriceBook Unit α) (fetch : SpotFetch α)
    (unstarted : fetch.gathered = []) :
    (book.settle .silent retry fetch).1
        = .ok ((book.history fetch.request.market).integrate fetch.request.start
          fetch.request.stop)
      ∧ (book.settle .silent retry fetch).2.Alike book := by
  have nothing : fetch.proceed .silent retry book.source = (.ended (.ok []), ()) := by
    unfold SpotFetch.proceed
    simp [SpotSource.silent, SpotPage.next?, unstarted]
  have same : (book.extend fetch.request.market []).Alike book := by
    refine ⟨fun market => ?_, rfl⟩
    rw [history_extend]
    split
    · next own => rw [own]; rfl
    · rfl
  unfold settle price
  dsimp only
  by_cases refresh : (book.history fetch.request.market).needsRefresh fetch.request.start
      fetch.request.stop
  · simp only [refresh, if_true, resume, nothing, conclude]
    exact ⟨by rw [same.history], same⟩
  · simp only [refresh]
    exact ⟨rfl, .refl book⟩

/-- So the first question to the book is answered at once. -/
theorem look_silent (retry : RetryPolicy) (book : PriceBook Unit α) (fetch : SpotFetch α)
    (unstarted : fetch.gathered = []) :
    (book.look .silent retry fetch).1
        = .priced (.ok ((book.history fetch.request.market).integrate fetch.request.start
          fetch.request.stop))
      ∧ (book.look .silent retry fetch).2.Alike book := by
  have nothing (s : Unit) : fetch.askPage .silent retry s = (.ended (.ok []), ()) := by
    simp [SpotFetch.askPage, SpotSource.silent, SpotPage.next?, unstarted]
  have entered := book.alike_enter fetch.request.market
  have same : ((book.enter fetch.request.market).extend fetch.request.market []).Alike book := by
    refine ⟨fun market => ?_, rfl⟩
    rw [history_extend]
    split
    · next own => rw [own, ← entered.history]; rfl
    · exact entered.history market
  unfold look
  dsimp only
  by_cases refresh : (book.history fetch.request.market).needsRefresh fetch.request.start
      fetch.request.stop
  · simp only [refresh, if_true, askPage, nothing, conclude]
    exact ⟨by rw [same.history], same⟩
  · simp only [refresh]
    exact ⟨rfl, entered⟩

end PriceBook

/-- One charge for every instance of some groups, in listing order, when it is known what becomes
of an instance. -/
def Charge.forEach (groups : List GroupInstances)
    (outcome : List Volume → Instance → Except Fault (InstanceCost α)) : List (Charge α) :=
  groups.flatMap fun g => g.instances.map fun i =>
    ⟨g.group.role, g.group.volumes, i, outcome g.group.volumes i⟩

/-- A biller that has no server to ask. -/
def Biller.offline (catalog : PriceCatalog α) (retry : RetryPolicy) : Biller Unit α :=
  ⟨catalog, .silent, retry⟩

namespace Biller

variable (catalog : PriceCatalog α) (retry : RetryPolicy) (terms : BillingTerms)

omit [Amount α] in
theorem neverWaits_offline : (offline catalog retry).NeverWaits := by
  intro market start stop s later s' waits
  unfold SpotFetch.proceed at waits
  simp [offline, SpotSource.silent, SpotPage.next?] at waits

/-- The machine time of an instance between two instants. -/
def machineTime (catalog : PriceCatalog α) (terms : BillingTerms) (book : PriceBook Unit α)
    (i : Instance) (start stop : Instant) : α :=
  match i.pricingMode with
  | .onDemand => catalog.priceOf i.kind * hoursBetween start stop
  | .spot => (book.history (i.market terms)).integrate start stop

/-- What becomes of an instance that is billed without a server. -/
def offlineOutcome (catalog : PriceCatalog α) (retry : RetryPolicy) (terms : BillingTerms)
    (book : PriceBook Unit α) (volumes : List Volume) (i : Instance) :
    Except Fault (InstanceCost α) :=
  (i.billed terms).map fun
    | none => .nothing
    | some (start, stop) => (offline catalog retry).withExtras terms volumes i start stop
        (machineTime catalog terms book i start stop)

/-- **Billing an instance** leaves the book as good as it was. -/
theorem instanceCost_offline (book : PriceBook Unit α) (volumes : List Volume) (i : Instance) :
    ((offline catalog retry).instanceCost terms volumes i book).1
        = offlineOutcome catalog retry terms book volumes i
      ∧ ((offline catalog retry).instanceCost terms volumes i book).2.Alike book := by
  unfold instanceCost offlineOutcome opening
  cases i.billed terms with
  | error fault => exact ⟨rfl, .refl book⟩
  | ok range =>
    cases range with
    | none => exact ⟨rfl, .refl book⟩
    | some range =>
      obtain ⟨start, stop⟩ := range
      cases mode : i.pricingMode with
      | onDemand => exact ⟨by simp only [machineTime, mode]; rfl, .refl book⟩
      | spot =>
        have settled := book.settle_silent retry
          (.start retry (i.market terms) start stop) rfl
        refine ⟨?_, settled.2⟩
        simp only [machineTime, mode]
        exact congrArg _ settled.1

theorem oneByOne_offline (book book' : PriceBook Unit α) (alike : book'.Alike book)
    (items : List (List Volume × Instance)) :
    ((offline catalog retry).oneByOne terms items book').1
      = items.map fun item => offlineOutcome catalog retry terms book item.1 item.2 := by
  induction items generalizing book' with
  | nil => rfl
  | cons item rest ih =>
    obtain ⟨volumes, i⟩ := item
    have here := instanceCost_alike (offline catalog retry) terms volumes alike i
    have alone := instanceCost_offline catalog retry terms book volumes i
    simp only [oneByOne, List.map_cons, here.1, alone.1]
    rw [ih _ (here.2.trans alone.2)]

/-- **Every instance costs what it costs on its own**, with the book as it was at first. -/
theorem charges_offline (groups : List GroupInstances) (steps : Nat)
    (book : PriceBook Unit α) :
    (offline catalog retry).charges terms groups steps book
      = Charge.forEach groups (offlineOutcome catalog retry terms book) := by
  have schedule : (offline catalog retry).GroupByGroup terms groups book
      ((offline catalog retry).charges terms groups steps book) :=
    groupByGroup_charges groups steps book
  obtain ⟨order, perm, billed⟩ := schedule.exists_order (neverWaits_offline catalog retry)
  unfold OneAfterOther at billed
  rw [oneByOne_offline catalog retry terms book book (.refl book), List.map_map] at billed
  have outcome : ∀ c ∈ (offline catalog retry).charges terms groups steps book,
      (⟨c.role, c.volumes, c.item, offlineOutcome catalog retry terms book c.volumes c.item⟩
        : Charge α) = c := by
    intro c mem
    have same := List.map_inj_left.mp billed c (perm.mem_iff.mpr mem)
    exact congrArg (Charge.mk c.role c.volumes c.item) same
  have listed := (offline catalog retry).items_charges terms groups steps book
  calc
    _ = ((offline catalog retry).charges terms groups steps book).map fun c =>
        (⟨c.role, c.volumes, c.item, offlineOutcome catalog retry terms book c.volumes c.item⟩
          : Charge α) := ((List.map_congr_left outcome).trans (List.map_id _)).symm
    _ = (((offline catalog retry).charges terms groups steps book).map fun c =>
        (c.role, c.volumes, c.item)).map fun x => (⟨x.1, x.2.1, x.2.2,
          offlineOutcome catalog retry terms book x.2.1 x.2.2⟩ : Charge α) := by
      rw [List.map_map]
      rfl
    _ = _ := by
      rw [listed, List.map_flatMap]
      simp only [List.map_map, Charge.forEach]
      rfl

/-! ## Estimates -/

theorem alike_oneByOne_offline (book : PriceBook Unit α) (items : List (List Volume × Instance)) :
    ((offline catalog retry).oneByOne terms items book).2.Alike book := by
  induction items generalizing book with
  | nil => exact .refl book
  | cons item rest ih =>
    exact (ih _).trans (instanceCost_offline catalog retry terms book item.1 item.2).2

/-- **Billing a group** gives each instance what it costs on its own, and leaves the book as good
as it was. -/
theorem groupCosts_offline (g : GroupInstances) (steps : Nat) (book : PriceBook Unit α) :
    ((offline catalog retry).groupCosts terms g steps book).costs
        = g.instances.map (fun i =>
            (i, offlineOutcome catalog retry terms book g.group.volumes i))
      ∧ ((offline catalog retry).groupCosts terms g steps book).book.Alike book := by
  constructor
  · have charged := charges_offline catalog retry terms [g] steps book
    simp only [charges, List.append_nil, Charge.forEach, List.flatMap_singleton] at charged
    have outcomes := congrArg (List.map fun c : Charge α => (c.item, c.outcome)) charged
    simp only [List.map_map] at outcomes
    exact (List.map_id _).symm.trans outcomes
  · have scheduled := (offline catalog retry).exists_schedule_groupCosts terms g steps book
    obtain ⟨order, -, -, after⟩ :=
      (neverWaits_offline catalog retry).exists_order_of_scheduled scheduled
    exact after.symm.trans (alike_oneByOne_offline catalog retry terms book _)

theorem offlineOutcome_alike {book book' : PriceBook Unit α} (alike : book.Alike book') :
    offlineOutcome catalog retry terms book = offlineOutcome catalog retry terms book' := by
  have same : machineTime catalog terms book = machineTime catalog terms book' := by
    funext i start stop
    simp only [machineTime, alike.history]
  unfold offlineOutcome
  rw [same]

/-- An estimate with the instances of one more group, each billed on its own. -/
def addOffline (book : PriceBook Unit α) (e : ClusterEstimate α) (g : GroupInstances) :
    ClusterEstimate α :=
  e.addGroup g.group.role
    (g.instances.map fun i => (i, offlineOutcome catalog retry terms book g.group.volumes i))

/-- **Groups that are billed** give each instance what it costs on its own, however many steps are
left, and leave the book as good as it was. -/
theorem foldl_offline {book book' : PriceBook Unit α} (alike : book'.Alike book)
    (groups : List GroupInstances) (e : ClusterEstimate α) (steps : Nat) :
    let billed := groups.foldl ((offline catalog retry).billGroup terms) ⟨e, steps, book'⟩
    billed.estimate = groups.foldl (addOffline catalog retry terms book) e
      ∧ billed.book.Alike book := by
  induction groups generalizing book' e steps with
  | nil => exact ⟨rfl, alike⟩
  | cons g rest ih =>
    have here := groupCosts_offline catalog retry terms g steps book'
    have own : ((offline catalog retry).billGroup terms ⟨e, steps, book'⟩ g).estimate
        = addOffline catalog retry terms book e g := by
      rw [addOffline, ← offlineOutcome_alike catalog retry terms alike, ← here.1]
      rfl
    rw [List.foldl_cons, List.foldl_cons, ← own]
    exact ih (here.2.trans alike) _ _

/-! ## Bills on their way -/

/-- **Whether the pricing of an instance can only come to what the instance costs on its own.** -/
def Promises (book : PriceBook Unit α) (volumes : List Volume) (i : Instance) :
    PricingStage α → Prop
  | .asking fetch => (offline catalog retry).opening terms volumes i = .waiting fetch
  | .fetching _ => False
  | .priced outcome => outcome = offlineOutcome catalog retry terms book volumes i

section Lines

variable {book book' : PriceBook Unit α} (alike : book'.Alike book) {volumes : List Volume}
  {i : Instance} {stage : PricingStage α}

theorem promises_ofOpening (book : PriceBook Unit α) (volumes : List Volume) (i : Instance) :
    Promises catalog retry terms book volumes i
      (.ofOpening ((offline catalog retry).opening terms volumes i)) := by
  have alone := (instanceCost_offline catalog retry terms book volumes i).1
  unfold instanceCost at alone
  cases opens : (offline catalog retry).opening terms volumes i with
  | priced outcome => rwa [opens] at alone
  | waiting fetch => exact opens

variable (book) in
/-- What a fetch that begins is asked for is what its instance costs on its own. -/
theorem offlineOutcome_of_waiting {fetch : SpotFetch α}
    (opens : (offline catalog retry).opening terms volumes i = .waiting fetch) :
    fetch.gathered = []
      ∧ offlineOutcome catalog retry terms book volumes i
        = .ok ((offline catalog retry).withExtras terms volumes i fetch.request.start
          fetch.request.stop ((book.history fetch.request.market).integrate fetch.request.start
            fetch.request.stop)) := by
  have unstarted : fetch.gathered = [] := by
    unfold opening at opens
    split at opens
    · cases opens
    · cases opens
    · dsimp only at opens
      split at opens <;> cases opens
      rfl
  have alone := (instanceCost_offline catalog retry terms book volumes i).1
  simp only [instanceCost, opens] at alone
  rw [← alone, show (offline catalog retry).spot = SpotSource.silent from rfl,
    (book.settle_silent _ fetch unstarted).1]
  exact ⟨unstarted, rfl⟩

include alike

/-- **A question to the book** keeps to that, and leaves the book as good as it was. -/
theorem Promises.askOnce (promises : Promises catalog retry terms book volumes i stage) :
    let asked := (offline catalog retry).askOnce terms volumes i stage book'
    Promises catalog retry terms book volumes i asked.1 ∧ asked.2.Alike book := by
  cases stage with
  | asking fetch =>
    obtain ⟨unstarted, own⟩ := offlineOutcome_of_waiting catalog retry terms book promises
    have looked := book'.look_silent retry fetch unstarted
    rw [alike.history] at looked
    simp only [Biller.askOnce, show (offline catalog retry).spot = SpotSource.silent from rfl,
      show (offline catalog retry).retry = retry from rfl, looked.1]
    exact ⟨own.symm, looked.2.trans alike⟩
  | fetching fetch => exact promises.elim
  | priced outcome => exact ⟨promises, alike⟩

theorem Promises.settleLine (promises : Promises catalog retry terms book volumes i stage) :
    let settled := (offline catalog retry).settleLine terms volumes i stage book'
    settled.1 = offlineOutcome catalog retry terms book volumes i ∧ settled.2.Alike book := by
  cases stage with
  | asking fetch =>
    obtain ⟨unstarted, own⟩ := offlineOutcome_of_waiting catalog retry terms book promises
    have entered := (book'.alike_enter fetch.request.market).trans alike
    have settled := (book'.enter fetch.request.market).settle_silent retry fetch unstarted
    rw [entered.history] at settled
    simp only [Biller.settleLine, show (offline catalog retry).spot = SpotSource.silent from rfl,
      show (offline catalog retry).retry = retry from rfl, settled.1]
    exact ⟨own.symm, settled.2.trans entered⟩
  | fetching fetch => exact promises.elim
  | priced outcome => exact ⟨promises, alike⟩

theorem settleLines_offline {lines : List (Instance × PricingStage α)}
    (promises : ∀ line ∈ lines, Promises catalog retry terms book volumes line.1 line.2) :
    let settled := (offline catalog retry).settleLines terms volumes lines book'
    settled.1 = lines.map (fun line =>
        (line.1, offlineOutcome catalog retry terms book volumes line.1))
      ∧ settled.2.Alike book := by
  induction lines generalizing book' with
  | nil => exact ⟨rfl, alike⟩
  | cons line rest ih =>
    obtain ⟨i, stage⟩ := line
    have here := (promises _ List.mem_cons_self).settleLine catalog retry terms alike
    have others := ih here.2 fun line mem => promises line (List.mem_cons_of_mem _ mem)
    refine ⟨?_, others.2⟩
    simp only [settleLines, List.map_cons]
    exact congrArg₂ _ (congrArg _ here.1) others.1

omit alike in
theorem costs_of_promises {lines : List (Instance × PricingStage α)}
    (promises : ∀ line ∈ lines, Promises catalog retry terms book volumes line.1 line.2)
    {costs : List (Instance × Except Fault (InstanceCost α))} (priced : costsOf? lines = some costs) :
    costs = lines.map fun line =>
      (line.1, offlineOutcome catalog retry terms book volumes line.1) := by
  induction lines generalizing costs with
  | nil =>
    cases priced
    rfl
  | cons line rest ih =>
    obtain ⟨i, stage⟩ := line
    have own := promises _ List.mem_cons_self
    cases stage with
    | priced outcome =>
      obtain ⟨others, known, rfl⟩ := Option.map_eq_some_iff.mp priced
      rw [List.map_cons, ← ih (fun line mem => promises line (List.mem_cons_of_mem _ mem)) known]
      exact congrArg (· :: others) (congrArg _ own)
    | _ => cases priced

end Lines

/-- **What a bill on its way comes to** without a server: every instance whose group is not closed
yet is added for what it costs on its own. -/
def ComesTo (book : PriceBook Unit α) (bill : RunningBill α) (total : ClusterEstimate α) : Prop :=
  match bill.current with
  | none => bill.left.foldl (addOffline catalog retry terms book) bill.estimate = total
  | some (group, lines) =>
    (∀ line ∈ lines, Promises catalog retry terms book group.volumes line.1 line.2)
      ∧ bill.left.foldl (addOffline catalog retry terms book) (bill.estimate.addGroup group.role
        (lines.map fun line =>
          (line.1, offlineOutcome catalog retry terms book group.volumes line.1))) = total

section Bills

variable {book book' : PriceBook Unit α} {bill : RunningBill α} {total : ClusterEstimate α}
  (comes : ComesTo catalog retry terms book bill total)

include comes

theorem ComesTo.total? {estimate : ClusterEstimate α} (ended : bill.total? = some estimate) :
    estimate = total := by
  obtain ⟨own, current, left⟩ := bill
  cases current <;> cases left <;> cases ended
  exact comes

/-- **A turn does not change what a bill comes to**, and leaves the book as good as it was. -/
theorem ComesTo.turnAt (alike : book'.Alike book) (place : Nat) :
    let turned := (offline catalog retry).turnAt terms place bill book'
    ComesTo catalog retry terms book turned.1 total ∧ turned.2.Alike book := by
  obtain ⟨estimate, current, left⟩ := bill
  cases current with
  | none =>
    cases left with
    | nil => exact ⟨comes, alike⟩
    | cons g left =>
      refine ⟨⟨fun line mem => ?_, ?_⟩, alike⟩
      · obtain ⟨i, -, rfl⟩ := List.mem_map.mp mem
        exact promises_ofOpening catalog retry terms book g.group.volumes i
      · simp only [openings, List.map_map]
        exact comes
  | some current =>
    obtain ⟨group, lines⟩ := current
    obtain ⟨promises, sum⟩ := comes
    simp only [Biller.turnAt]
    split
    · next costs priced =>
      rw [← costs_of_promises catalog retry terms promises priced] at sum
      exact ⟨sum, alike⟩
    · split
      · next i stage here =>
        have own := promises _ (List.mem_of_getElem? here)
        have asked := own.askOnce catalog retry terms alike
        refine ⟨⟨fun line mem => ?_, ?_⟩, asked.2⟩
        · rcases List.mem_or_eq_of_mem_set mem with old | rfl
          · exact promises line old
          · exact asked.1
        · have same : (lines.set place (i, ((offline catalog retry).askOnce terms group.volumes i
              stage book').1)).map (fun line =>
                (line.1, offlineOutcome catalog retry terms book group.volumes line.1))
              = lines.map fun line =>
                (line.1, offlineOutcome catalog retry terms book group.volumes line.1) := by
            obtain ⟨bound, own⟩ := List.getElem?_eq_some_iff.mp here
            refine List.ext_getElem? fun n => ?_
            simp only [List.map_set, List.getElem?_set, List.getElem?_map, List.length_map]
            split
            · next same => simp [← same, own, bound]
            · rfl
          exact same ▸ sum
      · exact ⟨⟨promises, sum⟩, alike⟩

/-- **The rest of a bill gives what it comes to.** -/
theorem ComesTo.finishBill (alike : book'.Alike book) (steps : Nat) :
    let billed := (offline catalog retry).finishBill terms bill steps book'
    billed.estimate = total ∧ billed.book.Alike book := by
  obtain ⟨estimate, current, left⟩ := bill
  cases current with
  | none =>
    have billed := foldl_offline catalog retry terms alike left estimate steps
    exact ⟨billed.1.trans comes, billed.2⟩
  | some current =>
    obtain ⟨group, lines⟩ := current
    obtain ⟨promises, sum⟩ := comes
    have settled := settleLines_offline catalog retry terms alike promises
    have billed := foldl_offline catalog retry terms settled.2 left (estimate.addGroup group.role
      ((offline catalog retry).settleLines terms group.volumes lines book').1) steps
    refine ⟨billed.1.trans ?_, billed.2⟩
    rw [settled.1]
    exact sum

end Bills

end Biller

end ClusterBilling
