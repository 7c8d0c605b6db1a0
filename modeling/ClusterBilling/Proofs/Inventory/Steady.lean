import ClusterBilling.Billing.Interleaved
import ClusterBilling.Inventory.Recording
import ClusterBilling.Proofs.OrderedMap

/-!
# Answers that never change

A step of some state is steady within a set of states if it gives the same answer in all of them
and never leads out of them. Steps made of steady ones are steady (`Steady.bind`), so **an
inventory whose four answers never change lays out a cluster the same way every time**
(`Inventory.Steady.layout`), failures included. A recording replays one.
-/

namespace ClusterBilling

/-- Whether a step gives the same answer in all of certain states, and leads from them to none
other. -/
structure Steady {S β : Type} (within : S → Prop) (step : S → β × S) : Prop where
  same : ∀ s s', within s → within s' → (step s).1 = (step s').1
  stays : ∀ s, within s → within (step s).2

namespace Steady

variable {S β γ : Type} {within : S → Prop}

/-- What does not look at the state is steady. -/
theorem of_const (b : β) : Steady within fun s => (b, s) := ⟨fun _ _ _ _ => rfl, fun _ own => own⟩

/-- **Steady steps one after the other** are steady, as the second one follows from an answer that
is always the same. -/
theorem bind {first : S → β × S} {step : S → γ × S} (steady : Steady within first)
    (next : β → S → γ × S) (after : ∀ b, Steady within (next b))
    (whole : ∀ s, step s = next (first s).1 (first s).2) : Steady within step where
  same s s' own own' := by
    rw [whole, whole, steady.same s s' own own']
    exact (after _).same _ _ (steady.stays s own) (steady.stays s' own')
  stays s own := whole s ▸ (after _).stays _ (steady.stays s own)

/-- What a steady step answers once, it answers in every state. -/
theorem of_asked {step : S → β × S} (steady : Steady within step) {s s' other : S} {b : β}
    (own : within s) (asked : step s = (b, s')) (own' : within other) :
    (step other).1 = b ∧ within s' := by
  have same := steady.same other s own' own
  have stays := steady.stays s own
  rw [asked] at same stays
  exact ⟨same, stays⟩

theorem andThen {first : Asked S β} {next : β → Asked S γ} (steady : Steady within first)
    (after : ∀ b, Steady within (next b)) : Steady within (first.andThen next) := by
  refine steady.bind
    (fun outcome => match outcome with
      | .ok b => next b
      | .error fault => fun s => (.error fault, s))
    (fun outcome => ?_) fun s => ?_
  · cases outcome with
    | ok b => exact after b
    | error fault => exact of_const _
  · unfold Asked.andThen
    split <;> simp_all

theorem each {ask : β → Asked S γ} (steady : ∀ b, Steady within (ask b)) (all : List β) :
    Steady within (Asked.each ask all) := by
  induction all with
  | nil => exact of_const _
  | cons b rest ih => exact (steady b).andThen fun c => ih.andThen fun cs => of_const _

end Steady

/-- **Whether the answers of an inventory never change**, in certain states of what is outside. -/
structure Inventory.Steady {ι : Type} (inventory : Inventory ι) (within : ι → Prop) : Prop where
  describe : ∀ cluster, ClusterBilling.Steady within (inventory.describe cluster)
  groups : ∀ cluster, ClusterBilling.Steady within (inventory.groups cluster)
  fleets : ∀ cluster, ClusterBilling.Steady within (inventory.fleets cluster)
  instances : ∀ cluster group listing,
    ClusterBilling.Steady within (inventory.instances cluster group listing)

/-- The groups of a cluster and how they were listed, once it was asked for its groups. -/
def Inventory.partsAfter {ι : Type} (inventory : Inventory ι) (cluster : ClusterId) :
    Except Fault (List ResourceGroup) → Asked ι (Listing × List ResourceGroup)
  | .ok groups => .answer (.groups, groups)
  | .error (.unsupportedListing _ _) =>
    (inventory.fleets cluster).andThen fun fleets => .answer (.fleets, fleets)
  | .error fault => fun s => (.error fault, s)

/-- How far the listing of a cluster has come, once it was asked for its groups. -/
def Inventory.stageAfter : Except Fault (List ResourceGroup) → Except Fault LayoutStage
  | .ok groups => .ok (.instances .groups [] groups)
  | .error (.unsupportedListing _ _) => .ok .fleets
  | .error fault => .error fault

namespace Inventory.Steady

variable {ι : Type} {inventory : Inventory ι} {within : ι → Prop}
  (steady : inventory.Steady within) (cluster : ClusterId)

include steady

theorem parts : ClusterBilling.Steady within (inventory.parts cluster) := by
  refine (steady.groups cluster).bind (inventory.partsAfter cluster) ?_ ?_
  · intro outcome
    unfold Inventory.partsAfter
    split
    · exact .of_const _
    · exact (steady.fleets cluster).andThen fun fleets => .of_const _
    · exact .of_const _
  · intro s
    unfold Inventory.parts Inventory.partsAfter
    split <;> simp_all [Asked.answer]

theorem withInstances (listing : Listing) (group : ResourceGroup) :
    ClusterBilling.Steady within (inventory.withInstances cluster listing group) :=
  (steady.instances cluster group.id listing).andThen fun _ => .of_const _

/-- **A cluster is laid out the same way every time.** -/
theorem layout : ClusterBilling.Steady within (inventory.layout cluster) :=
  (steady.parts cluster).andThen fun (listing, groups) =>
    .each (steady.withInstances cluster listing) groups

/-- So is what is left of it. -/
theorem layoutFrom (layout : LayoutStage) :
    ClusterBilling.Steady within (inventory.layoutFrom cluster layout) := by
  cases layout with
  | groups => exact steady.layout cluster
  | fleets =>
    exact (steady.fleets cluster).andThen fun fleets =>
      .each (steady.withInstances cluster .fleets) fleets
  | instances listing listed left =>
    exact (Steady.each (steady.withInstances cluster listing) left).andThen fun _ => .of_const _

/-- A call of it leads on in the same way every time. -/
theorem layoutCall (layout : LayoutStage) :
    ClusterBilling.Steady within (inventory.layoutCall cluster layout) := by
  cases layout with
  | groups =>
    refine (steady.groups cluster).bind (fun outcome s => (Inventory.stageAfter outcome, s))
      (fun outcome => .of_const _) fun s => ?_
    unfold Inventory.layoutCall Inventory.stageAfter
    dsimp only
    split <;> simp_all
  | fleets => exact (steady.fleets cluster).andThen fun fleets => .of_const _
  | instances listing listed left =>
    cases left with
    | nil => exact .of_const _
    | cons group left =>
      exact (steady.withInstances cluster listing group).andThen fun _ => .of_const _

end Inventory.Steady

/-! ## Call by call -/

section Calls

variable {ι : Type} (inventory : Inventory ι) (cluster : ClusterId)

/-- Where all is listed nothing is left to ask. -/
theorem Inventory.layoutFrom_of_listed {layout : LayoutStage} {groups : List GroupInstances}
    (listed : layout.listed? = some groups) :
    inventory.layoutFrom cluster layout = .answer groups := by
  cases layout with
  | groups => cases listed
  | fleets => cases listed
  | instances listing done left =>
    cases left with
    | nil =>
      cases listed
      funext s
      show Asked.answer (groups ++ []) s = Asked.answer groups s
      rw [List.append_nil]
    | cons group left => cases listed

/-- **A call, and then the rest, is the listing as a whole.** -/
theorem Inventory.layoutFrom_eq_andThen {layout : LayoutStage} (unlisted : layout.listed? = none) :
    inventory.layoutFrom cluster layout
      = (inventory.layoutCall cluster layout).andThen (inventory.layoutFrom cluster) := by
  have first (listing : Listing) (groups : List ResourceGroup) :
      inventory.layoutFrom cluster (.instances listing [] groups)
        = Asked.each (inventory.withInstances cluster listing) groups :=
    Asked.andThen_answer _
  cases layout with
  | groups =>
    funext s
    show (inventory.parts cluster).andThen _ s = _
    simp only [Asked.andThen, layoutCall, parts]
    cases inventory.groups cluster s with
    | mk outcome s' =>
      cases outcome with
      | ok groups => exact (congrFun (first .groups groups) s').symm
      | error fault =>
        cases fault with
        | unsupportedListing refusing listing =>
          show (((inventory.fleets cluster).andThen fun fleets =>
              .answer (Listing.fleets, fleets)).andThen fun parts =>
                .each (inventory.withInstances cluster parts.1) parts.2) s' = _
          rw [Asked.andThen_assoc]
          rfl
        | _ => rfl
  | fleets =>
    simp only [layoutCall, Asked.andThen_assoc, Asked.answer_andThen, first]
    rfl
  | instances listing done left =>
    cases left with
    | nil => cases unlisted
    | cons group left =>
      simp only [layoutFrom, layoutCall, Asked.each, Asked.andThen_assoc, Asked.answer_andThen,
        List.append_assoc, List.singleton_append]

variable {inventory} {within : ι → Prop} (steady : inventory.Steady within) {s s' other : ι}
  {layout : LayoutStage} (own : within s) (own' : within other)
  (unlisted : layout.listed? = none)

include steady own own' unlisted

/-- The listing is what is left of it behind a call, whenever the call is made. -/
theorem Inventory.Steady.layoutFrom_of_called {later : LayoutStage}
    (asked : inventory.layoutCall cluster layout s = (.ok later, s')) :
    (inventory.layoutFrom cluster layout other).1
      = (inventory.layoutFrom cluster later other).1 := by
  have stays := (steady.layoutCall cluster layout).stays other own'
  obtain ⟨same, -⟩ := (steady.layoutCall cluster layout).of_asked own asked own'
  have called : inventory.layoutCall cluster layout other
      = (.ok later, (inventory.layoutCall cluster layout other).2) := Prod.ext same rfl
  rw [inventory.layoutFrom_eq_andThen cluster unlisted, Asked.andThen_ok called]
  exact (steady.layoutFrom cluster later).same _ other stays own'

/-- The listing fails if a call of it does, whenever the call is made. -/
theorem Inventory.Steady.layoutFrom_of_uncalled {fault : Fault}
    (asked : inventory.layoutCall cluster layout s = (.error fault, s')) :
    (inventory.layoutFrom cluster layout other).1 = .error fault := by
  obtain ⟨same, -⟩ := (steady.layoutCall cluster layout).of_asked own asked own'
  have called : inventory.layoutCall cluster layout other
      = (.error fault, (inventory.layoutCall cluster layout other).2) := Prod.ext same rfl
  rw [inventory.layoutFrom_eq_andThen cluster unlisted, Asked.andThen_error called]

end Calls

/-- **A recording that is replayed never changes its answers.** -/
theorem InventoryRecording.steady {ι : Type} (recording : ι → InventoryRecording)
    (r : InventoryRecording) : (inventory recording).Steady fun s => recording s = r := by
  have replayed {β : Type} (answer : InventoryRecording → Except Fault β) :
      Steady (fun s => recording s = r) fun s => (answer (recording s), s) :=
    ⟨fun s s' own own' => by simp only [own, own'], fun _ own => own⟩
  exact ⟨fun cluster => replayed (·.describe cluster),
    fun cluster => replayed (·.list cluster .groups),
    fun cluster => replayed (·.list cluster .fleets),
    fun cluster group listing => replayed (·.instances cluster group listing)⟩

/-- A recording describes the clusters it is asked for. -/
theorem InventoryRecording.id_of_describe {r : InventoryRecording} {cluster : ClusterId}
    {descriptor : ClusterDescriptor} (described : r.describe cluster = .ok descriptor) :
    descriptor.id = cluster := by
  unfold describe InventoryRecording.cluster at described
  split at described
  · next recorded found =>
    cases described
    simpa using List.find?_some found
  · cases described

end ClusterBilling
