import Mathlib
import ClusterBilling.Billing.Interleaved

/-!
# Listings that fail

A cluster is listed in several calls: its groups, or its fleets if it refuses that, and then the
instances of each. **The first of them that fails decides what becomes of the listing**
(`error_layout_iff`). That a cluster refuses to be listed by groups is no failure. The same is said
of a listing on its way, of one call of it (`error_layoutCall_iff`) and of the rest of it
(`error_layoutFrom_iff`).
-/

namespace ClusterBilling

/-- Working on an answer does not fail. -/
theorem Asked.error_andThen_answer_iff {ι β γ : Type} (first : Asked ι β) (f : β → γ) (s : ι)
    (fault : Fault) :
    (first.andThen (fun b => .answer (f b)) s).1 = .error fault ↔ (first s).1 = .error fault := by
  unfold andThen
  cases first s with
  | mk outcome s' => cases outcome <;> simp [answer]

namespace Inventory

variable {ι : Type}

/-- **Whether listing the instances of some groups fails**: that of the first group, or that of a
later one once those before were listed. -/
inductive InstancesFail (inventory : Inventory ι) (cluster : ClusterId) (listing : Listing) :
    List ResourceGroup → ι → Fault → Prop
  | here {group : ResourceGroup} {rest : List ResourceGroup} {s s' : ι} {fault : Fault}
    (failed : inventory.instances cluster group.id listing s = (.error fault, s')) :
    InstancesFail inventory cluster listing (group :: rest) s fault
  | later {group : ResourceGroup} {rest : List ResourceGroup} {s s' : ι}
    {instances : List Instance} {fault : Fault}
    (listed : inventory.instances cluster group.id listing s = (.ok instances, s'))
    (failed : InstancesFail inventory cluster listing rest s' fault) :
    InstancesFail inventory cluster listing (group :: rest) s fault

/-- How a cluster is listed: by groups, or by fleets if it refuses that. -/
inductive Lists (inventory : Inventory ι) (cluster : ClusterId) (s : ι) :
    Listing → List ResourceGroup → ι → Prop
  | byGroups {groups : List ResourceGroup} {s' : ι}
    (listed : inventory.groups cluster s = (.ok groups, s')) :
    Lists inventory cluster s .groups groups s'
  | byFleets {refusing listing : String} {fleets : List ResourceGroup} {s' s'' : ι}
    (refused : inventory.groups cluster s = (.error (.unsupportedListing refusing listing), s'))
    (listed : inventory.fleets cluster s' = (.ok fleets, s'')) :
    Lists inventory cluster s .fleets fleets s''

/-- **Whether listing a cluster fails**, its groups, its fleets or their instances. That it refuses
to be listed by groups is no failure. -/
inductive LayoutFails (inventory : Inventory ι) (cluster : ClusterId) (s : ι) : Fault → Prop
  | groups {fault : Fault} {s' : ι} (failed : inventory.groups cluster s = (.error fault, s'))
    (other : ∀ refusing listing, fault ≠ .unsupportedListing refusing listing) :
    LayoutFails inventory cluster s fault
  | fleets {refusing listing : String} {fault : Fault} {s' s'' : ι}
    (refused : inventory.groups cluster s = (.error (.unsupportedListing refusing listing), s'))
    (failed : inventory.fleets cluster s' = (.error fault, s'')) :
    LayoutFails inventory cluster s fault
  | instances {listing : Listing} {groups : List ResourceGroup} {fault : Fault} {s' : ι}
    (listed : inventory.Lists cluster s listing groups s')
    (failed : inventory.InstancesFail cluster listing groups s' fault) :
    LayoutFails inventory cluster s fault

/-- **Whether a call of a listing on its way fails.** -/
inductive CallFails (inventory : Inventory ι) (cluster : ClusterId) :
    LayoutStage → ι → Fault → Prop
  | groups {s s' : ι} {fault : Fault} (failed : inventory.groups cluster s = (.error fault, s'))
    (other : ∀ refusing listing, fault ≠ .unsupportedListing refusing listing) :
    CallFails inventory cluster .groups s fault
  | fleets {s s' : ι} {fault : Fault} (failed : inventory.fleets cluster s = (.error fault, s')) :
    CallFails inventory cluster .fleets s fault
  | instances {listing : Listing} {listed : List GroupInstances} {group : ResourceGroup}
    {left : List ResourceGroup} {s s' : ι} {fault : Fault}
    (failed : inventory.instances cluster group.id listing s = (.error fault, s')) :
    CallFails inventory cluster (.instances listing listed (group :: left)) s fault

/-- **Whether the rest of a listing fails.** -/
inductive RestFails (inventory : Inventory ι) (cluster : ClusterId) :
    LayoutStage → ι → Fault → Prop
  | groups {s : ι} {fault : Fault} (failed : inventory.LayoutFails cluster s fault) :
    RestFails inventory cluster .groups s fault
  | fleets {s s' : ι} {fault : Fault} (failed : inventory.fleets cluster s = (.error fault, s')) :
    RestFails inventory cluster .fleets s fault
  | ofFleets {s s' : ι} {fleets : List ResourceGroup} {fault : Fault}
    (listed : inventory.fleets cluster s = (.ok fleets, s'))
    (failed : inventory.InstancesFail cluster .fleets fleets s' fault) :
    RestFails inventory cluster .fleets s fault
  | instances {listing : Listing} {listed : List GroupInstances} {left : List ResourceGroup}
    {s : ι} {fault : Fault} (failed : inventory.InstancesFail cluster listing left s fault) :
    RestFails inventory cluster (.instances listing listed left) s fault

section Failures

variable (inventory : Inventory ι) (cluster : ClusterId)

theorem error_each_iff (listing : Listing) (groups : List ResourceGroup) (s : ι) (fault : Fault) :
    (Asked.each (inventory.withInstances cluster listing) groups s).1 = .error fault
      ↔ inventory.InstancesFail cluster listing groups s fault := by
  have stops {group : ResourceGroup} {rest : List ResourceGroup} {s s' : ι} {first : Fault}
      (failed : inventory.instances cluster group.id listing s = (.error first, s')) :
      (Asked.each (inventory.withInstances cluster listing) (group :: rest) s).1
        = .error first := by
    have one : inventory.withInstances cluster listing group s = (.error first, s') :=
      Asked.andThen_error failed
    rw [Asked.each, Asked.andThen_error one]
  have goesOn {group : ResourceGroup} {rest : List ResourceGroup} {s s' : ι}
      {instances : List Instance}
      (listed : inventory.instances cluster group.id listing s = (.ok instances, s')) :
      (Asked.each (inventory.withInstances cluster listing) (group :: rest) s).1 = .error fault
        ↔ (Asked.each (inventory.withInstances cluster listing) rest s').1 = .error fault := by
    have one : inventory.withInstances cluster listing group s = (.ok ⟨group, instances⟩, s') :=
      Asked.andThen_ok listed
    rw [Asked.each, Asked.andThen_ok one, Asked.error_andThen_answer_iff]
  constructor
  · induction groups generalizing s with
    | nil => exact nofun
    | cons group rest ih =>
      intro fails
      cases answered : inventory.instances cluster group.id listing s with
      | mk outcome s' =>
        cases outcome with
        | error first =>
          cases (stops answered).symm.trans fails
          exact .here answered
        | ok instances => exact .later answered (ih _ ((goesOn answered).mp fails))
  · intro failure
    induction failure with
    | here failed => exact stops failed
    | later listed _ ih => exact (goesOn listed).mpr (ih goesOn)

theorem Lists.parts_eq {inventory : Inventory ι} {cluster : ClusterId} {listing : Listing}
    {groups : List ResourceGroup} {s s' : ι} (lists : inventory.Lists cluster s listing groups s') :
    inventory.parts cluster s = (.ok (listing, groups), s') := by
  cases lists with
  | byGroups listed => simp only [Inventory.parts, listed]
  | byFleets refused listed =>
    simp only [Inventory.parts, refused, Asked.andThen_ok listed]
    rfl

/-- **A cluster cannot be laid out exactly if listing it fails.** -/
theorem error_layout_iff (s : ι) (fault : Fault) :
    (inventory.layout cluster s).1 = .error fault ↔ inventory.LayoutFails cluster s fault := by
  have stops {s' : ι} {first : Fault} (parts : inventory.parts cluster s = (.error first, s')) :
      (inventory.layout cluster s).1 = .error first := by
    rw [layout, Asked.andThen_error parts]
  have goesOn {listing : Listing} {groups : List ResourceGroup} {s' : ι}
      (lists : inventory.Lists cluster s listing groups s') :
      (inventory.layout cluster s).1 = .error fault
        ↔ inventory.InstancesFail cluster listing groups s' fault := by
    rw [layout, Asked.andThen_ok lists.parts_eq]
    exact inventory.error_each_iff cluster listing groups s' fault
  have byFleets {refusing listing : String} {s' s'' : ι} {first : Fault}
      (refused : inventory.groups cluster s = (.error (.unsupportedListing refusing listing), s'))
      (failed : inventory.fleets cluster s' = (.error first, s'')) :
      inventory.parts cluster s = (.error first, s'') := by
    simp only [Inventory.parts, refused, Asked.andThen_error failed]
  have byGroups {s' : ι} {first : Fault}
      (failed : inventory.groups cluster s = (.error first, s'))
      (other : ∀ refusing listing, first ≠ .unsupportedListing refusing listing) :
      inventory.parts cluster s = (.error first, s') := by
    simp only [Inventory.parts, failed]
  constructor
  · intro fails
    cases listed : inventory.groups cluster s with
    | mk outcome s' =>
      cases outcome with
      | ok groups => exact .instances (.byGroups listed) ((goesOn (.byGroups listed)).mp fails)
      | error first =>
        by_cases refused : ∃ refusing listing, first = .unsupportedListing refusing listing
        · obtain ⟨refusing, listing, rfl⟩ := refused
          cases fleets : inventory.fleets cluster s' with
          | mk outcome s'' =>
            cases outcome with
            | ok groups =>
              have lists := Lists.byFleets listed fleets
              exact .instances lists ((goesOn lists).mp fails)
            | error second =>
              cases (stops (byFleets listed fleets)).symm.trans fails
              exact .fleets listed fleets
        · have other (refusing listing : String) : first ≠ .unsupportedListing refusing listing :=
            fun same => refused ⟨refusing, listing, same⟩
          cases (stops (byGroups listed other)).symm.trans fails
          exact .groups listed other
  · intro failure
    cases failure with
    | groups failed other => exact stops (byGroups failed other)
    | fleets refused failed => exact stops (byFleets refused failed)
    | instances listed failed => exact (goesOn listed).mpr failed

/-- A call of a listing fails exactly if what it asks for does. -/
theorem error_layoutCall_iff (layout : LayoutStage) (s : ι) (fault : Fault) :
    (inventory.layoutCall cluster layout s).1 = .error fault
      ↔ inventory.CallFails cluster layout s fault := by
  constructor
  · intro fails
    cases layout with
    | groups =>
      cases listed : inventory.groups cluster s with
      | mk outcome s' =>
        simp only [layoutCall, listed] at fails
        split at fails
        · cases fails
        · cases fails
        · next first _ other answered =>
          cases fails
          cases answered
          exact .groups listed fun refusing listing same => other refusing listing same
    | fleets =>
      rw [layoutCall, Asked.error_andThen_answer_iff] at fails
      exact .fleets (Prod.ext fails rfl)
    | instances listing listed left =>
      cases left with
      | nil => cases fails
      | cons group left =>
        rw [layoutCall, Asked.error_andThen_answer_iff, withInstances,
          Asked.error_andThen_answer_iff] at fails
        exact .instances (Prod.ext fails rfl)
  · intro failure
    cases failure with
    | groups failed other => simp only [layoutCall, failed]
    | fleets failed => rw [layoutCall, Asked.andThen_error failed]
    | instances failed =>
      rw [layoutCall, Asked.error_andThen_answer_iff, withInstances,
        Asked.error_andThen_answer_iff, failed]

/-- The rest of a listing fails exactly if one of its calls does. -/
theorem error_layoutFrom_iff (layout : LayoutStage) (s : ι) (fault : Fault) :
    (inventory.layoutFrom cluster layout s).1 = .error fault
      ↔ inventory.RestFails cluster layout s fault := by
  constructor
  · intro fails
    cases layout with
    | groups => exact .groups ((inventory.error_layout_iff cluster s fault).mp fails)
    | fleets =>
      cases answered : inventory.fleets cluster s with
      | mk outcome s' =>
        cases outcome with
        | error first =>
          rw [layoutFrom, Asked.andThen_error answered] at fails
          cases fails
          exact .fleets answered
        | ok fleets =>
          rw [layoutFrom, Asked.andThen_ok answered] at fails
          exact .ofFleets answered ((inventory.error_each_iff cluster ..).mp fails)
    | instances listing listed left =>
      rw [layoutFrom, Asked.error_andThen_answer_iff] at fails
      exact .instances ((inventory.error_each_iff cluster ..).mp fails)
  · intro failure
    cases failure with
    | groups failed => exact (inventory.error_layout_iff cluster s fault).mpr failed
    | fleets failed => rw [layoutFrom, Asked.andThen_error failed]
    | ofFleets listed failed =>
      rw [layoutFrom, Asked.andThen_ok listed]
      exact (inventory.error_each_iff cluster ..).mpr failed
    | instances failed =>
      rw [layoutFrom, Asked.error_andThen_answer_iff]
      exact (inventory.error_each_iff cluster ..).mpr failed

end Failures

end Inventory

end ClusterBilling
