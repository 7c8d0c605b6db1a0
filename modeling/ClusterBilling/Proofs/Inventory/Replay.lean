import Mathlib.Data.List.Nodup
import ClusterBilling.Billing.Cluster
import ClusterBilling.Inventory.Recording

/-!
# How a recorded cluster is laid out

A recording is asked for the groups of a cluster first, and then for the instances of each group by
its name. Both ways of listing are played through to the end: the one the cluster refuses leads to
the one it does not (`parts_replay`), and every name that was listed is found again
(`withInstances_replay`). So **a recorded cluster is always laid out** (`layout_replay`), and the
way it is listed makes no difference (`laidOut_flipped`).

What is found under a name is the first group that has it. **The cluster is laid out as it was
recorded exactly if groups of one name have the same instances** (`laidOut_eq_iff`), as they have
if no name is given twice (`Unambiguous.of_nodup`).
-/

namespace ClusterBilling

namespace Asked

variable {ι β γ : Type}

/-- Questions that are all answered, none of which changes the state. -/
theorem each_of_answered {ask : β → Asked ι γ} {answer : β → γ} {s : ι} (all : List β)
    (answered : ∀ b ∈ all, ask b s = (.ok (answer b), s)) :
    each ask all s = (.ok (all.map answer), s) := by
  induction all with
  | nil => rfl
  | cons b rest ih =>
    obtain ⟨first, others⟩ := List.forall_mem_cons.mp answered
    rw [each, andThen_ok first, andThen_ok (ih others)]
    rfl

end Asked

/-- An item is found by its key, or an earlier one of the same key. -/
theorem exists_find?_key {β κ : Type} [BEq κ] [LawfulBEq κ] (key : β → κ) {all : List β} {b : β}
    (mem : b ∈ all) :
    ∃ first ∈ all, key first = key b ∧ all.find? (fun b' => key b' == key b) = some first := by
  have found : (all.find? fun b' => key b' == key b).isSome :=
    List.find?_isSome.mpr ⟨b, mem, beq_self_eq_true _⟩
  obtain ⟨first, found⟩ := Option.isSome_iff_exists.mp found
  exact ⟨first, List.mem_of_find?_eq_some found, by simpa using List.find?_some found, found⟩

/-! ## Recorded clusters -/

namespace RecordedCluster

variable {c : RecordedCluster}

/-- The instances that a name of a group stands for: those of the first group of the name. -/
def instancesOf (c : RecordedCluster) (id : GroupId) : List Instance :=
  ((c.groups.find? fun g => g.group.id == id).map GroupInstances.instances).getD []

/-- **The groups as they are laid out**, each with the instances that its name stands for. -/
def laidOut (c : RecordedCluster) : List GroupInstances :=
  c.groups.map fun g => ⟨g.group, c.instancesOf g.group.id⟩

/-- The same cluster, listed the other way. -/
def flipped (c : RecordedCluster) : RecordedCluster := { c with fleetsOnly := !c.fleetsOnly }

theorem laidOut_flipped (c : RecordedCluster) : c.flipped.laidOut = c.laidOut := rfl

/-- Whether groups of one name have the same instances. -/
def Unambiguous (c : RecordedCluster) : Prop :=
  ∀ g ∈ c.groups, ∀ g' ∈ c.groups, g.group.id = g'.group.id → g.instances = g'.instances

theorem Unambiguous.of_nodup (distinct : (c.groups.map fun g => g.group.id).Nodup) :
    c.Unambiguous := by
  intro g listed g' listed' same
  rw [List.inj_on_of_nodup_map distinct listed listed' same]

/-- **A cluster is laid out as it was recorded exactly if its groups are unambiguous.** -/
theorem laidOut_eq_iff : c.laidOut = c.groups ↔ c.Unambiguous := by
  have each : c.laidOut = c.groups.map id
      ↔ ∀ g ∈ c.groups, c.instancesOf g.group.id = g.instances := by
    refine List.map_inj_left.trans (forall₂_congr fun g _ => ?_)
    show (⟨g.group, c.instancesOf g.group.id⟩ : GroupInstances) = ⟨g.group, g.instances⟩ ↔ _
    rw [GroupInstances.mk.injEq, eq_self, true_and]
  rw [List.map_id] at each
  rw [each]
  constructor
  · intro own g listed g' listed' same
    rw [← own g listed, same, own g' listed']
  · intro unambiguous g listed
    obtain ⟨first, mem, same, found⟩ := exists_find?_key (fun g => g.group.id) listed
    rw [instancesOf, found]
    exact unambiguous first mem g listed same

end RecordedCluster

/-! ## Recordings -/

namespace InventoryRecording

variable {r : InventoryRecording} {cluster : ClusterId} {c : RecordedCluster}

/-- The inventory that replays the recording it is given. -/
def replay : Inventory InventoryRecording := inventory id

/-- A name that is recorded is the name of a cluster. -/
theorem exists_cluster (recorded : cluster ∈ r.clusterIds) :
    ∃ c, r.clusters.find? (fun c => c.descriptor.id == cluster) = some c
      ∧ c.descriptor.id = cluster ∧ r.cluster cluster = .ok c := by
  obtain ⟨c, listed, rfl⟩ := List.mem_map.mp recorded
  obtain ⟨first, -, own, found⟩ := exists_find?_key (fun c => c.descriptor.id) listed
  exact ⟨first, found, own, by rw [InventoryRecording.cluster, found]⟩

theorem describe_replay (known : r.cluster cluster = .ok c) :
    replay.describe cluster r = (.ok c.descriptor, r) := by
  show (r.describe cluster, r) = _
  rw [describe, known]
  rfl

/-- A cluster is listed one way, and refuses the other. -/
theorem groupsOf_eq (known : r.cluster cluster = .ok c) (listing : Listing) :
    r.groupsOf cluster listing
      = if c.listing = listing then .ok c.groups
        else .error (.unsupportedListing cluster listing.name) := by
  rw [groupsOf, known]
  rfl

/-- **The cluster is listed the way it does not refuse.** -/
theorem parts_replay (known : r.cluster cluster = .ok c) :
    replay.parts cluster r = (.ok (c.listing, c.groups.map GroupInstances.group), r) := by
  have answer (listing : Listing) : r.list cluster listing
      = if c.listing = listing then .ok (c.groups.map GroupInstances.group)
        else .error (.unsupportedListing cluster listing.name) := by
    rw [list, groupsOf_eq known]
    split <;> rfl
  have groups : replay.groups cluster r = (r.list cluster .groups, r) := rfl
  have fleets : replay.fleets cluster r = (r.list cluster .fleets, r) := rfl
  cases way : c.listing with
  | groups =>
    rw [answer, way, if_pos rfl] at groups
    simp only [Inventory.parts, groups]
  | fleets =>
    rw [answer, way, if_neg nofun] at groups
    rw [answer, way, if_pos rfl] at fleets
    simp only [Inventory.parts, groups, Asked.andThen_ok fleets, Asked.answer]

/-- A group that was listed is asked for by its name. -/
theorem withInstances_replay (known : r.cluster cluster = .ok c) {g : GroupInstances}
    (listed : g ∈ c.groups) :
    replay.withInstances cluster c.listing g.group r
      = (.ok ⟨g.group, c.instancesOf g.group.id⟩, r) := by
  obtain ⟨first, -, -, found⟩ := exists_find?_key (fun g => g.group.id) listed
  have answered : replay.instances cluster g.group.id c.listing r
      = (.ok (c.instancesOf g.group.id), r) := by
    show (r.instances cluster g.group.id c.listing, r) = _
    rw [instances, groupsOf_eq known, if_pos rfl, RecordedCluster.instancesOf, found]
    simp only [bind, Except.bind, found]
    rfl
  rw [Inventory.withInstances, Asked.andThen_ok answered]
  rfl

/-- **A recorded cluster is laid out.** -/
theorem layout_replay (known : r.cluster cluster = .ok c) :
    replay.layout cluster r = (.ok c.laidOut, r) := by
  rw [Inventory.layout, Asked.andThen_ok (parts_replay known)]
  have answered : ∀ group ∈ c.groups.map GroupInstances.group,
      replay.withInstances cluster c.listing group r
        = (.ok ⟨group, c.instancesOf group.id⟩, r) := by
    intro group listed
    obtain ⟨g, mem, rfl⟩ := List.mem_map.mp listed
    exact withInstances_replay known mem
  refine (Asked.each_of_answered _ answered).trans ?_
  rw [List.map_map]
  rfl

/-! ## The way a cluster is listed -/

/-- The recording with the cluster at some place listed the other way. -/
def flip (r : InventoryRecording) (place : Nat) : InventoryRecording :=
  ⟨r.clusters.modify place .flipped⟩

/-- A search that does not look at what is changed finds the same item, changed or not. -/
theorem find?_modify {β : Type} {p : β → Bool} {f : β → β} (same : ∀ b, p (f b) = p b)
    (all : List β) (place : Nat) :
    (all.modify place f).find? p = all.find? p
      ∨ (all.modify place f).find? p = (all.find? p).map f := by
  induction all generalizing place with
  | nil => cases place <;> exact .inl rfl
  | cons b rest ih =>
    cases place with
    | zero =>
      rw [List.modify_zero_cons, List.find?_cons, List.find?_cons, same]
      cases p b with
      | true => exact .inr rfl
      | false => exact .inl rfl
    | succ place =>
      rw [List.modify_succ_cons, List.find?_cons, List.find?_cons]
      cases p b with
      | true => exact .inl rfl
      | false => exact ih place

/-- **Under every name the same cluster is found**, listed one way or the other. -/
theorem cluster_flip (known : r.cluster cluster = .ok c) (place : Nat) :
    (r.flip place).cluster cluster = .ok c ∨ (r.flip place).cluster cluster = .ok c.flipped := by
  have named := find?_modify (p := fun c => c.descriptor.id == cluster)
    (f := RecordedCluster.flipped) (fun _ => rfl) r.clusters place
  unfold InventoryRecording.cluster at known ⊢
  split at known
  · next first found =>
    cases known
    rcases named with unchanged | changed
    · rw [flip, unchanged, found]
      exact .inl rfl
    · rw [flip, changed, found]
      exact .inr rfl
  · cases known

end InventoryRecording

end ClusterBilling
