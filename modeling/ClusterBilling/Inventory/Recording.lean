import ClusterBilling.Inventory.Codec
import ClusterBilling.Inventory.Source

/-!
# Recorded inventories

A recording holds clusters with their groups and instances. A cluster is listed either as groups
or as fleets and refuses the other way. Of several clusters with one name, and of several groups
with one name in a cluster, the first recorded one answers.
-/

namespace ClusterBilling

/-- A recorded cluster. -/
structure RecordedCluster where
  descriptor : ClusterDescriptor
  /-- The cluster is listed as fleets. -/
  fleetsOnly : Bool
  groups : List GroupInstances
deriving DecidableEq

/-- Recorded clusters. -/
structure InventoryRecording where
  clusters : List RecordedCluster
deriving DecidableEq

namespace RecordedCluster

def fieldNames : List String := ["descriptor", "fleets_only", "groups"]

def toJson (c : RecordedCluster) : Json :=
  .record [("descriptor", c.descriptor.toJson), ("fleets_only", .bool c.fleetsOnly),
    ("groups", .array (c.groups.map GroupInstances.toJson))]

/-- The depth of a group inside the document of a recording: groups of a cluster of a list. -/
def groupDepth : Nat := 5

def ofJson? (value : Json) : Option RecordedCluster := do
  match ← Json.fields? fieldNames value with
  | [descriptor, fleetsOnly, groups] =>
    return ⟨← Json.required? ClusterDescriptor.ofJson? descriptor,
      ← Json.defaulted? false Json.asBool? fleetsOnly,
      ← Json.defaulted? [] (Json.asList? (GroupInstances.ofJson? groupDepth)) groups⟩
  | _ => none

/-- How the cluster is listed. -/
def listing (c : RecordedCluster) : Listing := if c.fleetsOnly then .fleets else .groups

end RecordedCluster

namespace InventoryRecording

def toJson (r : InventoryRecording) : Json :=
  .record [("clusters", .array (r.clusters.map RecordedCluster.toJson))]

def ofJson? (value : Json) : Option InventoryRecording := do
  match ← Json.fields? ["clusters"] value with
  | [clusters] => return ⟨← Json.required? (Json.asList? RecordedCluster.ofJson?) clusters⟩
  | _ => none

/-- The names of the clusters, as recorded. -/
def clusterIds (r : InventoryRecording) : List ClusterId := r.clusters.map (·.descriptor.id)

/-- The cluster of a name. -/
def cluster (r : InventoryRecording) (id : ClusterId) : Except Fault RecordedCluster :=
  match r.clusters.find? fun c => c.descriptor.id == id with
  | some c => .ok c
  | none => .error (.unknownCluster id)

/-- The groups of a cluster, if it is listed that way. -/
def groupsOf (r : InventoryRecording) (id : ClusterId) (listing : Listing) :
    Except Fault (List GroupInstances) := do
  let c ← r.cluster id
  if c.listing = listing then .ok c.groups else .error (.unsupportedListing id listing.name)

def describe (r : InventoryRecording) (id : ClusterId) : Except Fault ClusterDescriptor :=
  (r.cluster id).map RecordedCluster.descriptor

/-- The groups, or fleets, of a cluster without their instances. -/
def list (r : InventoryRecording) (id : ClusterId) (listing : Listing) :
    Except Fault (List ResourceGroup) :=
  (r.groupsOf id listing).map fun groups => groups.map GroupInstances.group

/-- The instances of a group. -/
def instances (r : InventoryRecording) (id : ClusterId) (group : GroupId) (listing : Listing) :
    Except Fault (List Instance) := do
  let groups ← r.groupsOf id listing
  match groups.find? fun g => g.group.id == group with
  | some g => .ok g.instances
  | none => .error (.invalidArgument ("cluster " ++ id ++ " has no group " ++ group))

/-- **The inventory that replays a recording**, the one that the outer state holds at the time. -/
def inventory {ι : Type} (recording : ι → InventoryRecording) : Inventory ι where
  describe id s := ((recording s).describe id, s)
  groups id s := ((recording s).list id .groups, s)
  fleets id s := ((recording s).list id .fleets, s)
  instances id group listing s := ((recording s).instances id group listing, s)

end InventoryRecording

end ClusterBilling
