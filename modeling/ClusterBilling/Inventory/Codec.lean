import ClusterBilling.Inventory.Record
import ClusterBilling.Json.Record
import ClusterBilling.Json.Writer
import ClusterBilling.Time.Notation
import ClusterBilling.Time.Reader

/-!
# Inventory records as JSON

Every record is written as an object with its fields in declared order and read back by name, or
by position from an array. Fields that may be missing have a default; an absent instant and absent
signals are written as `null`. A group with its instances is one object that holds the fields of
the group beside the instances; of it the fields are read by name alone, and members that belong
to neither must be readable although nothing is made of them.
-/

namespace ClusterBilling

open Json (asText? asName? asList? asNat? asOptional? fields? required? defaulted?)

/-- The constant of a list that has a name. -/
def named? {α : Type} (all : List α) (name : α → String) (value : Json) : Option α := do
  let given ← asName? value
  all.find? fun constant => name constant == given

namespace Instant

def toJson (t : Instant) : Json := .text t.text

def ofJson? (value : Json) : Option Instant := (asText? value).bind readLenient?

end Instant

def PricingMode.ofJson? : Json → Option PricingMode := named? PricingMode.all PricingMode.name

def PricingMode.toJson (mode : PricingMode) : Json := .text mode.name

def ClusterState.ofJson? : Json → Option ClusterState := named? ClusterState.all ClusterState.name

def ClusterState.toJson (state : ClusterState) : Json := .text state.name

def Platform.ofJson? : Json → Option Platform := named? Platform.all Platform.name

def Platform.toJson (platform : Platform) : Json := .text platform.name

namespace Volume

def fieldNames : List String := ["volume_type", "size_gib"]

/-- Sizes are below this bound. -/
def sizeBound : Nat := 4294967296

def toJson (v : Volume) : Json :=
  .record [("volume_type", .text v.volumeType), ("size_gib", .nat v.sizeGib)]

def ofJson? (value : Json) : Option Volume := do
  match ← fields? fieldNames value with
  | [volumeType, sizeGib] =>
    return ⟨← required? asText? volumeType, ← required? (asNat? sizeBound) sizeGib⟩
  | _ => none

end Volume

/-- The volumes of a record. -/
def volumesToJson (volumes : List Volume) : Json := .array (volumes.map Volume.toJson)

def volumesOfJson? : Json → Option (List Volume) := asList? Volume.ofJson?

namespace ResourceGroup

def fieldNames : List String := ["id", "role", "instance_kind", "volumes"]

/-- The members of the object, in declared order. -/
def toMembers (g : ResourceGroup) : List (String × Json) :=
  [("id", .text g.id), ("role", .text g.role), ("instance_kind", .text g.instanceKind),
    ("volumes", volumesToJson g.volumes)]

def toJson (g : ResourceGroup) : Json := .record g.toMembers

/-- The group of the fields, in declared order. -/
def ofFields? : List (Option Json) → Option ResourceGroup
  | [id, role, instanceKind, volumes] => do
    return ⟨← required? asText? id, ← required? asText? role, ← required? asText? instanceKind,
      ← defaulted? [] volumesOfJson? volumes⟩
  | _ => none

def ofJson? (value : Json) : Option ResourceGroup := (fields? fieldNames value).bind ofFields?

end ResourceGroup

namespace Instance

def fieldNames : List String :=
  ["id", "kind", "pricing_mode", "created_at", "terminated_at", "volumes"]

def toJson (i : Instance) : Json :=
  .record [("id", .text i.id), ("kind", .text i.kind), ("pricing_mode", i.pricingMode.toJson),
    ("created_at", i.createdAt.toJson),
    ("terminated_at", i.terminatedAt.elim .null Instant.toJson),
    ("volumes", volumesToJson i.volumes)]

def ofJson? (value : Json) : Option Instance := do
  match ← fields? fieldNames value with
  | [id, kind, pricingMode, createdAt, terminatedAt, volumes] =>
    return ⟨← required? asText? id, ← required? asText? kind,
      ← required? PricingMode.ofJson? pricingMode, ← required? Instant.ofJson? createdAt,
      ← defaulted? none (asOptional? Instant.ofJson?) terminatedAt,
      ← defaulted? [] volumesOfJson? volumes⟩
  | _ => none

end Instance

namespace RuntimeSignals

def fieldNames : List String := ["job_flag", "runtime_version"]

def toJson (r : RuntimeSignals) : Json :=
  .record [("job_flag", .text r.jobFlag), ("runtime_version", .text r.runtimeVersion)]

def ofJson? (value : Json) : Option RuntimeSignals := do
  match ← fields? fieldNames value with
  | [jobFlag, runtimeVersion] =>
    return ⟨← required? asText? jobFlag, ← required? asText? runtimeVersion⟩
  | _ => none

end RuntimeSignals

namespace ClusterDescriptor

def fieldNames : List String :=
  ["id", "name", "state", "zone", "created_at", "ended_at", "runtime"]

def toJson (d : ClusterDescriptor) : Json :=
  .record [("id", .text d.id), ("name", .text d.name), ("state", d.state.toJson),
    ("zone", .text d.zone), ("created_at", d.createdAt.toJson),
    ("ended_at", d.endedAt.elim .null Instant.toJson),
    ("runtime", d.runtime.elim .null RuntimeSignals.toJson)]

def ofJson? (value : Json) : Option ClusterDescriptor := do
  match ← fields? fieldNames value with
  | [id, name, state, zone, createdAt, endedAt, runtime] =>
    return ⟨← required? asText? id, ← defaulted? "" asText? name,
      ← required? ClusterState.ofJson? state, ← required? asText? zone,
      ← required? Instant.ofJson? createdAt,
      ← defaulted? none (asOptional? Instant.ofJson?) endedAt,
      ← defaulted? none (asOptional? RuntimeSignals.ofJson?) runtime⟩
  | _ => none

end ClusterDescriptor

namespace GroupInstances

/-- The name of the member that holds the instances. -/
def instancesField : String := "instances"

def toJson (g : GroupInstances) : Json :=
  .record (g.group.toMembers ++ [(instancesField, .array (g.instances.map Instance.toJson))])

/-- Reads a group that stands so deep inside its document, counted from one. The members that are
not known are kept while it is read, and may use the levels of nesting that are left. -/
def ofJson? (depth : Nat) : Json → Option GroupInstances
  | .object members => do
    let named ← (Json.object members).asMembers?
    let others := named.filter fun member => member.1 != instancesField
    if others.all fun member => member.2.Kept (Json.maxNesting - depth) then
      let group ← (Json.selectFields? ResourceGroup.fieldNames others).bind ResourceGroup.ofFields?
      match ← Json.selectFields? [instancesField] named with
      | [instances] => return ⟨group, ← defaulted? [] (asList? Instance.ofJson?) instances⟩
      | _ => none
    else none
  | _ => none

end GroupInstances

end ClusterBilling
