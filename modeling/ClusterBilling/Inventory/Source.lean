import ClusterBilling.Asked
import ClusterBilling.Inventory.Record

/-!
# Inventories

An inventory describes clusters, lists their groups or fleets and the instances of each. It is a
step of an outer state, so that its answers may change from call to call and fail at any of them.
-/

namespace ClusterBilling

/-- A call of an inventory. -/
inductive InventoryCall
  | describe (cluster : ClusterId)
  | groups (cluster : ClusterId)
  | fleets (cluster : ClusterId)
  | instances (cluster : ClusterId) (group : GroupId) (listing : Listing)
deriving DecidableEq, Repr

/-- An inventory over an outer state. -/
structure Inventory (ι : Type) where
  describe : ClusterId → Asked ι ClusterDescriptor
  groups : ClusterId → Asked ι (List ResourceGroup)
  fleets : ClusterId → Asked ι (List ResourceGroup)
  instances : ClusterId → GroupId → Listing → Asked ι (List Instance)

namespace Inventory

variable {ι : Type}

/-- The groups or the fleets of a cluster. -/
def list (inventory : Inventory ι) : Listing → ClusterId → Asked ι (List ResourceGroup)
  | .groups => inventory.groups
  | .fleets => inventory.fleets

/-- A call that is first noted in the state and then made. -/
def noteCall {β : Type} (call : InventoryCall) (ask : Asked ι β) :
    Asked (ι × List InventoryCall) β := fun s =>
  let (answer, inner) := ask s.1
  (answer, inner, s.2 ++ [call])

/-- An inventory that also notes every call in the state, the latest one last. -/
def noted (inventory : Inventory ι) : Inventory (ι × List InventoryCall) where
  describe cluster := noteCall (.describe cluster) (inventory.describe cluster)
  groups cluster := noteCall (.groups cluster) (inventory.groups cluster)
  fleets cluster := noteCall (.fleets cluster) (inventory.fleets cluster)
  instances cluster group listing :=
    noteCall (.instances cluster group listing) (inventory.instances cluster group listing)

/-- A call that fails where a fault is set for it. -/
def failCall {β : Type} (fault? : ι → InventoryCall → Option Fault) (call : InventoryCall)
    (ask : Asked ι β) : Asked ι β := fun s =>
  match fault? s call with
  | some fault => (.error fault, s)
  | none => ask s

/-- An inventory some of whose calls fail, as the state says. -/
def failing (fault? : ι → InventoryCall → Option Fault) (inventory : Inventory ι) :
    Inventory ι where
  describe cluster := failCall fault? (.describe cluster) (inventory.describe cluster)
  groups cluster := failCall fault? (.groups cluster) (inventory.groups cluster)
  fleets cluster := failCall fault? (.fleets cluster) (inventory.fleets cluster)
  instances cluster group listing :=
    failCall fault? (.instances cluster group listing) (inventory.instances cluster group listing)

end Inventory

end ClusterBilling
