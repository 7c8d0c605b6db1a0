import ClusterBilling.Time.Instant

/-!
# Inventory records

What is known of clusters: their state and life span, the groups of like machines they consist of,
and the instances of a group with their own life spans. Names of clusters, groups, kinds, zones
and regions are opaque texts, compared as they are.
-/

namespace ClusterBilling

/-- The name of a kind of machine, the key of every price. -/
abbrev InstanceKind := String

abbrev ClusterId := String

abbrev GroupId := String

/-- The place within a region for which spot prices are quoted. -/
abbrev Zone := String

/-- The area for which price lists are published. -/
abbrev Region := String

/-- How machine time is priced. -/
inductive PricingMode
  /-- At a fixed price per hour. -/
  | onDemand
  /-- At the spot prices of the time. -/
  | spot
deriving DecidableEq, Repr, Inhabited

namespace PricingMode

def all : List PricingMode := [onDemand, spot]

def name : PricingMode → String
  | onDemand => "ON_DEMAND"
  | spot => "SPOT"

end PricingMode

/-- Where a cluster stands in its life. -/
inductive ClusterState
  | starting
  | bootstrapping
  | running
  | waiting
  | terminating
  | terminated
  | terminatedWithErrors
deriving DecidableEq, Repr, Inhabited

namespace ClusterState

def all : List ClusterState :=
  [starting, bootstrapping, running, waiting, terminating, terminated, terminatedWithErrors]

def name : ClusterState → String
  | starting => "STARTING"
  | bootstrapping => "BOOTSTRAPPING"
  | running => "RUNNING"
  | waiting => "WAITING"
  | terminating => "TERMINATING"
  | terminated => "TERMINATED"
  | terminatedWithErrors => "TERMINATED_WITH_ERRORS"

/-- Whether the cluster is gone, so that it costs nothing more. -/
def isTerminal : ClusterState → Bool
  | terminated | terminatedWithErrors => true
  | _ => false

end ClusterState

/-- The platform that runs a cluster and sets the surcharge. -/
inductive Platform
  /-- Managed clusters with a fee per instance hour. -/
  | emr
  /-- Notebook clusters with a surcharge by compute units. -/
  | databricks
deriving DecidableEq, Repr, Inhabited

namespace Platform

def all : List Platform := [emr, databricks]

def name : Platform → String
  | emr => "emr"
  | databricks => "databricks"

end Platform

/-- How the parts of a cluster are listed. -/
inductive Listing
  /-- As groups of one kind of machine. -/
  | groups
  /-- As fleets of interchangeable kinds. -/
  | fleets
deriving DecidableEq, Repr, Inhabited

namespace Listing

def name : Listing → String
  | groups => "instance-groups"
  | fleets => "instance-fleets"

end Listing

/-- A storage volume. -/
structure Volume where
  volumeType : String
  sizeGib : Nat
deriving DecidableEq, Repr, Inhabited

/-- A group, or fleet, of machines with one role in a cluster. -/
structure ResourceGroup where
  id : GroupId
  /-- The role under which the cost is booked. -/
  role : String
  instanceKind : InstanceKind
  /-- Volumes attached to every instance of the group. -/
  volumes : List Volume
deriving DecidableEq, Repr, Inhabited

/-- A machine and its life span. -/
structure Instance where
  id : String
  kind : InstanceKind
  pricingMode : PricingMode
  createdAt : Instant
  /-- Absent while the machine runs. -/
  terminatedAt : Option Instant
  volumes : List Volume
deriving DecidableEq

namespace Instance

/-- The end of the life span, `now` for a machine that runs. -/
def endOr (i : Instance) (now : Instant) : Instant := i.terminatedAt.getD now

def isRunning (i : Instance) : Bool := i.terminatedAt.isNone

end Instance

/-- The signals from which the kind of workload follows. -/
structure RuntimeSignals where
  jobFlag : String
  runtimeVersion : String
deriving DecidableEq, Repr, Inhabited

/-- What an inventory says of a cluster as a whole. -/
structure ClusterDescriptor where
  id : ClusterId
  name : String
  state : ClusterState
  /-- The zone in which the cluster's machines run. -/
  zone : Zone
  createdAt : Instant
  endedAt : Option Instant
  runtime : Option RuntimeSignals
deriving DecidableEq

namespace ClusterDescriptor

def isTerminal (d : ClusterDescriptor) : Bool := d.state.isTerminal

/-- How long the cluster has run, in nanoseconds, until `now` if it has not ended. -/
def runtimeNanos (d : ClusterDescriptor) (now : Instant) : Int :=
  (d.endedAt.getD now).nanosSince d.createdAt

end ClusterDescriptor

/-- A group with its instances. -/
structure GroupInstances where
  group : ResourceGroup
  instances : List Instance
deriving DecidableEq

end ClusterBilling
