import ClusterBilling.Fault
import ClusterBilling.Text.Blank
import ClusterBilling.Text.Case

/-!
# Workloads and service plans

The notebook platform bills by the kind of work a cluster does. The kind follows from two signals:
a flag that says whether the cluster runs scheduled jobs, and the version of its runtime, which
names the features built into it. Surcharge tables give a kind by its label.
-/

namespace ClusterBilling

/-- The kinds of work that are billed apart. -/
inductive Workload
  | jobStandard
  | jobAccelerated
  | jobLight
  | interactiveStandard
  | interactiveAccelerated
deriving DecidableEq, Repr, Inhabited

namespace Workload

/-- All kinds, in the order of tables. -/
def all : List Workload :=
  [jobStandard, jobAccelerated, jobLight, interactiveStandard, interactiveAccelerated]

/-- The place of a kind in the order of tables. -/
def rank : Workload → Nat
  | jobStandard => 0
  | jobAccelerated => 1
  | jobLight => 2
  | interactiveStandard => 3
  | interactiveAccelerated => 4

theorem rank_injective {a b : Workload} (same : a.rank = b.rank) : a = b := by
  cases a <;> cases b <;> first | rfl | simp [rank] at same

/-- The name of a kind in surcharge tables. -/
def label : Workload → String
  | jobStandard => "Jobs Compute"
  | jobAccelerated => "Jobs Compute Photon"
  | jobLight => "Jobs Light Compute"
  | interactiveStandard => "All-Purpose Compute"
  | interactiveAccelerated => "All-Purpose Compute Photon"

/-- The name of a kind in records. -/
def name : Workload → String
  | jobStandard => "JobStandard"
  | jobAccelerated => "JobAccelerated"
  | jobLight => "JobLight"
  | interactiveStandard => "InteractiveStandard"
  | interactiveAccelerated => "InteractiveAccelerated"

/-- Whether the work is scheduled. -/
def isJob : Workload → Bool
  | jobStandard | jobAccelerated | jobLight => true
  | interactiveStandard | interactiveAccelerated => false

/-- **The kind of work behind two signals.** The flag must be `true` or `false`, up to case and
blanks around it; of the features in the runtime version, `photon` counts before `light`, and
`light` for scheduled work only. -/
def determine (jobFlag runtimeVersion : String) : Except Fault Workload :=
  let version := Text.lower runtimeVersion
  let accelerated := Text.contains version "photon"
  let flag := Text.lower (Text.trim jobFlag)
  if flag = "true" then
    .ok (if accelerated then jobAccelerated
      else if Text.contains version "light" then jobLight else jobStandard)
  else if flag = "false" then
    .ok (if accelerated then interactiveAccelerated else interactiveStandard)
  else .error (.unsupportedWorkload jobFlag runtimeVersion)

/-- The kind with a label, up to the case of ASCII letters and blanks around it. -/
def ofLabel (text : String) : Except Fault Workload :=
  let text := Text.trim text
  match all.find? fun w => Text.sameUpToAsciiCase w.label text with
  | some w => .ok w
  | none => .error (.unknownWorkloadLabel text)

end Workload

/-- A subscription plan, by its name without blanks around it, in lower case. -/
abbrev ServicePlan := String

namespace ServicePlan

def ofText (text : String) : ServicePlan := Text.lower (Text.trim text)

/-- The plan where none is given. -/
def standard : ServicePlan := "premium"

end ServicePlan

end ClusterBilling
