import ClusterBilling.Billing.Estimate
import ClusterBilling.Breakdown.Codec
import ClusterBilling.Decimal.Binary
import ClusterBilling.Report.Colour
import ClusterBilling.Report.Table

/-!
# Reports of estimates

Estimates are reported with the sum of their breakdowns, for people or for programs. The report for
people is a table with a row for every role of every cluster and one for the totals, followed by the
compute units consumed, if there are any, and by the instances left out. The report for programs is
a document with all that is known.

The totals are those of the categories, each summed up over the roles of the sum as it lists them,
and the running total beside them.
-/

namespace ClusterBilling.Report

/-- An amount of money, in dollars and cents. -/
def money (amount : Float) : String := "$" ++ Decimal.fixed 2 amount

/-- The row of a role. -/
def roleRow (cluster role : String) (costs : Breakdown Float) : Row :=
  let compute := costs.category role .compute
  let surcharge := costs.category role .surcharge
  let storage := costs.category role .storage
  [.left cluster, .left role, .right (money compute), .right (money surcharge),
    .right (money storage), .right (money (compute + surcharge + storage))]

/-- The sum of a category over all roles. -/
def categoryTotal (totals : Breakdown Float) (category : CostCategory) : Float :=
  Amount.sum (totals.roles.map fun role => totals.category role category)

/-- The row of the totals. -/
def totalsRow (totals : Breakdown Float) : Row :=
  [.left "TOTAL", .left "", .left (money (categoryTotal totals .compute)),
    .left (money (categoryTotal totals .surcharge)),
    .left (money (categoryTotal totals .storage)), .left (money totals.total)]

/-- An empty row above the totals. -/
def blankRow : Row := List.replicate 6 (.left "")

def estimatesTable (estimates : List (ClusterEstimate Float)) (totals : Breakdown Float) :
    Table where
  titles := ["Cluster", "Group", "Compute", "Surcharge", "Storage", "Total"].map Cell.left
  rows := (estimates.flatMap fun e => e.breakdown.roles.map fun role =>
      roleRow e.cluster role e.breakdown) ++ [blankRow, totalsRow totals]

/-- The line on compute units. -/
def unitsText (estimates : List (ClusterEstimate Float)) : String :=
  let units := Amount.sum (estimates.map ClusterEstimate.surchargeUnits)
  if 0 < units then "\nCompute units consumed: " ++ Decimal.fixed 3 units ++ "\n" else ""

/-- An instance left out, and why. -/
def unbilledText (i : UnbilledInstance) : String :=
  "  " ++ i.id ++ " (" ++ i.role ++ "): " ++ i.reason ++ "\n"

/-- The lines on the instances an estimate leaves out. -/
def degradedText (colours : Bool) (e : ClusterEstimate Float) : String :=
  if e.isDegraded then
    "\n" ++ yellow colours ("Cluster " ++ e.cluster ++ ": " ++ toString e.unbilled.length
      ++ " instance(s) could not be estimated, costs are understated") ++ "\n"
      ++ String.join (e.unbilled.map unbilledText)
  else ""

/-- **The report for people.** -/
def estimatesText (colours : Bool) (estimates : List (ClusterEstimate Float))
    (totals : Breakdown Float) : String :=
  (estimatesTable estimates totals).text ++ unitsText estimates
    ++ String.join (estimates.map (degradedText colours))

def unbilledJson (i : UnbilledInstance) : Json :=
  .record [("instance_id", .text i.id), ("reason", .text i.reason), ("role", .text i.role)]

def estimateJson (e : ClusterEstimate Float) : Json :=
  .record [("cluster", .text e.cluster), ("costs", e.breakdown.toJson),
    ("degraded", .array (e.unbilled.map unbilledJson)),
    ("surcharge_units", .float e.surchargeUnits)]

/-- **The report for programs.** -/
def estimatesJson (estimates : List (ClusterEstimate Float)) (totals : Breakdown Float) : Json :=
  .record [("clusters", .array (estimates.map estimateJson)), ("totals", totals.toJson)]

end ClusterBilling.Report
