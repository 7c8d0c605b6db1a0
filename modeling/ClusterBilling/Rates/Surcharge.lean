import ClusterBilling.Arithmetic
import ClusterBilling.OrderedMap
import ClusterBilling.Workload
import ClusterBilling.Inventory.Record
import ClusterBilling.Decimal.Reader

/-!
# Surcharge tables

Two tables with tab-separated columns set the surcharge of notebook clusters: what a compute unit
costs, by kind of workload and plan, and how many units a kind of machine takes per hour. Together
they give units and cost per hour of a kind of machine, workload and plan.

**The first valid row wins.** A row with too few columns, a number that is none or is not finite,
or no rate to go with is passed over; a kind of workload that does not exist refuses the table.
-/

namespace ClusterBilling

/-- What a compute unit is priced by. -/
structure RateKey where
  workload : Workload
  plan : ServicePlan
deriving DecidableEq, Repr, Inhabited

namespace RateKey

/-- Workloads in the order of tables, then plans. -/
instance : Ord RateKey :=
  ⟨compareLex (compareOn fun k => k.workload.rank) (compareOn RateKey.plan)⟩

instance : Std.TransOrd RateKey :=
  inferInstanceAs (Std.TransCmp
    (compareLex (compareOn fun k : RateKey => k.workload.rank) (compareOn RateKey.plan)))

theorem compare_def (a b : RateKey) :
    compare a b = (compare a.workload.rank b.workload.rank).then (compare a.plan b.plan) := rfl

instance : Std.LawfulEqOrd RateKey where
  compare_self := by
    intro a
    rw [compare_def, Std.ReflOrd.compare_self, Std.ReflOrd.compare_self]
    rfl
  eq_of_compare := by
    intro a b same
    obtain ⟨byRank, byPlan⟩ := Ordering.then_eq_eq.mp ((compare_def a b).symm.trans same)
    have workload := Workload.rank_injective (Std.LawfulEqOrd.eq_of_compare byRank)
    have plan := Std.LawfulEqOrd.eq_of_compare byPlan
    cases a
    cases b
    simp_all

end RateKey

/-- Units taken per hour, and what they cost. -/
structure UnitInfo (α : Type) where
  unitsPerHour : α
  costPerHour : α

/-- The cost of a compute unit. -/
abbrev RateTable (α : Type) := OrderedMap RateKey α

/-- Units and cost per hour, by kind of machine. -/
structure SurchargeTable (α : Type) where
  entries : OrderedMap InstanceKind (OrderedMap RateKey (UnitInfo α))
  /-- Valid rows that came too late. -/
  duplicates : Nat

namespace SurchargeTable

variable {α : Type}

def empty : SurchargeTable α := ⟨.empty, 0⟩

def get? (t : SurchargeTable α) (kind : InstanceKind) (workload : Workload) (plan : ServicePlan) :
    Option (UnitInfo α) :=
  (t.entries.get? kind).bind fun byRate => byRate.get? ⟨workload, plan⟩

/-- How many kinds of machine the table knows. -/
def kinds (t : SurchargeTable α) : Nat := t.entries.size

def isEmpty (t : SurchargeTable α) : Bool := t.entries.isEmpty

end SurchargeTable

namespace Surcharge

/-- The columns of a row, trimmed; blank lines and comments have none. -/
def columns? (line : String) : Option (List String) :=
  if (Text.trimChars line.toList).isEmpty || line.toList.head? == some '#' then none
  else
    let body := Text.trimBackIf (fun c => c = '\r' || c = '\n') line.toList
    some ((body.splitOn '\t').map fun column => String.ofList (Text.trimChars column))

/-- A number of a table, if it is one and finite. -/
def number? (text : String) : Option Float :=
  match Decimal.readFloat? text with
  | some x => if x.isFinite then some x else none
  | none => none

/-- The rates with those of one row. -/
def addRateRow (rates : RateTable Float) (line : String) : Except Fault (RateTable Float) :=
  match columns? line with
  | some (label :: plan :: cost :: _) => do
    let workload ← Workload.ofLabel label
    match number? cost with
    | some cost => return rates.insertNew ⟨workload, ServicePlan.ofText plan⟩ cost
    | none => return rates
  | _ => return rates

/-- **The table of rates**: label, plan, cost per unit. -/
def parseRates (content : String) : Except Fault (RateTable Float) :=
  (Text.lines content).foldlM addRateRow .empty

/-- The table with one more valid row. -/
def addUnits (table : SurchargeTable Float) (kind : InstanceKind) (key : RateKey)
    (info : UnitInfo Float) : SurchargeTable Float :=
  let known := table.entries.getD kind .empty
  if known.contains key then { table with duplicates := table.duplicates + 1 }
  else { table with entries := table.entries.insert kind (known.insert key info) }

/-- The table with the units of one row. -/
def addUnitsRow (rates : RateTable Float) (table : SurchargeTable Float) (line : String) :
    Except Fault (SurchargeTable Float) :=
  match columns? line with
  | some (kind :: label :: plan :: units :: _) => do
    let workload ← Workload.ofLabel label
    let key : RateKey := ⟨workload, ServicePlan.ofText plan⟩
    match number? units, rates.get? key with
    | some units, some rate => return addUnits table kind key ⟨units, rate * units⟩
    | _, _ => return table
  | _ => return table

/-- **The table of units**: kind of machine, label, plan, units per hour. -/
def parseUnits (rates : RateTable Float) (content : String) :
    Except Fault (SurchargeTable Float) :=
  (Text.lines content).foldlM (addUnitsRow rates) .empty

end Surcharge

end ClusterBilling
