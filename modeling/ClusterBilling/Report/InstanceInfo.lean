import ClusterBilling.Catalog.Basic
import ClusterBilling.Decimal.Binary
import ClusterBilling.Json.Writer
import ClusterBilling.Report.Table

/-!
# Reports on a kind of machine

What the catalog knows of a kind of machine: its price, the service fee and the hardware
attributes, as a table or as a document. The table names the kind once, on top, and so leaves out
the attribute that repeats it.
-/

namespace ClusterBilling.Report

/-- What is reported on a kind of machine. -/
structure InstanceInfo where
  kind : InstanceKind
  onDemandPrice : Float
  serviceFee : Float
  attributes : Attributes

namespace InstanceInfo

/-- What a catalog knows of a kind. -/
def ofCatalog (catalog : PriceCatalog Float) (kind : InstanceKind) : InstanceInfo :=
  ⟨kind, catalog.priceOf kind, catalog.serviceFeeOf kind, catalog.specsOf kind⟩

/-- A price per hour. -/
def hourly (price : Float) : String := "$" ++ Decimal.fixed 4 price ++ "/h"

def table (info : InstanceInfo) : Table where
  titles := [.left "Attribute", .left "Value"]
  rows :=
    [[.left "instanceType", .left info.kind],
      [.left "onDemandPrice", .right (hourly info.onDemandPrice)],
      [.left "serviceFee", .right (hourly info.serviceFee)]]
      ++ ((info.attributes.toList.filter fun a => a.1 != "instanceType").map fun a =>
        [.left a.1, .left a.2])

/-- **The report for people.** -/
def text (info : InstanceInfo) : String := info.table.text

/-- **The report for programs.** -/
def toJson (info : InstanceInfo) : Json :=
  .record [("attributes", .record (info.attributes.toList.map fun a => (a.1, .text a.2))),
    ("kind", .text info.kind), ("on_demand_price", .float info.onDemandPrice),
    ("service_fee", .float info.serviceFee)]

end InstanceInfo

end ClusterBilling.Report
