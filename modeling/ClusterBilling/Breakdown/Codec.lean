import ClusterBilling.Breakdown
import ClusterBilling.Json.Record
import ClusterBilling.Json.Writer

/-!
# Breakdowns as JSON

A breakdown is written as the object of its entries, in the order of the keys, and read back from
any object of numbers. Reading adds nothing: a breakdown written without a total has none.
-/

namespace ClusterBilling.Breakdown

def toJson (b : Breakdown Float) : Json :=
  .record (b.entries.toList.map fun entry => (entry.1, Json.float entry.2))

def ofJson? (value : Json) : Option (Breakdown Float) :=
  (Json.asMap? Json.asFloat? value).map Breakdown.mk

end ClusterBilling.Breakdown
