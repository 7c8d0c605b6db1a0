import ClusterBilling.Inventory.Codec
import ClusterBilling.Spot.Recording

/-!
# Recorded spot prices as JSON

The form in which recordings of spot prices are read.
-/

namespace ClusterBilling

namespace Observation

def ofJson? (value : Json) : Option (Observation Float) := do
  match ← Json.fields? ["timestamp", "price"] value with
  | [time, price] =>
    return ⟨← Json.required? Instant.ofJson? time, ← Json.required? Json.asFloat? price⟩
  | _ => none

end Observation

namespace RecordedSeries

def ofJson? (value : Json) : Option (RecordedSeries Float) := do
  match ← Json.fields? ["instance_kind", "zone", "observations"] value with
  | [kind, zone, observations] =>
    return ⟨← Json.required? Json.asText? kind, ← Json.required? Json.asText? zone,
      ← Json.required? (Json.asList? Observation.ofJson?) observations⟩
  | _ => none

end RecordedSeries

namespace SpotRecording

/-- Sizes of pages are below this bound. -/
def pageSizeBound : Nat := 18446744073709551616

def ofJson? (value : Json) : Option (SpotRecording Float) := do
  match ← Json.fields? ["page_size", "series"] value with
  | [pageSize, series] =>
    ofSeries? (← Json.defaulted? standardPageSize (Json.asNat? pageSizeBound) pageSize)
      (← Json.defaulted? [] (Json.asList? RecordedSeries.ofJson?) series)
  | _ => none

end SpotRecording

end ClusterBilling
