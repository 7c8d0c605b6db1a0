import ClusterBilling.Catalog.Basic
import ClusterBilling.Json.Reader
import ClusterBilling.Files.Resource

/-!
# The files behind a catalog

The prices of a region lie in four files under one directory: a list of machine time and a list of
service fees for each region, and two tables of compute units for all of them. Each may be plain or
compressed.

**A file that is missing leaves its part of the catalog empty; a file that makes no sense refuses
the whole.** The tables count as missing unless both are there. Of several faults the first wins,
in the order machine time, service fees, rates, units.
-/

namespace ClusterBilling

/-- The plain file of a price list. -/
def OfferKind.path (kind : OfferKind) (resources : String) (region : Region) : String :=
  Path.join (Path.join resources kind.directory) (region ++ ".json")

namespace PriceIndex

/-- The index of a price list, from its file. -/
def load (files : FileTree) (resources : String) (kind : OfferKind) (region : Region) :
    Except Fault PriceIndex := do
  let path := kind.path resources region
  match ← readResource files path with
  | none => return .empty
  | some text =>
    match (Json.parse? text).bind OfferDocument.ofJson? with
    | some document => return .ofDocument kind document
    | none => throw (.parse path "not a price list")

end PriceIndex

namespace SurchargeTable

/-- The directory of the two tables. -/
def directory (resources : String) : String := Path.join resources "units"

/-- The surcharge table, from its files. -/
def load (files : FileTree) (resources : String) : Except Fault (SurchargeTable Float) := do
  let rates ← readResource files (Path.join (directory resources) "rates.tsv")
  let units ← readResource files (Path.join (directory resources) "units.tsv")
  match rates, units with
  | some rates, some units => Surcharge.parseUnits (← Surcharge.parseRates rates) units
  | _, _ => return .empty

end SurchargeTable

namespace PriceCatalog

/-- **The catalog of a region**, from the files under `resources`. -/
def load (files : FileTree) (resources : String) (region : Region) :
    Except Fault (PriceCatalog Float) := do
  let compute ← PriceIndex.load files resources .compute region
  let service ← PriceIndex.load files resources .service region
  let surcharges ← SurchargeTable.load files resources
  let counts := compute.counts.add service.counts
  return {
    region := some region
    onDemand := compute.prices
    serviceFees := service.prices
    specs := compute.specs
    surcharges := surcharges
    counts := { counts with duplicates := counts.duplicates + surcharges.duplicates } }

end PriceCatalog

end ClusterBilling
