import ClusterBilling.Catalog.Files

/-!
# The store of catalogs

Work is done in one region at a time, so the store keeps one catalog, that of the region asked for
last. Asking for the same region again answers the catalog kept, whatever became of the files
since; asking for another loads it anew. A load that fails leaves the store as it was.
-/

namespace ClusterBilling

/-- Where catalogs are loaded from, and the one loaded last. -/
structure CatalogStore where
  resources : String
  active : Option (PriceCatalog Float)

namespace CatalogStore

def start (resources : String) : CatalogStore := ⟨resources, none⟩

/-- The catalog kept, if it is of this region. -/
def kept? (store : CatalogStore) (region : Region) : Option (PriceCatalog Float) :=
  store.active.filter fun catalog => catalog.region == some region

/-- **The catalog of a region**, kept or loaded. -/
def catalogFor (store : CatalogStore) (files : FileTree) (region : Region) :
    Except Fault (PriceCatalog Float) × CatalogStore :=
  match store.kept? region with
  | some catalog => (.ok catalog, store)
  | none =>
    match PriceCatalog.load files store.resources region with
    | .ok catalog => (.ok catalog, { store with active := some catalog })
    | .error fault => (.error fault, store)

end CatalogStore

end ClusterBilling
