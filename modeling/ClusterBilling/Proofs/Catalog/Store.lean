import Mathlib
import ClusterBilling.Catalog.Store
import ClusterBilling.Proofs.Files.Resource

/-!
# What a store of catalogs answers

A store is asked for catalogs again and again, and the files change as they like in between. What
it keeps is the catalog that it gave out last (`active_after`), so every answer is known from the
answers before it and from the files at the time (`catalogFor_after`). A request for the region of
the catalog given out last gets that catalog, whatever the files are. A request for another region
gets what the files say at the time; where they make no sense the store stays as it was, and goes
on to answer for the region that it had.

That a catalog is kept says nothing of the files it came from: they may be gone or broken.
-/

namespace ClusterBilling

/-- A request for the catalog of a region, with the files as they are at the time. -/
structure CatalogRequest where
  region : Region
  files : FileTree

/-- A catalog is put together from the indexes of two price lists and the surcharge table. -/
theorem PriceCatalog.parts_of_load {files : FileTree} {resources : String} {region : Region}
    {catalog : PriceCatalog Float}
    (loaded : PriceCatalog.load files resources region = .ok catalog) :
    ∃ compute service surcharges,
      PriceIndex.load files resources .compute region = .ok compute
        ∧ PriceIndex.load files resources .service region = .ok service
        ∧ SurchargeTable.load files resources = .ok surcharges
        ∧ catalog.region = some region ∧ catalog.onDemand = compute.prices
        ∧ catalog.serviceFees = service.prices ∧ catalog.surcharges = surcharges := by
  unfold PriceCatalog.load at loaded
  obtain ⟨compute, machineTime, loaded⟩ := Except.exists_of_bind_eq_ok loaded
  obtain ⟨service, fees, loaded⟩ := Except.exists_of_bind_eq_ok loaded
  obtain ⟨surcharges, tables, loaded⟩ := Except.exists_of_bind_eq_ok loaded
  cases loaded
  exact ⟨compute, service, surcharges, machineTime, fees, tables, rfl, rfl, rfl, rfl⟩

/-- The catalog of a region is one of that region. -/
theorem PriceCatalog.region_of_load {files : FileTree} {resources : String} {region : Region}
    {catalog : PriceCatalog Float}
    (loaded : PriceCatalog.load files resources region = .ok catalog) :
    catalog.region = some region := by
  obtain ⟨_, _, _, -, -, -, region, -⟩ := parts_of_load loaded
  exact region

namespace CatalogStore

/-- The store after one more request. -/
def afterRequest (store : CatalogStore) (request : CatalogRequest) : CatalogStore :=
  (store.catalogFor request.files request.region).2

/-- The store after some requests. -/
def after (store : CatalogStore) (requests : List CatalogRequest) : CatalogStore :=
  requests.foldl afterRequest store

/-- **The answers to some requests**, in their order. -/
def answers (store : CatalogStore) :
    List CatalogRequest → List (Except Fault (PriceCatalog Float))
  | [] => []
  | request :: rest =>
    (store.catalogFor request.files request.region).1
      :: answers (store.afterRequest request) rest

/-- The catalog given out last. -/
def latest? (answers : List (Except Fault (PriceCatalog Float))) : Option (PriceCatalog Float) :=
  (answers.filterMap Except.toOption).getLast?

/-- Whether a catalog is of another region, or there is none. -/
def IsOfOther (region : Region) (catalog : Option (PriceCatalog Float)) : Prop :=
  ∀ c, catalog = some c → c.region ≠ some region

/-- **How a request is answered**: by the catalog kept, by one that is loaded, or not at all. -/
inductive Answering (store : CatalogStore) (request : CatalogRequest) :
    Except Fault (PriceCatalog Float) × CatalogStore → Prop
  | kept {catalog : PriceCatalog Float} (active : store.active = some catalog)
    (own : catalog.region = some request.region) : Answering store request (.ok catalog, store)
  | loaded {catalog : PriceCatalog Float} (other : IsOfOther request.region store.active)
    (load : PriceCatalog.load request.files store.resources request.region = .ok catalog) :
    Answering store request (.ok catalog, { store with active := some catalog })
  | failed {fault : Fault} (other : IsOfOther request.region store.active)
    (load : PriceCatalog.load request.files store.resources request.region = .error fault) :
    Answering store request (.error fault, store)

section Request

variable {store : CatalogStore} {request : CatalogRequest}

theorem kept?_eq_some_iff {region : Region} {catalog : PriceCatalog Float} :
    store.kept? region = some catalog
      ↔ store.active = some catalog ∧ catalog.region = some region := by
  simp [kept?, Option.filter_eq_some_iff]

theorem isOfOther_of_kept? {region : Region} (none : store.kept? region = none) :
    IsOfOther region store.active := by
  intro catalog active own
  rw [kept?_eq_some_iff.mpr ⟨active, own⟩] at none
  cases none

theorem answering (store : CatalogStore) (request : CatalogRequest) :
    Answering store request (store.catalogFor request.files request.region) := by
  unfold catalogFor
  split
  · next catalog known =>
    obtain ⟨active, own⟩ := kept?_eq_some_iff.mp known
    exact .kept active own
  · next unknown =>
    have other := isOfOther_of_kept? unknown
    split
    · next load => exact .loaded other load
    · next load => exact .failed other load

theorem region_of_answering {answer : Except Fault (PriceCatalog Float) × CatalogStore}
    (answering : Answering store request answer) {catalog : PriceCatalog Float}
    (given : answer.1 = .ok catalog) : catalog.region = some request.region := by
  cases answering with
  | kept _ own => cases given; exact own
  | loaded _ load => cases given; exact PriceCatalog.region_of_load load
  | failed => cases given

theorem resources_afterRequest (store : CatalogStore) (request : CatalogRequest) :
    (store.afterRequest request).resources = store.resources := by
  have answering := answering store request
  unfold afterRequest
  generalize store.catalogFor request.files request.region = answer at answering ⊢
  cases answering <;> rfl

/-- What a store keeps after a request is the catalog that was given out, if there was one. -/
theorem active_afterRequest (store : CatalogStore) (request : CatalogRequest) :
    (store.afterRequest request).active
      = (store.catalogFor request.files request.region).1.toOption.or store.active := by
  have answering := answering store request
  unfold afterRequest
  generalize store.catalogFor request.files request.region = answer at answering ⊢
  cases answering with
  | kept active => exact active
  | loaded | failed => rfl

end Request

/-! ## The course of some requests -/

section Course

variable (store : CatalogStore) (resources : String)

theorem after_append (requests more : List CatalogRequest) :
    store.after (requests ++ more) = (store.after requests).after more :=
  List.foldl_append

theorem answers_append (requests more : List CatalogRequest) :
    store.answers (requests ++ more)
      = store.answers requests ++ (store.after requests).answers more := by
  induction requests generalizing store with
  | nil => rfl
  | cons request rest ih => exact congrArg _ (ih (store.afterRequest request))

theorem answers_concat (requests : List CatalogRequest) (request : CatalogRequest) :
    store.answers (requests ++ [request]) = store.answers requests
      ++ [((store.after requests).catalogFor request.files request.region).1] :=
  store.answers_append requests [request]

theorem resources_after (requests : List CatalogRequest) :
    (store.after requests).resources = store.resources := by
  induction requests generalizing store with
  | nil => rfl
  | cons request rest ih =>
    exact (ih (store.afterRequest request)).trans (resources_afterRequest store request)

theorem latest?_concat (answers : List (Except Fault (PriceCatalog Float)))
    (answer : Except Fault (PriceCatalog Float)) :
    latest? (answers ++ [answer]) = answer.toOption.or (latest? answers) := by
  cases answer <;> simp [latest?, Except.toOption]

/-- **A store keeps the catalog that it gave out last.** -/
theorem active_after (requests : List CatalogRequest) :
    ((start resources).after requests).active = latest? ((start resources).answers requests) := by
  induction requests using List.reverseRecOn with
  | nil => rfl
  | append_singleton requests request ih =>
    rw [answers_concat, latest?_concat, ← ih, after_append]
    exact active_afterRequest _ request

/-- **Whether a catalog is the one loaded last** in the course of some requests: one of them loaded
it, for a region that the catalog given out before was not of, and no other was given out since. -/
def LoadedLast (requests : List CatalogRequest) (catalog : PriceCatalog Float) : Prop :=
  ∃ earlier loading later, requests = earlier ++ loading :: later
    ∧ IsOfOther loading.region (latest? ((start resources).answers earlier))
    ∧ PriceCatalog.load loading.files resources loading.region = .ok catalog
    ∧ ∀ given, .ok given ∈ ((start resources).after (earlier ++ [loading])).answers later →
      given = catalog

variable {resources} {requests : List CatalogRequest} {catalog : PriceCatalog Float}

/-- A request that gives out no other catalog leaves it the one loaded last. -/
theorem LoadedLast.concat (last : LoadedLast resources requests catalog) {request : CatalogRequest}
    (same : ∀ given, (((start resources).after requests).catalogFor request.files
      request.region).1 = .ok given → given = catalog) :
    LoadedLast resources (requests ++ [request]) catalog := by
  obtain ⟨earlier, loading, later, rfl, other, load, all⟩ := last
  refine ⟨earlier, loading, later ++ [request], by simp, other, load, fun given mem => ?_⟩
  rw [answers_concat, ← after_append, List.append_assoc, List.singleton_append] at mem
  rcases List.mem_append.mp mem with mem | mem
  · exact all given mem
  · exact same given (List.mem_singleton.mp mem).symm

/-- **The catalog given out last is the one loaded last.** -/
theorem loadedLast_of_latest? (last : latest? ((start resources).answers requests) = some catalog) :
    LoadedLast resources requests catalog := by
  induction requests using List.reverseRecOn with
  | nil => cases last
  | append_singleton requests request ih =>
    have active := active_after resources requests
    have own := resources_after (start resources) requests
    have answered := answering ((start resources).after requests) request
    rw [answers_concat, latest?_concat, ← active] at last
    -- Either the request loaded the catalog, or it was the one loaded last before.
    generalize served : ((start resources).after requests).catalogFor request.files request.region
      = answer at answered last
    cases answered with
    | kept known =>
      cases last
      exact (ih (active ▸ known)).concat fun given same => by rw [served] at same; cases same; rfl
    | failed other load =>
      exact (ih (active ▸ last)).concat fun given same => by rw [served] at same; cases same
    | loaded other load =>
      cases last
      rw [own] at load
      exact ⟨requests, request, [], rfl, active ▸ other, load,
        fun given mem => absurd mem List.not_mem_nil⟩

/-- **What a store answers** to a request behind any others, the files being any at every request.
A catalog given out is of the region asked for. The catalog given out last is the one loaded last;
if it is of this region it is given out again, and the files do not matter. Otherwise the answer is
what the files say now. A request that fails leaves the store as it was, so that the catalog given
out last still answers for its region. -/
theorem catalogFor_after (resources : String) (before : List CatalogRequest)
    (request : CatalogRequest) :
    let store := (start resources).after before
    let last := latest? ((start resources).answers before)
    let served := store.catalogFor request.files request.region
    (∀ catalog, served.1 = .ok catalog → catalog.region = some request.region)
      ∧ (∀ catalog, last = some catalog → LoadedLast resources before catalog)
      ∧ (∀ catalog, last = some catalog → catalog.region = some request.region →
        ∀ files, store.catalogFor files request.region = (.ok catalog, store))
      ∧ (IsOfOther request.region last →
        served.1 = PriceCatalog.load request.files resources request.region)
      ∧ ∀ fault, served.1 = .error fault → served.2 = store
        ∧ ∀ catalog region, last = some catalog → catalog.region = some region →
          ∀ files, (served.2.catalogFor files region).1 = .ok catalog := by
  intro store last served
  have active : store.active = last := active_after resources before
  have own : store.resources = resources := resources_after (start resources) before
  have answered : Answering store request served := answering store request
  have keeps (catalog : PriceCatalog Float) (region : Region) (known : last = some catalog)
      (same : catalog.region = some region) (files : FileTree) :
      store.catalogFor files region = (.ok catalog, store) := by
    unfold catalogFor
    rw [kept?_eq_some_iff.mpr ⟨active.trans known, same⟩]
  refine ⟨fun catalog given => region_of_answering answered given,
    fun catalog known => loadedLast_of_latest? known,
    fun catalog known same => keeps catalog _ known same, fun other => ?_, fun fault failed => ?_⟩
  · rw [← active] at other
    rw [← own]
    generalize served = served at answered ⊢
    cases answered with
    | kept known same => exact absurd same (other _ known)
    | loaded _ load | failed _ load => exact load.symm
  · have stays : served.2 = store := by
      generalize served = served at answered failed ⊢
      cases answered with
      | kept | loaded => cases failed
      | failed => rfl
    refine ⟨stays, fun catalog region known same files => ?_⟩
    rw [stays, keeps catalog region known same files]

end Course

end CatalogStore

end ClusterBilling
