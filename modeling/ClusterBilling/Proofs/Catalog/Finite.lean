import ClusterBilling.Proofs.Billing.Conservation
import ClusterBilling.Proofs.Catalog.Store
import ClusterBilling.Proofs.Decimal.Reading
import ClusterBilling.Proofs.PriceList.Indexing
import ClusterBilling.Proofs.Rates.Tables

/-!
# Prices that are not finite

The tables of compute units take finite numbers only. A price list takes every number: what a
machine costs is read from the dollar amount of its first offer (`OfferDocument.QuotesFirst`), and
where that is a word for infinity or not-a-number, or a decimal too large, **the price in the
catalog is not finite** (`PriceCatalog.isFinite_of_load`). Nothing takes such a price back: whatever
it is multiplied by and added to stays infinite or no number, so that the total of every estimate
that charges it does as well.
-/

namespace ClusterBilling

namespace OfferDocument

/-- The dollar amount that a product is sold at, as it is written: that of the one dimension of its
one term. -/
def Quotes (terms : Option Json) (amount : String) : Prop :=
  ∃ value known term dimensions dimension prices,
    terms = some value ∧ Json.asMap? term? value = some known ∧
      known.toList = [(term, dimensions)] ∧ dimensions.toList = [(dimension, prices)] ∧
        prices.get? "USD" = some amount

theorem soldAt_iff {terms : Option Json} {price : Float} :
    SoldAt terms price ↔
      ∃ amount, Quotes terms amount ∧ Decimal.readFloat? amount = some price := by
  constructor
  · rintro ⟨value, known, term, dimensions, dimension, prices, amount, there, readable, oneTerm,
      oneDimension, inDollars, number⟩
    exact ⟨amount, ⟨value, known, term, dimensions, dimension, prices, there, readable, oneTerm,
      oneDimension, inDollars⟩, number⟩
  · rintro ⟨amount, ⟨value, known, term, dimensions, dimension, prices, there, readable, oneTerm,
      oneDimension, inDollars⟩, number⟩
    exact ⟨value, known, term, dimensions, dimension, prices, amount, there, readable, oneTerm,
      oneDimension, inDollars, number⟩

/-- A product is sold at one amount. -/
theorem Quotes.unique {terms : Option Json} {amount other : String} (quotes : Quotes terms amount)
    (also : Quotes terms other) : amount = other := by
  obtain ⟨value, known, term, dimensions, dimension, prices, rfl, readable, oneTerm, oneDimension,
    inDollars⟩ := quotes
  obtain ⟨value', known', term', dimensions', dimension', prices', there, readable', oneTerm',
    oneDimension', inDollars'⟩ := also
  obtain rfl := Option.some.inj there
  obtain rfl := Option.some.inj (readable.symm.trans readable')
  obtain ⟨-, rfl⟩ := Prod.mk.inj (List.cons.inj (oneTerm.symm.trans oneTerm')).1
  obtain ⟨-, rfl⟩ := Prod.mk.inj (List.cons.inj (oneDimension.symm.trans oneDimension')).1
  exact Option.some.inj (inDollars.symm.trans inDollars')

/-- The dollar amount that sets the price of a kind of machine: that of the product with the least
stock number that offers it. -/
def QuotesFirst (document : OfferDocument) (kind : OfferKind) (machine : InstanceKind)
    (amount : String) : Prop :=
  ∃ sku offer, document.OffersFirst kind sku offer ∧ offer.machine = machine ∧
    Quotes (document.onDemandTerms.get? sku) amount

/-- Whether the amount that sets the price of a kind of machine, if there is one, writes a decimal
below the limit of overflow. -/
def QuotesFinite (document : OfferDocument) (kind : OfferKind) (machine : InstanceKind) : Prop :=
  ∀ amount, document.QuotesFirst kind machine amount → Decimal.WritesFinite amount

/-- **The price list that the files hold**: the one that can be read, or none where there is no
file. -/
inductive HeldIn (files : FileTree) (resources : String) (kind : OfferKind) (region : Region) :
    OfferDocument → Prop
  | missing (nothing : readResource files (kind.path resources region) = .ok none) :
      HeldIn files resources kind region ⟨.empty, .empty⟩
  | read {text : String} {document : OfferDocument}
      (held : readResource files (kind.path resources region) = .ok (some text))
      (parsed : (Json.parse? text).bind OfferDocument.ofJson? = some document) :
      HeldIn files resources kind region document

end OfferDocument

namespace PriceIndex

variable {files : FileTree} {resources : String} {kind : OfferKind} {region : Region}
  {document : OfferDocument} {machine : InstanceKind}

theorem heldIn_of_load {index : PriceIndex}
    (loaded : load files resources kind region = .ok index) :
    ∃ document, OfferDocument.HeldIn files resources kind region document
      ∧ index = ofDocument kind document := by
  unfold load at loaded
  obtain ⟨found, held, loaded⟩ := Except.exists_of_bind_eq_ok loaded
  cases found with
  | none =>
    cases loaded
    exact ⟨_, .missing held, rfl⟩
  | some text =>
    dsimp only at loaded
    split at loaded
    · next document parsed =>
      cases loaded
      exact ⟨document, .read held parsed, rfl⟩
    · cases loaded

/-- The price is what the amount reads as. -/
theorem get?_of_quotesFirst {amount : String} (quoted : document.QuotesFirst kind machine amount) :
    ∃ price, (ofDocument kind document).prices.get? machine = some price
      ∧ Decimal.readFloat? amount = some price := by
  obtain ⟨sku, offer, first, same, quotes⟩ := quoted
  obtain ⟨amount', quotes', number⟩ := OfferDocument.soldAt_iff.mp first.offers.soldAt
  obtain rfl := quotes.unique quotes'
  refine ⟨offer.price, ?_, number⟩
  rw [(describes_ofDocument kind document).prices, map_firstOffer_eq_some_iff]
  exact ⟨sku, offer, first, same, rfl⟩

theorem exists_quotesFirst {price : Float}
    (known : (ofDocument kind document).prices.get? machine = some price) :
    ∃ amount, document.QuotesFirst kind machine amount := by
  rw [(describes_ofDocument kind document).prices, map_firstOffer_eq_some_iff] at known
  obtain ⟨sku, offer, first, same, -⟩ := known
  obtain ⟨amount, quotes, -⟩ := OfferDocument.soldAt_iff.mp first.offers.soldAt
  exact ⟨amount, sku, offer, first, same, quotes⟩

/-- **A price is finite exactly if its amount writes a decimal below the limit.** -/
theorem isFinite_price_iff :
    ((ofDocument kind document).prices.getD machine Amount.zero).isFinite = true
      ↔ document.QuotesFinite kind machine := by
  rw [OrderedMap.getD]
  constructor
  · intro finite amount quoted
    obtain ⟨price, known, number⟩ := get?_of_quotesFirst quoted
    rw [known, Option.getD_some] at finite
    exact (Decimal.isFinite_readFloat? number).mp finite
  · intro finite
    cases found : (ofDocument kind document).prices.get? machine with
    | none => rfl
    | some price =>
      obtain ⟨amount, quoted⟩ := exists_quotesFirst found
      obtain ⟨price', known, number⟩ := get?_of_quotesFirst quoted
      obtain rfl := Option.some.inj (found.symm.trans known)
      exact (Decimal.isFinite_readFloat? number).mpr (finite amount quoted)

end PriceIndex

/-- The tables of compute units hold finite numbers of units. -/
theorem SurchargeTable.isFinite_units_of_load {files : FileTree} {resources : String}
    {table : SurchargeTable Float} (loaded : load files resources = .ok table)
    {machine : InstanceKind} {workload : Workload} {plan : ServicePlan} {info : UnitInfo Float}
    (known : table.get? machine workload plan = some info) :
    info.unitsPerHour.isFinite = true := by
  unfold load at loaded
  obtain ⟨rates, -, loaded⟩ := Except.exists_of_bind_eq_ok loaded
  obtain ⟨units, -, loaded⟩ := Except.exists_of_bind_eq_ok loaded
  split at loaded
  · next ratesText unitsText =>
    obtain ⟨rates, parsedRates, parsedUnits⟩ := Except.exists_of_bind_eq_ok loaded
    have entry : table.get? machine (RateKey.mk workload plan).workload
        (RateKey.mk workload plan).plan = some ⟨info.unitsPerHour, info.costPerHour⟩ := known
    obtain ⟨⟨_, _, _, _, ⟨⟨_, _, _, _, _, gives⟩, _⟩, _⟩, -⟩ :=
      (Surcharge.get?_parseUnits parsedRates parsedUnits).mp entry
    exact gives.finite
  · cases loaded
    cases known

/-! ## Totals -/

theorem Amount.isFinite_of_running {amounts : List Float}
    (finite : (Amount.running amounts).isFinite = true) : ∀ x ∈ amounts, x.isFinite = true := by
  suffices goesOn : ∀ (amounts : List Float) (before : Float),
      (amounts.foldl (· + ·) before).isFinite = true →
        before.isFinite = true ∧ ∀ x ∈ amounts, x.isFinite = true from (goesOn _ _ finite).2
  intro amounts
  induction amounts with
  | nil => exact fun before finite => ⟨finite, fun x mem => by cases mem⟩
  | cons amount rest ih =>
    intro before finite
    obtain ⟨first, others⟩ := ih (before + amount) finite
    obtain ⟨before, here⟩ := Binary.isFinite_of_add first
    refine ⟨before, fun x mem => ?_⟩
    rcases List.mem_cons.mp mem with rfl | mem
    · exact here
    · exact others x mem

namespace Biller

variable {σ : Type} (b : Biller σ Float) (terms : BillingTerms)

/-- What an instance costs at list price comes into the total. -/
theorem isFinite_cost_of_total {cluster : ClusterId} {groups : List GroupInstances} {steps : Nat}
    {book : PriceBook σ Float}
    (finite : (b.groupsEstimate terms cluster groups steps book).estimate.breakdown.total.isFinite
      = true)
    {g : GroupInstances} (listed : g ∈ groups) {i : Instance} (mem : i ∈ g.instances)
    {cost : InstanceCost Float}
    (known : b.opening terms g.group.volumes i = .priced (.ok cost)) :
    cost.compute.isFinite = true ∧ cost.surcharge.isFinite = true := by
  rw [(b.accounts_groupsEstimate terms cluster groups steps book).total] at finite
  have charged : (g.group.role, g.group.volumes, i) ∈
      (b.charges terms groups steps book).map fun c => (c.role, c.volumes, c.item) := by
    rw [items_charges]
    exact List.mem_flatMap.mpr ⟨g, listed, List.mem_map_of_mem mem⟩
  obtain ⟨c, there, same⟩ := List.mem_map.mp charged
  obtain ⟨-, volumes, item⟩ : c.role = g.group.role ∧ c.volumes = g.group.volumes ∧ c.item = i := by
    simpa using same
  rw [← volumes, ← item] at known
  have outcome : c.outcome = .ok cost := outcome_of_charges there known
  have counted : cost ∈ Charge.costs (b.charges terms groups steps book) :=
    List.mem_filterMap.mpr ⟨c, there, by rw [Charge.cost?, outcome]; rfl⟩
  have all := Amount.isFinite_of_running finite
  exact ⟨all _ (List.mem_flatMap.mpr ⟨cost, counted, by simp⟩),
    all _ (List.mem_flatMap.mpr ⟨cost, counted, by simp⟩)⟩

/-- **A total is finite only if the list prices in it are.** -/
theorem isFinite_prices_of_total {cluster : ClusterId} {groups : List GroupInstances} {steps : Nat}
    {book : PriceBook σ Float}
    (finite : (b.groupsEstimate terms cluster groups steps book).estimate.breakdown.total.isFinite
      = true)
    {g : GroupInstances} (listed : g ∈ groups) {i : Instance} (mem : i ∈ g.instances)
    (atListPrice : i.pricingMode = .onDemand) {start stop : Instant}
    (billed : i.billed terms = .ok (some (start, stop))) :
    (b.catalog.priceOf i.kind).isFinite = true
      ∧ (terms.surcharge = .serviceFee → (b.catalog.serviceFeeOf i.kind).isFinite = true) := by
  have known : b.opening terms g.group.volumes i
      = .priced (.ok (b.withExtras terms g.group.volumes i start stop
        (b.catalog.priceOf i.kind * hoursBetween start stop))) := by
    simp only [opening, billed, atListPrice]
  obtain ⟨compute, surcharge⟩ := b.isFinite_cost_of_total terms finite listed mem known
  refine ⟨(Binary.isFinite_of_mul compute).1, fun byFee => ?_⟩
  rw [withExtras, byFee] at surcharge
  exact (Binary.isFinite_of_mul surcharge).1

end Biller

/-- **Which prices of a catalog are finite.** A price is read from the dollar amount of the first
offer in the price list, and is finite exactly if that writes a decimal below the limit of overflow;
so is a service fee, while the tables of compute units hold finite numbers only. An estimate that
charges a kind of machine at list price has no finite total otherwise. -/
theorem PriceCatalog.isFinite_of_load {files : FileTree} {resources : String} {region : Region}
    {catalog : PriceCatalog Float}
    (loaded : PriceCatalog.load files resources region = .ok catalog) :
    ∃ lists : OfferKind → OfferDocument,
      (∀ kind, OfferDocument.HeldIn files resources kind region (lists kind))
        ∧ (∀ machine,
          ((catalog.priceOf machine).isFinite = true
              ↔ (lists .compute).QuotesFinite .compute machine)
            ∧ ((catalog.serviceFeeOf machine).isFinite = true
              ↔ (lists .service).QuotesFinite .service machine)
            ∧ ∀ workload plan,
              (catalog.unitsOf machine workload plan).unitsPerHour.isFinite = true)
        ∧ ∀ (σ : Type) (spot : SpotSource σ Float) (retry : RetryPolicy) (terms : BillingTerms)
            (cluster : ClusterId) (groups : List GroupInstances) (steps : Nat)
            (book : PriceBook σ Float),
          (Biller.groupsEstimate ⟨catalog, spot, retry⟩ terms cluster groups steps
            book).estimate.breakdown.total.isFinite = true →
          ∀ g ∈ groups, ∀ i ∈ g.instances, i.pricingMode = .onDemand →
            ∀ start stop, i.billed terms = .ok (some (start, stop)) →
              (lists .compute).QuotesFinite .compute i.kind
                ∧ (terms.surcharge = .serviceFee →
                  (lists .service).QuotesFinite .service i.kind) := by
  obtain ⟨computeIndex, serviceIndex, surcharges, machineTime, fees, tables, -, prices, feesOf,
    units⟩ := parts_of_load loaded
  obtain ⟨compute, computeHeld, rfl⟩ := PriceIndex.heldIn_of_load machineTime
  obtain ⟨service, serviceHeld, rfl⟩ := PriceIndex.heldIn_of_load fees
  have price (machine : InstanceKind) : (catalog.priceOf machine).isFinite = true
      ↔ compute.QuotesFinite .compute machine := by
    rw [priceOf, prices]
    exact PriceIndex.isFinite_price_iff
  have fee (machine : InstanceKind) : (catalog.serviceFeeOf machine).isFinite = true
      ↔ service.QuotesFinite .service machine := by
    rw [serviceFeeOf, feesOf]
    exact PriceIndex.isFinite_price_iff
  refine ⟨fun kind => if kind = .compute then compute else service, fun kind => ?_,
    fun machine => ⟨price machine, fee machine, fun workload plan => ?_⟩, ?_⟩
  · cases kind with
    | compute => exact computeHeld
    | service => exact serviceHeld
  · rw [unitsOf, units]
    cases known : surcharges.get? machine workload plan with
    | none => rfl
    | some info => exact SurchargeTable.isFinite_units_of_load tables known
  · intro σ spot retry terms cluster groups steps book finite g listed i mem atListPrice start stop
      billed
    obtain ⟨priced, charged⟩ := Biller.isFinite_prices_of_total ⟨catalog, spot, retry⟩ terms finite
      listed mem atListPrice billed
    exact ⟨(price i.kind).mp priced, fun byFee => (fee i.kind).mp (charged byFee)⟩

namespace PriceCatalog

section Sample

/-- A tree with one price list in it, of machine time. -/
def offering (text : String) : FileTree :=
  ⟨.ofList [("compute", .directory), ("compute/us-east-1.json", .file (encodeText text))], []⟩

theorem get?_offering (text key : String) :
    (offering text).nodes.get? key
      = if key = "compute/us-east-1.json" then some (.file (encodeText text))
        else if key = "compute" then some .directory else none := by
  simp only [offering, OrderedMap.ofList, OrderedMap.overlay, List.foldl_cons, List.foldl_nil,
    OrderedMap.get?_insert, OrderedMap.get?_empty]

/-- A relative path of two plain names. -/
def IsPair (path directory name : String) : Prop :=
  Path.components path = [directory, name] ∧ Path.isAbsolute path = false
    ∧ FileTree.enter [] directory = [directory]
    ∧ FileTree.enter [directory] name = [directory, name]

instance (path directory name : String) : Decidable (IsPair path directory name) :=
  inferInstanceAs (Decidable (_ ∧ _))

theorem node?_offering (text : String) {path directory name : String}
    (pair : IsPair path directory name) :
    (offering text).node? path
      = if directory = "compute"
        then (offering text).nodes.get? (FileTree.placeKey [directory, name]) else none := by
  have key : FileTree.placeKey [directory] = directory := String.intercalate_singleton
  have home : (offering text).workingDirectory = [] := rfl
  have place : (offering text).place? path
      = if directory = "compute" then some [directory, name] else none := by
    obtain ⟨parts, relative, inside, further⟩ := pair
    rw [FileTree.place?, FileTree.origin, relative, parts, home]
    simp only [Bool.false_eq_true, if_false, FileTree.follow, inside, further,
      FileTree.nodeAt?, List.isEmpty_nil, if_true, List.isEmpty_cons, key, get?_offering]
    by_cases list : directory = "compute/us-east-1.json"
    · simp [list]
    · by_cases known : directory = "compute" <;> simp [list, known]
  rw [FileTree.node?, place]
  split
  · rfl
  · rfl

/-- The list is all that is there. -/
theorem load_offering {letters : List Char} {index : PriceIndex}
    (meant : (((Json.tokens letters).bind (Json.assemble .value [])).bind
      OfferDocument.ofJson?).map (PriceIndex.ofDocument .compute) = some index) :
    PriceCatalog.load (offering (.ofList letters)) "" "us-east-1"
      = .ok ⟨some "us-east-1", index.prices, .empty, index.specs, .empty, index.counts⟩ := by
  have listed : readResource (offering (.ofList letters)) (OfferKind.compute.path "" "us-east-1")
      = .ok (some (.ofList letters)) := by
    have packed : IsPair (Path.compressed (OfferKind.compute.path "" "us-east-1")) "compute"
        "us-east-1.json.gz" := by decide +kernel
    have plain : IsPair (OfferKind.compute.path "" "us-east-1") "compute" "us-east-1.json" := by
      decide +kernel
    refine readResource_plain ?_ ?_ (decodeText?_encodeText _)
    · rw [FileTree.exists?, node?_offering _ packed, if_pos rfl, get?_offering,
        if_neg (by decide +kernel), if_neg (by decide +kernel)]
      rfl
    · rw [FileTree.read?, node?_offering _ plain, if_pos rfl, get?_offering,
        if_pos (by decide +kernel)]
  have nothing {path directory name : String}
      (packed : IsPair (Path.compressed path) directory (name ++ ".gz"))
      (plain : IsPair path directory name) (other : directory ≠ "compute") :
      readResource (offering (.ofList letters)) path = .ok none := by
    refine readResource_missing ?_ ?_
    · rw [FileTree.exists?, node?_offering _ packed, if_neg other]
      rfl
    · rw [FileTree.exists?, node?_offering _ plain, if_neg other]
      rfl
  have fees := @nothing (OfferKind.service.path "" "us-east-1") "service" "us-east-1.json"
    (by decide +kernel) (by decide +kernel) (by decide)
  have rates := @nothing (Path.join (SurchargeTable.directory "") "rates.tsv") "units" "rates.tsv"
    (by decide +kernel) (by decide +kernel) (by decide)
  have units := @nothing (Path.join (SurchargeTable.directory "") "units.tsv") "units" "units.tsv"
    (by decide +kernel) (by decide +kernel) (by decide)
  obtain ⟨document, parsed, rfl⟩ := Option.map_eq_some_iff.mp meant
  have parsed : (Json.parse? (.ofList letters)).bind OfferDocument.ofJson? = some document := by
    rw [Json.parse?, String.toList_ofList]
    exact parsed
  unfold PriceCatalog.load PriceIndex.load SurchargeTable.load
  simp only [listed, fees, rates, units, parsed, bind, Except.bind]
  rfl

/-- Two machines, one at a price without end. -/
def endless : String :=
  "\x7b\"products\": \x7b
    \"A\": \x7b\"attributes\": \x7b\"instanceType\": \"m5.large\", \"tenancy\": \"Shared\",
      \"operatingSystem\": \"Linux\", \"operation\": \"RunInstances\",
      \"capacitystatus\": \"Used\"\x7d\x7d,
    \"B\": \x7b\"attributes\": \x7b\"instanceType\": \"m5.xlarge\", \"tenancy\": \"Shared\",
      \"operatingSystem\": \"Linux\", \"operation\": \"RunInstances\",
      \"capacitystatus\": \"Used\"\x7d\x7d\x7d,
  \"terms\": \x7b\"OnDemand\": \x7b
    \"A\": \x7b\"T\": \x7b\"priceDimensions\": \x7b
      \"D\": \x7b\"pricePerUnit\": \x7b\"USD\": \"inf\"\x7d\x7d\x7d\x7d\x7d,
    \"B\": \x7b\"T\": \x7b\"priceDimensions\": \x7b
      \"D\": \x7b\"pricePerUnit\": \x7b\"USD\": \"0.192\"\x7d\x7d\x7d\x7d\x7d\x7d\x7d\x7d"

instance {κ β : Type} [Ord κ] [DecidableEq κ] [DecidableEq β] : DecidableEq (OrderedMap κ β) :=
  fun m n => decidable_of_iff (m.toList = n.toList)
    ⟨fun same => by cases m; cases n; cases same; rfl, fun same => same ▸ rfl⟩

/-- What every machine in the list has. -/
def sampleAttributes (machine : InstanceKind) : Attributes :=
  .ofList (("instanceType", machine) :: OfferKind.compute.demanded)

def endlessIndex : PriceIndex :=
  ⟨.ofList [("m5.large", 1.0 / 0.0), ("m5.xlarge", 0.192)],
    .ofList [("m5.large", sampleAttributes "m5.large"),
      ("m5.xlarge", sampleAttributes "m5.xlarge")],
    ⟨2, 0, 0⟩⟩

instance : DecidableEq PriceIndex := fun a b =>
  decidable_of_iff (a.prices = b.prices ∧ a.specs = b.specs ∧ a.counts = b.counts)
    ⟨fun same => by cases a; cases b; simpa using same, fun same => same ▸ ⟨rfl, rfl, rfl⟩⟩

def endlessCatalog : PriceCatalog Float :=
  ⟨some "us-east-1", endlessIndex.prices, .empty, endlessIndex.specs, .empty, ⟨2, 0, 0⟩⟩

theorem load_endless :
    PriceCatalog.load (offering endless) "" "us-east-1" = .ok endlessCatalog := by
  unfold endless
  apply load_offering
  decide +kernel

/-- A group of one machine that ran for half a day. -/
def oneMachine (machine : InstanceKind) : GroupInstances :=
  ⟨⟨"ig-1", "CORE", machine, []⟩,
    [⟨"i-1", machine, .onDemand, .atHour 1, some (.atHour 13), []⟩]⟩

/-- What it costs. -/
def sampleTotal (machine : InstanceKind) : Float :=
  (Biller.groupsEstimate ⟨endlessCatalog, .silent, .once⟩
    ⟨"us-east-1a", .absent, .unbounded, .atHour 14⟩ "j-1" [oneMachine machine] 0
    ⟨.empty, ()⟩).estimate.breakdown.total

theorem isFinite_of_load_endless :
    PriceCatalog.load (offering endless) "" "us-east-1" = .ok endlessCatalog
      ∧ (endlessCatalog.priceOf "m5.large").isFinite = false
      ∧ (endlessCatalog.serviceFeeOf "m5.large").isFinite = true
      ∧ (sampleTotal "m5.xlarge").isFinite = true
      ∧ ∃ compute, OfferDocument.HeldIn (offering endless) "" .compute "us-east-1" compute
        ∧ ¬ compute.QuotesFinite .compute "m5.large"
        ∧ compute.QuotesFinite .compute "m5.xlarge" := by
  have infinite : (endlessCatalog.priceOf "m5.large").isFinite = false := by decide +kernel
  have total : (sampleTotal "m5.xlarge").isFinite = true := by decide +kernel
  obtain ⟨lists, held, prices, totals⟩ := isFinite_of_load load_endless
  refine ⟨load_endless, infinite, rfl, total, lists .compute, held .compute, fun quoted => ?_, ?_⟩
  · have finite := (prices "m5.large").1.mpr quoted
    rw [infinite] at finite
    cases finite
  · exact (totals _ _ _ _ _ _ _ _ total _ List.mem_cons_self _ List.mem_cons_self rfl _ _ rfl).1

/-- **A price without end.** It is read as a number, where the tables of compute units take none;
so that the price in the catalog and the total of an estimate are infinite. -/
theorem load_infinite :
    Decimal.readFloat? "inf" = some (1.0 / 0.0)
      ∧ Surcharge.number? "inf" = none
      ∧ PriceCatalog.load (offering endless) "" "us-east-1" = .ok endlessCatalog
      ∧ (endlessCatalog.priceOf "m5.large").isFinite = false
      ∧ (sampleTotal "m5.large").isFinite = false := by
  refine ⟨by decide +kernel, by decide +kernel, load_endless, by decide +kernel, by decide +kernel⟩

end Sample

end PriceCatalog

end ClusterBilling
