import ClusterBilling.Proofs.PriceList.Offers

/-!
# What the index of a price list holds

Indexing goes through the products one by one. What a single product does to an index hangs only
on its standing (`addProduct_eq`), and an index at any time describes the products seen until then
(`PriceIndex.Describes`): one more product keeps that (`Describes.snoc`), so the whole index
describes the whole list. Counting and searching the standings then gives the prices, the hardware
attributes and the counts by stock number (`ofDocument_firstOffers`).
-/

namespace ClusterBilling

namespace PriceIndex

/-- The index after a product of some standing. -/
def take (kind : OfferKind) (index : PriceIndex) : Standing → PriceIndex
  | .malformed => { index with counts := index.counts.add ⟨0, 0, 1⟩ }
  | .passedOver => index
  | .unpriced => { index with counts := index.counts.add ⟨1, 0, 1⟩ }
  | .offered offer =>
    if index.prices.contains offer.machine then
      { index with counts := index.counts.add ⟨1, 1, 0⟩ }
    else
      ⟨index.prices.insert offer.machine offer.price,
        if kind = .compute then index.specs.insert offer.machine offer.attributes
        else index.specs,
        index.counts.add ⟨1, 0, 0⟩⟩

/-- **What a product does to an index hangs on its standing alone.** -/
theorem addProduct_eq (kind : OfferKind) (document : OfferDocument) (index : PriceIndex)
    (product : String × Json) :
    addProduct kind document index product = index.take kind (document.standing kind product) := by
  unfold addProduct OfferDocument.standing
  cases OfferDocument.attributes? product.2 with
  | none => rfl
  | some attributes =>
    dsimp only
    cases kind.accepts attributes with
    | false => rfl
    | true =>
      cases attributes.get? "instanceType" with
      | none => rfl
      | some machine =>
        dsimp only
        cases OfferDocument.singlePrice? (document.onDemandTerms.get? product.1) with
        | none => rfl
        | some price =>
          simp only [take]
          split <;> rfl

section Step

variable {kind : OfferKind} {index : PriceIndex}

theorem take_offered_of_known {offer : Offer} {price : Float}
    (known : index.prices.get? offer.machine = some price) :
    index.take kind (.offered offer) = { index with counts := index.counts.add ⟨1, 1, 0⟩ } := by
  simp [take, OrderedMap.contains_eq_isSome, known]

theorem take_offered_of_new {offer : Offer} (new : index.prices.get? offer.machine = none) :
    index.take kind (.offered offer)
      = ⟨index.prices.insert offer.machine offer.price,
          if kind = .compute then index.specs.insert offer.machine offer.attributes
          else index.specs,
          index.counts.add ⟨1, 0, 0⟩⟩ := by
  simp [take, OrderedMap.contains_eq_isSome, new]

variable (kind index) (standing : Standing)

/-- A price that is known stays. -/
theorem get?_prices_take (machine : InstanceKind) :
    (index.take kind standing).prices.get? machine
      = (index.prices.get? machine).or ((standing.offerOf? machine).map (·.price)) := by
  cases standing with
  | malformed | passedOver | unpriced => exact (Option.or_none ..).symm
  | offered offer =>
    cases known : index.prices.get? offer.machine with
    | some price =>
      rw [take_offered_of_known known, Standing.offerOf?]
      split
      · next same => rw [← same, known, Option.some_or]
      · exact (Option.or_none ..).symm
    | none =>
      rw [take_offered_of_new known, OrderedMap.get?_insert, Standing.offerOf?]
      split
      · next same => simp [same, known]
      · next other => simp [Ne.symm other]

/-- Attributes go with the price. -/
theorem get?_specs_take (machine : InstanceKind) :
    (index.take kind standing).specs.get? machine
      = if kind = .compute ∧ index.prices.get? machine = none then
          ((standing.offerOf? machine).map (·.attributes)).or (index.specs.get? machine)
        else index.specs.get? machine := by
  cases standing with
  | malformed | passedOver | unpriced => exact (ite_self _).symm
  | offered offer =>
    cases known : index.prices.get? offer.machine with
    | some price =>
      rw [take_offered_of_known known, Standing.offerOf?]
      by_cases same : offer.machine = machine
      · simp [← same, known]
      · simp [same]
    | none =>
      rw [take_offered_of_new known, Standing.offerOf?]
      cases kind with
      | service => simp
      | compute =>
        simp only [if_true, OrderedMap.get?_insert, true_and]
        by_cases same : machine = offer.machine
        · simp [same, known]
        · simp [same, Ne.symm same]

theorem eligible_take : (index.take kind standing).counts.eligible
    = index.counts.eligible + standing.isEligible.toNat := by
  cases standing with
  | malformed | passedOver | unpriced => rfl
  | offered offer =>
    simp only [take]
    split <;> rfl

theorem ambiguous_take : (index.take kind standing).counts.ambiguous
    = index.counts.ambiguous + (standing.isMalformed.toNat + standing.isUnpriced.toNat) := by
  cases standing with
  | malformed | passedOver | unpriced => rfl
  | offered offer =>
    simp only [take]
    split <;> rfl

/-- An offer makes a new price or counts as a duplicate. -/
theorem duplicates_take :
    (index.take kind standing).counts.duplicates + (index.take kind standing).prices.size
      = index.counts.duplicates + index.prices.size + standing.isOffered.toNat := by
  cases standing with
  | malformed | passedOver | unpriced => rfl
  | offered offer =>
    cases known : index.prices.get? offer.machine with
    | some price =>
      rw [take_offered_of_known known]
      exact Nat.add_right_comm ..
    | none =>
      rw [take_offered_of_new known, OrderedMap.size_insert known]
      rfl

end Step

/-- What an index holds after products of these standings, taken in this order. -/
structure Describes (kind : OfferKind) (standings : List Standing) (index : PriceIndex) : Prop where
  prices : ∀ machine, index.prices.get? machine
    = (Standing.firstOffer? machine standings).map (·.price)
  specs : ∀ machine, index.specs.get? machine
    = if kind = .compute then (Standing.firstOffer? machine standings).map (·.attributes)
      else none
  eligible : index.counts.eligible = standings.countP (·.isEligible)
  ambiguous : index.counts.ambiguous
    = standings.countP (·.isMalformed) + standings.countP (·.isUnpriced)
  duplicates : index.counts.duplicates + index.prices.size = standings.countP (·.isOffered)

theorem Describes.snoc {kind : OfferKind} {standings : List Standing} {index : PriceIndex}
    (describes : Describes kind standings index) (standing : Standing) :
    Describes kind (standings ++ [standing]) (index.take kind standing) := by
  have count (p : Standing → Bool) :
      (standings ++ [standing]).countP p = standings.countP p + (p standing).toNat := by
    cases told : p standing <;> simp [told]
  constructor
  case prices =>
    intro machine
    rw [get?_prices_take, describes.prices, Standing.firstOffer?_concat, Option.map_or]
  case specs =>
    intro machine
    rw [get?_specs_take, describes.prices, describes.specs, Standing.firstOffer?_concat]
    cases kind with
    | service => simp
    | compute => cases Standing.firstOffer? machine standings <;> simp
  case eligible => rw [eligible_take, describes.eligible, count]
  case ambiguous =>
    rw [ambiguous_take, describes.ambiguous, count, count]
    omega
  case duplicates => rw [duplicates_take, describes.duplicates, count]

/-- **The index describes the price list**: its products by their standings. -/
theorem describes_ofDocument (kind : OfferKind) (document : OfferDocument) :
    Describes kind (document.standings kind) (ofDocument kind document) := by
  have steps : ofDocument kind document = (document.standings kind).foldl (take kind) empty := by
    rw [OfferDocument.standings, List.foldl_map]
    exact List.foldl_ext _ _ _ fun index product _ => addProduct_eq kind document index product
  rw [steps]
  generalize document.standings kind = standings
  induction standings using List.reverseRecOn with
  | nil => exact ⟨fun _ => rfl, fun _ => (ite_self _).symm, rfl, rfl, rfl⟩
  | append_singleton seen standing ih =>
    rw [List.foldl_append]
    exact ih.snoc standing

section StockNumbers

variable (kind : OfferKind) (document : OfferDocument)

theorem ncard_standing (p : Standing → Bool) :
    {sku | ∃ body, document.products.get? sku = some body ∧
        p (document.standing kind (sku, body))}.ncard
      = (document.standings kind).countP p := by
  rw [OfferDocument.standings, List.countP_map]
  exact document.products.ncard_keys fun product => p (document.standing kind product)

theorem ncard_malformed : document.malformed.ncard
    = (document.standings kind).countP (·.isMalformed) := by
  simp only [← ncard_standing, OfferDocument.stands.isMalformed_iff]
  rfl

theorem ncard_eligible : (document.eligible kind).ncard
    = (document.standings kind).countP (·.isEligible) := by
  simp only [← ncard_standing, OfferDocument.stands.isEligible_iff]
  rfl

theorem ncard_priced : (document.priced kind).ncard
    = (document.standings kind).countP (·.isOffered) := by
  rw [← ncard_standing]
  congr 1
  ext sku
  simp only [OfferDocument.stands.isOffered_iff]
  constructor
  · rintro ⟨offer, ⟨body, known, listed⟩, soldAt⟩
    exact ⟨body, known, offer, listed, soldAt⟩
  · rintro ⟨body, known, offer, listed, soldAt⟩
    exact ⟨offer, ⟨body, known, listed⟩, soldAt⟩

theorem ncard_unpriced : (document.eligible kind \ document.priced kind).ncard
    = (document.standings kind).countP (·.isUnpriced) := by
  rw [← ncard_standing]
  congr 1
  ext sku
  simp only [OfferDocument.stands.isUnpriced_iff]
  constructor
  · rintro ⟨⟨body, known, machine, attributes, listed⟩, unpriced⟩
    exact ⟨body, known, ⟨machine, attributes, listed⟩, fun price soldAt =>
      unpriced ⟨⟨machine, attributes, price⟩, ⟨body, known, listed⟩, soldAt⟩⟩
  · rintro ⟨body, known, ⟨machine, attributes, listed⟩, unsold⟩
    exact ⟨⟨body, known, machine, attributes, listed⟩, fun ⟨offer, offers⟩ =>
      unsold offer.price offers.soldAt⟩

/-- The first offer of a kind of machine, in the order of the products, is that of the least stock
number. -/
theorem firstOffer_eq_some_iff (machine : InstanceKind) (offer : Offer) :
    Standing.firstOffer? machine (document.standings kind) = some offer ↔
      ∃ sku, document.OffersFirst kind sku offer ∧ offer.machine = machine := by
  have order (key other : String) :
      (compare key other).isLE ↔ Text.bytes key ≤ Text.bytes other :=
    Std.LawfulBCmp.isLE_iff_le.trans (Text.le_iff_bytes_le key other)
  rw [Standing.firstOffer?, OfferDocument.standings, List.findSome?_map,
    OrderedMap.findSome?_toList_eq_some_iff]
  simp only [Function.comp_apply, OfferDocument.stands.offerOf?_iff, Option.isSome_iff_exists,
    order]
  constructor
  · rintro ⟨sku, body, known, ⟨rfl, listed, soldAt⟩, least⟩
    refine ⟨sku, ⟨⟨⟨body, known, listed⟩, soldAt⟩, ?_⟩, rfl⟩
    rintro other rival ⟨⟨otherBody, otherKnown, otherListed⟩, otherSoldAt⟩ same
    exact least other otherBody otherKnown ⟨rival, same, otherListed, otherSoldAt⟩
  · rintro ⟨sku, ⟨⟨⟨body, known, listed⟩, soldAt⟩, least⟩, rfl⟩
    refine ⟨sku, body, known, ⟨rfl, listed, soldAt⟩, ?_⟩
    rintro other otherBody otherKnown ⟨rival, same, otherListed, otherSoldAt⟩
    exact least other rival ⟨⟨otherBody, otherKnown, otherListed⟩, otherSoldAt⟩ same

theorem map_firstOffer_eq_some_iff {β : Type} (machine : InstanceKind) (f : Offer → β) (b : β) :
    (Standing.firstOffer? machine (document.standings kind)).map f = some b ↔
      ∃ sku offer, document.OffersFirst kind sku offer ∧ offer.machine = machine ∧
        f offer = b := by
  simp only [Option.map_eq_some_iff, firstOffer_eq_some_iff]
  constructor
  · rintro ⟨offer, ⟨sku, first, same⟩, value⟩
    exact ⟨sku, offer, first, same, value⟩
  · rintro ⟨sku, offer, first, same, value⟩
    exact ⟨offer, ⟨sku, first, same⟩, value⟩

theorem isSome_firstOffer_iff (machine : InstanceKind) :
    (Standing.firstOffer? machine (document.standings kind)).isSome ↔
      ∃ sku, document.OffersKind kind sku machine := by
  rw [Standing.firstOffer?, OfferDocument.standings, List.findSome?_isSome_iff]
  simp only [List.mem_map, exists_exists_and_eq_and, Option.isSome_iff_exists,
    OfferDocument.stands.offerOf?_iff]
  constructor
  · rintro ⟨⟨sku, body⟩, mem, offer, same, listed, soldAt⟩
    have known := (document.products.get?_eq_some_iff sku body).mpr mem
    exact ⟨sku, offer, ⟨⟨body, known, listed⟩, soldAt⟩, same⟩
  · rintro ⟨sku, offer, ⟨⟨body, known, listed⟩, soldAt⟩, same⟩
    have mem := (document.products.get?_eq_some_iff sku body).mp known
    exact ⟨(sku, body), mem, offer, same, listed, soldAt⟩

end StockNumbers

variable {kind : OfferKind} {sku : String} {machine : InstanceKind}
  {document other : OfferDocument}

/-- A product can change the index only for kinds of machine that it offers. -/
theorem firstOffer_eq_of_agreeExcept (agree : OfferDocument.AgreeExcept sku document other)
    (before : ¬ document.OffersKind kind sku machine)
    (after : ¬ other.OffersKind kind sku machine) :
    Standing.firstOffer? machine (document.standings kind)
      = Standing.firstOffer? machine (other.standings kind) := by
  refine Option.ext fun offer => ?_
  rw [firstOffer_eq_some_iff, firstOffer_eq_some_iff]
  constructor
  · rintro ⟨key, first, rfl⟩
    exact ⟨key, agree.offersFirst before after first, rfl⟩
  · rintro ⟨key, first, rfl⟩
    exact ⟨key, agree.symm.offersFirst after before first, rfl⟩

/-- **What the index of a price list holds.** A kind of machine has a price exactly when some
product offers it; the price is that of the product with the least stock number, and so are, for
machine time, the attributes. The counts are those of the products that count, that have no price
though they should, and that came too late for their kind. The order of stock numbers in a file
does not matter, and another body or other terms of one stock number change nothing for kinds of
machine that it offers neither before nor after. -/
theorem ofDocument_firstOffers (kind : OfferKind) :
    (∀ document : OfferDocument,
      let index := ofDocument kind document
      (∀ machine, index.prices.contains machine ↔ ∃ sku, document.OffersKind kind sku machine) ∧
      (∀ machine price, index.prices.get? machine = some price ↔
        ∃ sku offer, document.OffersFirst kind sku offer ∧ offer.machine = machine ∧
          offer.price = price) ∧
      (∀ machine attributes, index.specs.get? machine = some attributes ↔
        kind = .compute ∧ ∃ sku offer, document.OffersFirst kind sku offer ∧
          offer.machine = machine ∧ offer.attributes = attributes) ∧
      (∀ machine, index.specs.contains machine → index.prices.contains machine) ∧
      index.counts.eligible = (document.eligible kind).ncard ∧
      index.counts.ambiguous
        = document.malformed.ncard + (document.eligible kind \ document.priced kind).ncard ∧
      index.counts.duplicates + index.prices.size = (document.priced kind).ncard) ∧
    (∀ file other, OfferDocument.ReorderedFile file other →
      (OfferDocument.ofJson? file).map (ofDocument kind)
        = (OfferDocument.ofJson? other).map (ofDocument kind)) ∧
    (∀ document other sku, OfferDocument.AgreeExcept sku document other → ∀ machine,
      ¬ document.OffersKind kind sku machine → ¬ other.OffersKind kind sku machine →
        (ofDocument kind document).prices.get? machine
            = (ofDocument kind other).prices.get? machine ∧
          (ofDocument kind document).specs.get? machine
            = (ofDocument kind other).specs.get? machine) := by
  refine ⟨fun document => ?_, fun file other reordered => by rw [reordered.ofJson?_eq],
    fun document other sku agree machine before after => ?_⟩
  · intro index
    have describes : Describes kind _ index := describes_ofDocument kind document
    have priced (machine : InstanceKind) :
        index.prices.contains machine ↔ ∃ sku, document.OffersKind kind sku machine := by
      rw [OrderedMap.contains_eq_isSome, describes.prices, Option.isSome_map,
        isSome_firstOffer_iff]
    have specs (machine : InstanceKind) (attributes : Attributes) :
        index.specs.get? machine = some attributes ↔
          kind = .compute ∧ ∃ sku offer, document.OffersFirst kind sku offer ∧
            offer.machine = machine ∧ offer.attributes = attributes := by
      rw [describes.specs, Option.ite_none_right_eq_some, map_firstOffer_eq_some_iff]
    refine ⟨priced, fun machine price => ?_, specs, fun machine known => ?_, ?_, ?_, ?_⟩
    · rw [describes.prices, map_firstOffer_eq_some_iff]
    · obtain ⟨attributes, known⟩ := Option.isSome_iff_exists.mp known
      obtain ⟨-, sku, offer, first, same, -⟩ := (specs machine attributes).mp known
      exact (priced machine).mpr ⟨sku, offer, first.offers, same⟩
    · rw [describes.eligible, ncard_eligible]
    · rw [describes.ambiguous, ncard_malformed kind, ncard_unpriced]
    · rw [describes.duplicates, ncard_priced]
  · have same := firstOffer_eq_of_agreeExcept agree before after
    constructor
    · rw [(describes_ofDocument kind document).prices, (describes_ofDocument kind other).prices,
        same]
    · rw [(describes_ofDocument kind document).specs, (describes_ofDocument kind other).specs,
        same]

end PriceIndex

end ClusterBilling
