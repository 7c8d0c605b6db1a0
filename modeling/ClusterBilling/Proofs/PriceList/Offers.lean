import ClusterBilling.PriceList.Offer
import ClusterBilling.Proofs.Json.Maps
import ClusterBilling.Proofs.Text.ByteOrder

/-!
# What a price list offers

A price list is read here by stock number: the products whose body makes no sense (`malformed`),
those that count and name a kind of machine (`eligible`), and of these the ones that are sold at
exactly one price (`priced`). Whether a product is sold so is said by its terms (`SoldAt`), and the
first product that offers a kind of machine is the one of the least stock number (`OffersFirst`).

What one product is to an index is its `Standing`, and `Stands` says when it has which. Where the
stock numbers stand in a file makes no difference (`ReorderedFile.ofJson?_eq`).
-/

namespace ClusterBilling

/-- What a product is offered as: a kind of machine, with all attributes, at a price. -/
structure Offer where
  machine : InstanceKind
  attributes : Attributes
  price : Float

namespace OfferDocument

/-- The terms of a product that is sold at exactly one price: there is one term, it has one
dimension, and that has a price in dollars which can be read. -/
def SoldAt (terms : Option Json) (price : Float) : Prop :=
  ∃ value known term dimensions dimension prices amount,
    terms = some value ∧ Json.asMap? term? value = some known ∧
      known.toList = [(term, dimensions)] ∧ dimensions.toList = [(dimension, prices)] ∧
        prices.get? "USD" = some amount ∧ Decimal.readFloat? amount = some price

theorem singlePrice?_eq_some_iff (terms : Option Json) (price : Float) :
    singlePrice? terms = some price ↔ SoldAt terms price := by
  constructor
  · intro sold
    simp only [singlePrice?, OrderedMap.values, Option.bind_eq_bind, Option.bind_eq_some_iff]
      at sold
    obtain ⟨value, rfl, known, readable, sold⟩ := sold
    split at sold
    next single =>
      obtain ⟨⟨term, dimensions⟩, oneTerm, rfl⟩ := List.map_eq_singleton_iff.mp single
      split at sold
      next single =>
        obtain ⟨⟨dimension, prices⟩, oneDimension, rfl⟩ := List.map_eq_singleton_iff.mp single
        obtain ⟨amount, inDollars, number⟩ := Option.bind_eq_some_iff.mp sold
        exact ⟨value, known, term, dimensions, dimension, prices, amount, rfl, readable, oneTerm,
          oneDimension, inDollars, number⟩
      next => cases sold
    next => cases sold
  · rintro ⟨value, known, term, dimensions, dimension, prices, amount, rfl, readable, oneTerm,
      oneDimension, inDollars, number⟩
    simp [singlePrice?, OrderedMap.values, readable, oneTerm, oneDimension, inDollars, number]

/-- The body of a product that counts: these are its attributes, and they name the kind of
machine. -/
structure Listed (kind : OfferKind) (body : Json) (machine : InstanceKind)
    (attributes : Attributes) : Prop where
  readable : attributes? body = some attributes
  accepted : kind.accepts attributes = true
  named : attributes.get? "instanceType" = some machine

variable (document : OfferDocument) (kind : OfferKind)

/-- The stock numbers of products whose body makes no sense. -/
def malformed : Set String :=
  {sku | ∃ body, document.products.get? sku = some body ∧ attributes? body = none}

/-- The stock numbers of products that count and name a kind of machine. -/
def eligible : Set String :=
  {sku | ∃ body, document.products.get? sku = some body ∧
    ∃ machine attributes, Listed kind body machine attributes}

/-- The product of a stock number counts and is sold at exactly one price. -/
structure Offers (sku : String) (offer : Offer) : Prop where
  listed : ∃ body, document.products.get? sku = some body ∧
    Listed kind body offer.machine offer.attributes
  soldAt : SoldAt (document.onDemandTerms.get? sku) offer.price

/-- The product of a stock number offers a kind of machine. -/
def OffersKind (sku : String) (machine : InstanceKind) : Prop :=
  ∃ offer, document.Offers kind sku offer ∧ offer.machine = machine

/-- The stock numbers of products that count and are sold at exactly one price. -/
def priced : Set String := {sku | ∃ offer, document.Offers kind sku offer}

/-- Of all products that offer a kind of machine, this one has the least stock number, byte by
byte. -/
structure OffersFirst (sku : String) (offer : Offer) : Prop where
  offers : document.Offers kind sku offer
  least : ∀ other rival, document.Offers kind other rival → rival.machine = offer.machine →
    Text.bytes sku ≤ Text.bytes other

end OfferDocument

/-- What a product is to an index. -/
inductive Standing
  /-- Its body makes no sense. -/
  | malformed
  /-- It does not count, or names no kind of machine. -/
  | passedOver
  /-- It counts but is not sold at exactly one price. -/
  | unpriced
  | offered (offer : Offer)

namespace Standing

/-- The offer for a kind of machine, if this is one. -/
def offerOf? (machine : InstanceKind) : Standing → Option Offer
  | offered offer => if offer.machine = machine then some offer else none
  | _ => none

/-- The first offer for a kind of machine among some standings. -/
def firstOffer? (machine : InstanceKind) (standings : List Standing) : Option Offer :=
  standings.findSome? (offerOf? machine)

theorem firstOffer?_concat (machine : InstanceKind) (standings : List Standing)
    (standing : Standing) : firstOffer? machine (standings ++ [standing])
      = (firstOffer? machine standings).or (standing.offerOf? machine) := by
  simp [firstOffer?, List.findSome?_append]

def isMalformed : Standing → Bool
  | malformed => true
  | _ => false

def isEligible : Standing → Bool
  | unpriced | offered _ => true
  | _ => false

def isUnpriced : Standing → Bool
  | unpriced => true
  | _ => false

def isOffered : Standing → Bool
  | offered _ => true
  | _ => false

end Standing

namespace OfferDocument

variable (document : OfferDocument) (kind : OfferKind)

/-- What a product of the document is to an index. -/
def standing (product : String × Json) : Standing :=
  match attributes? product.2 with
  | none => .malformed
  | some attributes =>
    match kind.accepts attributes, attributes.get? "instanceType" with
    | true, some machine =>
      match singlePrice? (document.onDemandTerms.get? product.1) with
      | none => .unpriced
      | some price => .offered ⟨machine, attributes, price⟩
    | _, _ => .passedOver

/-- What the products of the document are, in the order of their stock numbers. -/
def standings : List Standing := document.products.toList.map (document.standing kind)

variable {document kind} {product : String × Json}

variable (document kind product) in
/-- The standings of a product, and when it has them. -/
inductive Stands : Standing → Prop
  | malformed (unreadable : attributes? product.2 = none) : Stands .malformed
  | passedOver {attributes : Attributes} (readable : attributes? product.2 = some attributes)
      (unlisted : ∀ machine, ¬ Listed kind product.2 machine attributes) : Stands .passedOver
  | unpriced {machine : InstanceKind} {attributes : Attributes}
      (listed : Listed kind product.2 machine attributes)
      (unsold : ∀ price, ¬ SoldAt (document.onDemandTerms.get? product.1) price) : Stands .unpriced
  | offered (offer : Offer) (listed : Listed kind product.2 offer.machine offer.attributes)
      (soldAt : SoldAt (document.onDemandTerms.get? product.1) offer.price) :
      Stands (.offered offer)

theorem stands : Stands document kind product (document.standing kind product) := by
  unfold standing
  cases readable : attributes? product.2 with
  | none => exact .malformed readable
  | some attributes =>
    dsimp only
    cases accepted : kind.accepts attributes with
    | false =>
      exact .passedOver readable fun machine listed => by simp [listed.accepted] at accepted
    | true =>
      cases named : attributes.get? "instanceType" with
      | none => exact .passedOver readable fun machine listed => by simp [listed.named] at named
      | some machine =>
        have listed : Listed kind product.2 machine attributes := ⟨readable, accepted, named⟩
        dsimp only
        cases sold : singlePrice? (document.onDemandTerms.get? product.1) with
        | none =>
          exact .unpriced listed fun price soldAt => by
            simp [(singlePrice?_eq_some_iff _ price).mpr soldAt] at sold
        | some price =>
          exact .offered ⟨machine, attributes, price⟩ listed
            ((singlePrice?_eq_some_iff _ price).mp sold)

namespace Stands

variable {a b : Standing}

theorem standing_eq (stands : Stands document kind product a) :
    document.standing kind product = a := by
  unfold standing
  cases stands with
  | malformed unreadable => simp only [unreadable]
  | passedOver readable unlisted =>
    simp only [readable]
    split
    next machine accepted named => exact absurd ⟨readable, accepted, named⟩ (unlisted machine)
    next => rfl
  | unpriced listed unsold =>
    have priceless : singlePrice? (document.onDemandTerms.get? product.1) = none :=
      Option.eq_none_iff_forall_ne_some.mpr fun price sold =>
        unsold price ((singlePrice?_eq_some_iff _ price).mp sold)
    simp only [listed.readable, listed.accepted, listed.named, priceless]
  | offered offer listed soldAt =>
    simp only [listed.readable, listed.accepted, listed.named,
      (singlePrice?_eq_some_iff _ offer.price).mpr soldAt]

/-- A product has one standing. -/
theorem unique (stands : Stands document kind product a) (also : Stands document kind product b) :
    a = b :=
  stands.standing_eq.symm.trans also.standing_eq

theorem isMalformed_iff (stands : Stands document kind product a) :
    a.isMalformed ↔ attributes? product.2 = none := by
  refine ⟨fun told => ?_, fun unreadable => stands.unique (malformed unreadable) ▸ rfl⟩
  cases stands with
  | malformed unreadable => exact unreadable
  | passedOver | unpriced | offered => cases told

theorem isEligible_iff (stands : Stands document kind product a) :
    a.isEligible ↔ ∃ machine attributes, Listed kind product.2 machine attributes := by
  cases stands with
  | malformed unreadable =>
    refine ⟨nofun, fun ⟨_, _, listed⟩ => ?_⟩
    rw [listed.readable] at unreadable
    cases unreadable
  | passedOver readable unlisted =>
    refine ⟨nofun, fun ⟨machine, _, listed⟩ => absurd listed ?_⟩
    obtain rfl := Option.some.inj (readable.symm.trans listed.readable)
    exact unlisted machine
  | unpriced listed => exact iff_of_true rfl ⟨_, _, listed⟩
  | offered offer listed => exact iff_of_true rfl ⟨_, _, listed⟩

theorem isUnpriced_iff (stands : Stands document kind product a) :
    a.isUnpriced ↔ (∃ machine attributes, Listed kind product.2 machine attributes) ∧
      ∀ price, ¬ SoldAt (document.onDemandTerms.get? product.1) price := by
  refine ⟨fun told => ?_, fun ⟨⟨_, _, listed⟩, unsold⟩ =>
    stands.unique (unpriced listed unsold) ▸ rfl⟩
  cases stands with
  | unpriced listed unsold => exact ⟨⟨_, _, listed⟩, unsold⟩
  | malformed | passedOver | offered => cases told

theorem isOffered_iff (stands : Stands document kind product a) :
    a.isOffered ↔ ∃ offer : Offer, Listed kind product.2 offer.machine offer.attributes ∧
      SoldAt (document.onDemandTerms.get? product.1) offer.price := by
  refine ⟨fun told => ?_, fun ⟨offer, listed, soldAt⟩ =>
    stands.unique (offered offer listed soldAt) ▸ rfl⟩
  cases stands with
  | offered offer listed soldAt => exact ⟨offer, listed, soldAt⟩
  | malformed | passedOver | unpriced => cases told

theorem offerOf?_iff (stands : Stands document kind product a) {machine : InstanceKind}
    {offer : Offer} :
    a.offerOf? machine = some offer ↔
      offer.machine = machine ∧ Listed kind product.2 offer.machine offer.attributes ∧
        SoldAt (document.onDemandTerms.get? product.1) offer.price := by
  constructor
  · intro told
    cases stands with
    | offered known listed soldAt =>
      simp only [Standing.offerOf?, Option.ite_none_right_eq_some, Option.some.injEq] at told
      obtain ⟨same, rfl⟩ := told
      exact ⟨same, listed, soldAt⟩
    | malformed | passedOver | unpriced => cases told
  · rintro ⟨rfl, listed, soldAt⟩
    rw [stands.unique (offered offer listed soldAt), Standing.offerOf?, if_pos rfl]

end Stands

end OfferDocument

namespace OfferDocument

section InFiles

/-- The same value, or an object whose members of different names stand in another order. -/
inductive Reordered : Json → Json → Prop
  | refl (value : Json) : Reordered value value
  | object {members others : List (JsonText × Json)} (alike : Json.Alike members others) :
      Reordered (.object members) (.object others)

/-- The same terms, or terms whose stock numbers stand in another order. -/
inductive ReorderedTerms : Json → Json → Prop
  | refl (terms : Json) : ReorderedTerms terms terms
  | onDemand {terms others : Json} {field other : Option Json}
      (here : Json.fields? ["OnDemand"] terms = some [field])
      (there : Json.fields? ["OnDemand"] others = some [other])
      (reordered : Option.Rel Reordered field other) : ReorderedTerms terms others

/-- Two files with the same products and terms, whose stock numbers stand in another order. -/
structure ReorderedFile (file other : Json) : Prop where
  fields : ∃ products terms otherProducts otherTerms,
    Json.fields? ["products", "terms"] file = some [products, terms] ∧
      Json.fields? ["products", "terms"] other = some [otherProducts, otherTerms] ∧
        Option.Rel Reordered products otherProducts ∧ Option.Rel ReorderedTerms terms otherTerms

theorem defaulted?_congr {α : Type} {default : α} {read : Json → Option α}
    {R : Json → Json → Prop} {field other : Option Json} (related : Option.Rel R field other)
    (reads : ∀ {value value'}, R value value' → read value = read value') :
    Json.defaulted? default read field = Json.defaulted? default read other := by
  cases related with
  | none => rfl
  | some related => exact reads related

theorem Reordered.bodies?_eq {value other : Json} (reordered : Reordered value other)
    (levels : Nat) : bodies? levels value = bodies? levels other := by
  cases reordered with
  | refl => rfl
  | object alike => exact Json.asMap?_congr (body? levels) alike

theorem ReorderedTerms.terms?_eq {terms others : Json} (reordered : ReorderedTerms terms others) :
    terms? terms = terms? others := by
  cases reordered with
  | refl => rfl
  | onDemand here there reordered =>
    simp only [terms?, here, there]
    exact defaulted?_congr reordered fun related => related.bodies?_eq _

/-- **The order of stock numbers in a file does not matter.** -/
theorem ReorderedFile.ofJson?_eq {file other : Json} (reordered : ReorderedFile file other) :
    ofJson? file = ofJson? other := by
  obtain ⟨products, terms, otherProducts, otherTerms, here, there, sameProducts, sameTerms⟩ :=
    reordered.fields
  simp only [ofJson?, here, there, Option.bind_eq_bind, Option.bind_some]
  rw [defaulted?_congr sameProducts fun related => related.bodies?_eq _,
    defaulted?_congr sameTerms ReorderedTerms.terms?_eq]

end InFiles

/-- Two price lists that may differ in the product and the terms of one stock number. -/
structure AgreeExcept (sku : String) (document other : OfferDocument) : Prop where
  products : ∀ key, key ≠ sku → document.products.get? key = other.products.get? key
  terms : ∀ key, key ≠ sku → document.onDemandTerms.get? key = other.onDemandTerms.get? key

theorem AgreeExcept.symm {sku : String} {document other : OfferDocument}
    (agree : AgreeExcept sku document other) : AgreeExcept sku other document :=
  ⟨fun key differs => (agree.products key differs).symm,
    fun key differs => (agree.terms key differs).symm⟩

section Replacing

variable {kind : OfferKind} {sku : String} {machine : InstanceKind}
  {document other : OfferDocument}

theorem AgreeExcept.offers (agree : AgreeExcept sku document other) {key : String} {offer : Offer}
    (differs : key ≠ sku) (offers : document.Offers kind key offer) :
    other.Offers kind key offer :=
  ⟨agree.products key differs ▸ offers.listed, agree.terms key differs ▸ offers.soldAt⟩

theorem AgreeExcept.offersFirst (agree : AgreeExcept sku document other) {key : String}
    {offer : Offer} (before : ¬ document.OffersKind kind sku offer.machine)
    (after : ¬ other.OffersKind kind sku offer.machine)
    (first : document.OffersFirst kind key offer) : other.OffersFirst kind key offer := by
  refine ⟨agree.offers (fun same => before ⟨offer, same ▸ first.offers, rfl⟩) first.offers, ?_⟩
  intro rivalKey rival offers same
  have differs : rivalKey ≠ sku := fun here => after ⟨rival, here ▸ offers, same⟩
  exact first.least rivalKey rival (agree.symm.offers differs offers) same

end Replacing

end OfferDocument

end ClusterBilling
