import ClusterBilling.Json.Record
import ClusterBilling.Inventory.Record

/-!
# Price list documents

A price list names products by stock number, with their attributes, and apart from them the terms
on which each is sold. The documents are large and not all of their entries are what they should
be, so the body of a product and its terms are kept as they are and looked at one by one: a body
that makes no sense costs that product its price, and no other.

**Indexing** gives every kind of machine at most one price: that of the first product, in the
order of stock numbers, that is of the kind sought, is eligible, and is sold at exactly one price.
-/

namespace ClusterBilling

/-- The price lists there are. -/
inductive OfferKind
  /-- Machine time. -/
  | compute
  /-- The fee of the managed service. -/
  | service
deriving DecidableEq, Repr, Inhabited

namespace OfferKind

/-- The directory of the list among the resources. -/
def directory : OfferKind → String
  | compute => "compute"
  | service => "service"

/-- The name of the list in the publisher's index. -/
def code : OfferKind → String
  | compute => "AmazonEC2"
  | service => "ElasticMapReduce"

/-- The attributes a product must have to count. -/
def demanded : OfferKind → List (String × String)
  | compute =>
    [("tenancy", "Shared"), ("operatingSystem", "Linux"), ("operation", "RunInstances"),
      ("capacitystatus", "Used")]
  | service => [("softwareType", "EMR")]

end OfferKind

/-- Attributes by name. -/
abbrev Attributes := OrderedMap String String

/-- Whether a product with these attributes counts. -/
def OfferKind.accepts (kind : OfferKind) (attributes : Attributes) : Bool :=
  kind.demanded.all fun (name, value) => attributes.get? name == some value

/-- What indexing counted. -/
structure IndexCounts where
  /-- Products that count and name a kind of machine. -/
  eligible : Nat
  /-- Of those, the ones whose kind had a price already. -/
  duplicates : Nat
  /-- Products whose body makes no sense, and eligible ones without exactly one price. -/
  ambiguous : Nat
deriving DecidableEq, Repr, Inhabited

namespace IndexCounts

def zero : IndexCounts := ⟨0, 0, 0⟩

def add (a b : IndexCounts) : IndexCounts :=
  ⟨a.eligible + b.eligible, a.duplicates + b.duplicates, a.ambiguous + b.ambiguous⟩

end IndexCounts

/-- A price list: bodies of products and terms by stock number. -/
structure OfferDocument where
  products : OrderedMap String Json
  onDemandTerms : OrderedMap String Json

mutual

/-- A value in which, of members with one name, only the last is left. -/
def Json.settled : Json → Json
  | .array elements => .array (settledElements elements)
  | .object members => .object (lastOfEach (settledMembers members))
  | value => value

def Json.settledElements : List Json → List Json
  | [] => []
  | element :: rest => element.settled :: settledElements rest

def Json.settledMembers : List (JsonText × Json) → List (JsonText × Json)
  | [] => []
  | (name, value) :: rest => (name, value.settled) :: settledMembers rest

/-- The members that no later one overrides. -/
def Json.lastOfEach : List (JsonText × Json) → List (JsonText × Json)
  | [] => []
  | member :: rest =>
    if rest.any fun later => later.1 == member.1 then lastOfEach rest
    else member :: lastOfEach rest

end

namespace OfferDocument

/-- A body as it is kept: readable throughout, nested no deeper than `levels`, and of members with
one name the last. -/
def body? (levels : Nat) (value : Json) : Option Json :=
  if value.Kept levels then some value.settled else none

/-- The bodies by stock number that a member of the document holds. -/
def bodies? (levels : Nat) (value : Json) : Option (OrderedMap String Json) :=
  Json.asMap? (body? levels) value

/-- The terms of a document, from its member for them. -/
def terms? (value : Json) : Option (OrderedMap String Json) := do
  match ← Json.fields? ["OnDemand"] value with
  | [onDemand] => Json.defaulted? .empty (bodies? (Json.maxNesting - 3)) onDemand
  | _ => none

/-- The price list that a document holds. -/
def ofJson? (value : Json) : Option OfferDocument := do
  match ← Json.fields? ["products", "terms"] value with
  | [products, terms] =>
    return ⟨← Json.defaulted? .empty (bodies? (Json.maxNesting - 2)) products,
      ← Json.defaulted? .empty terms? terms⟩
  | _ => none

/-- A map of texts that may be missing. -/
def textMap? (name : String) (value : Json) : Option (OrderedMap String String) := do
  match ← Json.fields? [name] value with
  | [field] => Json.defaulted? .empty (Json.asMap? Json.asText?) field
  | _ => none

/-- The attributes of a product, from its body. -/
def attributes? (body : Json) : Option Attributes := textMap? "attributes" body

/-- The prices of a price dimension by currency. -/
def dimension? (value : Json) : Option (OrderedMap String String) := textMap? "pricePerUnit" value

/-- The price dimensions of a term. -/
def term? (value : Json) : Option (OrderedMap String (OrderedMap String String)) := do
  match ← Json.fields? ["priceDimensions"] value with
  | [field] => Json.defaulted? .empty (Json.asMap? dimension?) field
  | _ => none

/-- **The one price** of a product, from its terms: exactly one term with exactly one dimension
that has a price in dollars. -/
def singlePrice? (terms : Option Json) : Option Float := do
  let terms ← Json.asMap? term? (← terms)
  match terms.values with
  | [dimensions] =>
    match dimensions.values with
    | [prices] => (prices.get? "USD").bind Decimal.readFloat?
    | _ => none
  | _ => none

end OfferDocument

/-- Prices by kind of machine, and the attributes of the products they are taken from. -/
structure PriceIndex where
  prices : OrderedMap InstanceKind Float
  specs : OrderedMap InstanceKind Attributes
  counts : IndexCounts

namespace PriceIndex

def empty : PriceIndex := ⟨.empty, .empty, .zero⟩

/-- The index after one more product. -/
def addProduct (kind : OfferKind) (document : OfferDocument) (index : PriceIndex)
    (product : String × Json) : PriceIndex :=
  let ambiguous := { index.counts with ambiguous := index.counts.ambiguous + 1 }
  match OfferDocument.attributes? product.2 with
  | none => { index with counts := ambiguous }
  | some attributes =>
    match kind.accepts attributes, attributes.get? "instanceType" with
    | true, some instanceKind =>
      let eligible := index.counts.eligible + 1
      match OfferDocument.singlePrice? (document.onDemandTerms.get? product.1) with
      | none => { index with counts := { ambiguous with eligible := eligible } }
      | some price =>
        if index.prices.contains instanceKind then
          { index with counts :=
            { index.counts with eligible := eligible, duplicates := index.counts.duplicates + 1 } }
        else
          ⟨index.prices.insert instanceKind price,
            if kind = .compute then index.specs.insert instanceKind attributes else index.specs,
            { index.counts with eligible := eligible }⟩
    | _, _ => index

/-- **The prices of a price list**, its products taken in the order of their stock numbers. -/
def ofDocument (kind : OfferKind) (document : OfferDocument) : PriceIndex :=
  document.products.toList.foldl (addProduct kind document) empty

end PriceIndex

end ClusterBilling
