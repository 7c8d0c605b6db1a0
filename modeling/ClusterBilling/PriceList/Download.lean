import ClusterBilling.Asked
import ClusterBilling.Catalog.Files
import ClusterBilling.Json.Bytes

/-!
# Downloading price lists

A publisher offers its price lists behind two levels of indexes: one names for every price list the
index of its regions, and that one names for every region the current document. Downloading asks
for the first index, then for the index of each price list a platform needs, then for every document
named there of the regions wanted, region by region, and writes each one compressed to the place
where catalogs look first.

**The first request that fails ends the download.** What was written before stays. A region that an
index does not name is passed over.
-/

namespace ClusterBilling

/-- The answer of a server. -/
structure Response where
  status : Nat
  body : List UInt8

/-- A server: it answers an address, or cannot be reached. -/
abbrev Server (σ : Type) := String → Asked σ Response

/-- The price lists a platform needs, in the order of downloading. -/
def Platform.offers : Platform → List OfferKind
  | .emr => [.service, .compute]
  | .databricks => [.compute]

namespace Download

variable {σ : Type}

/-- The public server of price lists. -/
def publicServer : String := "https://pricing.us-east-1.amazonaws.com"

/-- Where the first index is. -/
def offerIndexPath : String := "/offers/v1.0/aws/index.json"

/-- The address of a server without slashes at its end. -/
def baseAddress (address : String) : String :=
  String.ofList (Text.trimBackIf (· == '/') address.toList)

/-- A server that nobody can reach. -/
def unreachable : Server Unit := fun address s =>
  (.error (.network .other ("cannot reach " ++ address)), s)

/-- The body of an answer, if the server does not refuse. -/
def body (address : String) (response : Response) : Except Fault (List UInt8) :=
  if 200 ≤ response.status && response.status < 300 then .ok response.body
  else .error (.refused (toString response.status) ("GET " ++ address))

/-- The body behind an address. -/
def get (server : Server σ) (address : String) : Asked σ (List UInt8) :=
  (server address).check (body address)

/-- An index: the addresses that one of its members gives by name. -/
def addresses? (member field : String) (document : Json) : Option (OrderedMap String String) := do
  let entry? (entry : Json) : Option String := do
    match ← Json.fields? [field] entry with
    | [address] => Json.required? Json.asText? address
    | _ => none
  match ← Json.fields? [member] document with
  | [entries] => Json.required? (Json.asMap? entry?) entries
  | _ => none

/-- The addresses that the body of an index gives. -/
def readIndex (address member field : String) (content : List UInt8) :
    Except Fault (OrderedMap String String) :=
  match (Json.parseBytes? content).bind (addresses? member field) with
  | some found => .ok found
  | none => .error (.network .other ("no index behind " ++ address))

/-- The addresses of an index behind an address. -/
def getIndex (server : Server σ) (address member field : String) :
    Asked σ (OrderedMap String String) :=
  (get server address).check (readIndex address member field)

/-- The documents of a price list by region. -/
structure RegionIndex where
  kind : OfferKind
  addresses : OrderedMap Region String

/-- The region index of a price list, which the first index must name. -/
def regionIndex (server : Server σ) (base : String) (offers : OrderedMap String String)
    (kind : OfferKind) : Asked σ RegionIndex :=
  match offers.get? kind.code with
  | none => fun s => (.error (.config ("offer index has no " ++ kind.code ++ " entry")), s)
  | some address =>
    (getIndex server (base ++ address) "regions" "currentVersionUrl").andThen fun addresses =>
      .answer ⟨kind, addresses⟩

/-- The region index of each price list that a platform needs, by way of the first index. -/
def indexes (server : Server σ) (base : String) (platform : Platform) :
    Asked σ (List RegionIndex) :=
  (getIndex server (base ++ offerIndexPath) "offers" "currentRegionIndexUrl").andThen fun offers =>
    .each (regionIndex server base offers) platform.offers

/-- A document to write to a file. -/
structure Item where
  address : String
  path : String
deriving DecidableEq, Repr

/-- **What there is to download**: for every region, in order, the document of each price list
that has one. -/
def plan (resources : String) (indexes : List RegionIndex) (regions : List Region) : List Item :=
  regions.flatMap fun region => indexes.filterMap fun index =>
    (index.addresses.get? region).map fun address =>
      ⟨address, Path.compressed (index.kind.path resources region)⟩

/-- How a download ended: the files written, if no request failed, and the tree of files left. -/
structure Outcome (σ : Type) where
  written : Except Fault (List String)
  files : FileTree
  server : σ

/-- Downloads documents in order. -/
def items (server : Server σ) (base : String) (files : FileTree) (s : σ) :
    List Item → Outcome σ
  | [] => ⟨.ok [], files, s⟩
  | item :: rest =>
    match get server (base ++ item.address) s with
    | (.error fault, s) => ⟨.error fault, files, s⟩
    | (.ok body, s) =>
      match files.write? item.path (Gzip.pack body) with
      | none => ⟨.error (.io ("cannot write " ++ item.path)), files, s⟩
      | some files =>
        let outcome := items server base files s rest
        { outcome with written := outcome.written.map (item.path :: ·) }

/-- **The download** of the price lists a platform needs, for some regions, from the server at
an address. -/
def run (server : Server σ) (address resources : String) (platform : Platform)
    (regions : List Region) (files : FileTree) (s : σ) : Outcome σ :=
  let base := baseAddress address
  match indexes server base platform s with
  | (.error fault, s) => ⟨.error fault, files, s⟩
  | (.ok indexes, s) => items server base files s (plan resources indexes regions)

end Download

end ClusterBilling
