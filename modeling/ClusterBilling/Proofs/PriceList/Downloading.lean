import Mathlib
import ClusterBilling.Proofs.Files.Path
import ClusterBilling.Proofs.Files.Resource
import ClusterBilling.Proofs.Gzip.Stored
import ClusterBilling.Proofs.PriceList.Requests

/-!
# What a download writes

Once the indexes are there, a download goes through the documents that they offer for the regions
wanted, and writes each one that is served before it asks for the next. `Downloads` says where this
ends: behind the last document, at a request that fails, or at a file that cannot be written. The
files written are in every case those of the documents fetched until then (`items_spec`).

A file is written where catalogs look first, so a catalog that is loaded afterwards reads the bodies
served, whatever lay there before (`load_of_read?`). Two documents can have the same file, if names
of regions lead through directories; the later one then stays. Distinct names without slashes
have files of their own (`not_sameFile`).

`Course` puts the indexes and the documents together: it says of a whole download what was asked
for, what was written, and what came of it (`run_spec`).
-/

namespace ClusterBilling

variable {σ : Type}

/-! ## Reading back -/

/-- The price list that a body holds, read from the compressed file beside `path`. -/
def PriceIndex.ofBody (path : String) (kind : OfferKind) (body : List UInt8) :
    Except Fault PriceIndex :=
  match decodeText? body with
  | none => .error (.parse (Path.compressed path) "not a compressed text")
  | some text =>
    match (Json.parse? text).bind OfferDocument.ofJson? with
    | none => .error (.parse path "not a price list")
    | some document => .ok (.ofDocument kind document)

/-- A catalog whose price lists are given. -/
def PriceCatalog.ofIndexes (region : Region) (index : OfferKind → Except Fault PriceIndex)
    (surcharges : Except Fault (SurchargeTable Float)) : Except Fault (PriceCatalog Float) := do
  let compute ← index .compute
  let service ← index .service
  let surcharges ← surcharges
  let counts := compute.counts.add service.counts
  return {
    region := some region
    onDemand := compute.prices
    serviceFees := service.prices
    specs := compute.specs
    surcharges := surcharges
    counts := { counts with duplicates := counts.duplicates + surcharges.duplicates } }

theorem PriceCatalog.load_eq_ofIndexes (files : FileTree) (resources : String) (region : Region) :
    PriceCatalog.load files resources region
      = PriceCatalog.ofIndexes region (fun kind => PriceIndex.load files resources kind region)
        (SurchargeTable.load files resources) := rfl

/-- **A price list is read from its compressed file**, whatever the plain one holds. -/
theorem PriceIndex.load_of_read? {files : FileTree} {resources : String} {kind : OfferKind}
    {region : Region} {body : List UInt8}
    (held : files.read? (Path.compressed (kind.path resources region)) = some (Gzip.pack body)) :
    PriceIndex.load files resources kind region
      = PriceIndex.ofBody (kind.path resources region) kind body := by
  unfold PriceIndex.ofBody
  cases decoded : decodeText? body with
  | none =>
    have there := FileTree.exists?_of_read? held
    have refused : readResource files (kind.path resources region) = .error
        (.parse (Path.compressed (kind.path resources region)) "not a compressed text") := by
      simp only [readResource, there, if_true, held, Option.bind_some, Gzip.unpack?_pack, decoded]
    simp only [PriceIndex.load, refused]
    rfl
  | some text =>
    have unpacked : (Gzip.unpack? (Gzip.pack body)).bind decodeText? = some text := by
      rw [Gzip.unpack?_pack, Option.bind_some, decoded]
    simp only [PriceIndex.load, readResource_compressed held unpacked, bind, Except.bind]
    cases (Json.parse? text).bind OfferDocument.ofJson? <;> rfl

/-- A text that is encoded is read as it is. -/
theorem Json.parseBytes?_encodeText (s : String) :
    Json.parseBytes? (encodeText s) = Json.parse? s := by
  rw [Json.parseBytes?, decodeText?_encodeText]
  rfl

/-- A byte that encodes nothing spoils the string it stands in, and the document only if the string
is asked for. -/
example :
    let bytes := encodeText "\x7b\"a\":\"" ++ 0xff :: encodeText "\",\"b\":\"c\"\x7d"
    decodeText? bytes = none
      ∧ ((Json.parseBytes? bytes).bind (Json.fields? ["b"])).map (·.map (·.bind Json.asText?))
        = some [some "c"]
      ∧ ((Json.parseBytes? bytes).bind (Json.fields? ["a"])).map (·.map (·.bind Json.asText?))
        = some [none] := by decide +kernel

namespace Download

/-! ## Documents -/

/-- A document that the indexes offer for a region wanted. -/
structure Offering where
  region : Region
  kind : OfferKind
  address : String

/-- The file of a document. -/
def Offering.path (resources : String) (offering : Offering) : String :=
  Path.compressed (offering.kind.path resources offering.region)

/-- **What the indexes offer**: region by region, and price list by price list. -/
def offerings (indexes : List RegionIndex) (regions : List Region) : List Offering :=
  regions.flatMap fun region => indexes.filterMap fun index =>
    (index.addresses.get? region).map fun address => ⟨region, index.kind, address⟩

theorem plan_eq (resources : String) (indexes : List RegionIndex) (regions : List Region) :
    plan resources indexes regions
      = (offerings indexes regions).map fun offering =>
        ⟨offering.address, offering.path resources⟩ := by
  simp only [plan, offerings, List.map_flatMap, List.map_filterMap, Option.map_map]
  rfl

/-- A document that was served. -/
structure Document extends Offering where
  body : List UInt8

namespace Document

def request (base : String) (document : Document) : Request :=
  ⟨base ++ document.address, .ok document.body⟩

/-- The file of a document, with its content. -/
def file (resources : String) (document : Document) : String × List UInt8 :=
  (document.path resources, Gzip.pack document.body)

end Document

/-- **The requests for documents**, in order, the documents that were served and written, and what
comes of it: the paths of all documents, or the fault of the first one that is not served or
cannot be written. -/
inductive Downloads (base resources : String) (after : FileTree) (wanted : List Offering) :
    List Request → List Document → Except Fault (List String) → Prop
  | complete (fetched : List Document) (all : wanted = fetched.map (·.toOffering)) :
    Downloads base resources after wanted (fetched.map (·.request base)) fetched
      (.ok (fetched.map (·.path resources)))
  | refused (fetched : List Document) {offering : Offering} {later : List Offering} {fault : Fault}
    (split : wanted = fetched.map (·.toOffering) ++ offering :: later) :
    Downloads base resources after wanted
      (fetched.map (·.request base) ++ [⟨base ++ offering.address, .error fault⟩]) fetched
      (.error fault)
  | unwritable (fetched : List Document) (document : Document) {later : List Offering}
    (split : wanted = fetched.map (·.toOffering) ++ document.toOffering :: later)
    (failed : after.write? (document.path resources) (Gzip.pack document.body) = none) :
    Downloads base resources after wanted
      (fetched.map (·.request base) ++ [document.request base]) fetched
      (.error (.io ("cannot write " ++ document.path resources)))

namespace Downloads

variable {base resources : String} {after : FileTree} {wanted : List Offering}
  {requests : List Request} {fetched : List Document} {written : Except Fault (List String)}

/-- One more document in front of the others. -/
theorem cons (document : Document)
    (others : Downloads base resources after wanted requests fetched written) :
    Downloads base resources after (document.toOffering :: wanted)
      (document.request base :: requests) (document :: fetched)
      (written.map (document.path resources :: ·)) := by
  cases others with
  | complete _ all => exact .complete (document :: fetched) (by rw [all]; rfl)
  | refused _ split => exact .refused (document :: fetched) (by rw [split]; rfl)
  | unwritable _ last split failed =>
    exact .unwritable (document :: fetched) last (by rw [split]; rfl) failed

/-- What was fetched are the first ones of the documents wanted. -/
theorem isPrefix (downloads : Downloads base resources after wanted requests fetched written) :
    fetched.map (·.toOffering) <+: wanted := by
  cases downloads with
  | complete _ all => exact all ▸ List.prefix_rfl
  | refused _ split | unwritable _ _ split => exact split ▸ List.prefix_append _ _

end Downloads

/-- **Downloading documents**, one after the other. -/
theorem items_spec (server : Server σ) (base resources : String) (wanted : List Offering)
    {files : FileTree} (rooted : files.Rooted) (s : σ) :
    let outcome := items server base files s
      (wanted.map fun offering => ⟨offering.address, offering.path resources⟩)
    ∃ requests fetched, Asks server s requests outcome.server
      ∧ Downloads base resources outcome.files wanted requests fetched outcome.written
      ∧ files.Rewritten outcome.files (fetched.map (·.file resources)) := by
  induction wanted generalizing files s with
  | nil => exact ⟨[], [], .none s, .complete [] rfl, .nil files⟩
  | cons offering later ih =>
    simp only [List.map_cons, items]
    cases answered : get server (base ++ offering.address) s with
    | mk answer s' =>
      cases answer with
      | error fault =>
        exact ⟨_, [], .one answered, .refused [] rfl, .nil files⟩
      | ok body =>
        dsimp only
        cases written : files.write? (offering.path resources) (Gzip.pack body) with
        | none =>
          exact ⟨_, [], .one answered,
            .unwritable [] ⟨offering, body⟩ rfl written, .nil files⟩
        | some middle =>
          have wrote := FileTree.write?_spec rooted written
          have still : middle.Rooted := by
            rw [FileTree.Rooted, wrote.workingDirectory]
            exact rooted
          obtain ⟨requests, fetched, asks, downloads, rewritten⟩ := ih still s'
          dsimp only
          exact ⟨_, ⟨offering, body⟩ :: fetched, .next answered asks,
            downloads.cons ⟨offering, body⟩, .cons wrote rewritten⟩

/-! ## Files of their own -/

/-- A name with an ending is a name. -/
theorem plain_append {name ending : String} (whole : '/' ∉ name.toList)
    (endingWhole : '/' ∉ ending.toList) (long : 2 < ending.length) :
    Path.Plain (name ++ ending) := by
  have length : ending.length ≤ (name ++ ending).length := by
    rw [String.length_append]
    exact Nat.le_add_left ..
  have longer (short : String) (few : short.length ≤ 2) : name ++ ending ≠ short := by
    rintro rfl
    omega
  refine ⟨longer _ (by decide), longer _ (by decide), longer _ (by decide), ?_⟩
  rw [String.toList_append, List.mem_append, not_or]
  exact ⟨whole, endingWhole⟩

theorem plain_directory (kind : OfferKind) : Path.Plain kind.directory := by
  cases kind <;> exact ⟨by decide, by decide, by decide, by decide⟩

theorem directory_injective : Function.Injective OfferKind.directory := by
  intro a b same
  cases a <;> cases b
  all_goals first | rfl | exact absurd same (by decide)

/-- **Documents of different regions or price lists have different files**, if the names of the
regions have no slashes. -/
theorem not_sameFile (files : FileTree) (resources : String) {one other : Offering}
    (oneWhole : '/' ∉ one.region.toList) (otherWhole : '/' ∉ other.region.toList)
    (different : one.region ≠ other.region ∨ one.kind ≠ other.kind) :
    ¬files.SameFile (one.path resources) (other.path resources) := by
  intro same
  have plain (offering : Offering) (whole : '/' ∉ offering.region.toList) :
      Path.Plain (offering.region ++ ".json") := plain_append whole (by decide) (by decide)
  have compressed (offering : Offering) (whole : '/' ∉ offering.region.toList) :
      Path.Plain (Path.compressed (offering.region ++ ".json")) :=
    plain_append (plain offering whole).whole (by decide) (by decide)
  rw [Offering.path, Offering.path, OfferKind.path, OfferKind.path,
    Path.compressed_join _ (plain one oneWhole), Path.compressed_join _ (plain other otherWhole)]
    at same
  obtain ⟨kinds, names⟩ := files.eq_of_sameFile_join resources (plain_directory _)
    (plain_directory _) (compressed one oneWhole) (compressed other otherWhole) same
  rw [Path.compressed, Path.compressed, String.append_left_inj, String.append_left_inj] at names
  rcases different with regions | lists
  · exact regions names
  · exact lists (directory_injective kinds)

/-- No two documents offered are of one region and one price list, if no region is wanted twice. -/
theorem pairwise_offerings {indexes : List RegionIndex} {regions : List Region}
    (kinds : (indexes.map (·.kind)).Nodup) (distinct : regions.Nodup) :
    (offerings indexes regions).Pairwise fun one other =>
      one.region ≠ other.region ∨ one.kind ≠ other.kind := by
  have of_mem {region : Region} {offering : Offering}
      (mem : offering ∈ indexes.filterMap fun index =>
        (index.addresses.get? region).map fun address => ⟨region, index.kind, address⟩) :
      offering.region = region := by
    obtain ⟨index, -, offered⟩ := List.mem_filterMap.mp mem
    obtain ⟨address, -, rfl⟩ := Option.map_eq_some_iff.mp offered
    rfl
  rw [offerings, List.pairwise_flatMap]
  constructor
  · intro region _
    rw [List.pairwise_filterMap]
    refine (List.pairwise_map.mp kinds).imp fun different one first other second => .inr ?_
    obtain ⟨_, -, rfl⟩ := Option.map_eq_some_iff.mp first
    obtain ⟨_, -, rfl⟩ := Option.map_eq_some_iff.mp second
    exact different
  · refine distinct.imp fun different one first other second => .inl ?_
    rw [of_mem first, of_mem second]
    exact different

theorem mem_of_mem_offerings {indexes : List RegionIndex} {regions : List Region}
    {offering : Offering} (mem : offering ∈ offerings indexes regions) :
    offering.region ∈ regions := by
  obtain ⟨region, wanted, mem⟩ := List.mem_flatMap.mp mem
  obtain ⟨index, -, offered⟩ := List.mem_filterMap.mp mem
  obtain ⟨address, -, rfl⟩ := Option.map_eq_some_iff.mp offered
  exact wanted

/-! ## The whole download -/

/-- **How a download goes**: the requests, the documents written, and what comes of it. The request
for the index of price lists fails, or one of those for the indexes of regions, and nothing is
written; or all documents that the indexes offer are downloaded, as far as this goes. -/
inductive Course (base resources : String) (platform : Platform) (regions : List Region)
    (after : FileTree) : List Request → List Document → Except Fault (List String) → Prop
  | unoffered {first : Request} {fault : Fault} (asked : first.address = base ++ offerIndexPath)
    (refused : first.index "offers" "currentRegionIndexUrl" = .error fault) :
    Course base resources platform regions after [first] [] (.error fault)
  | unindexed {first : Request} {offers : OrderedMap String String} {others : List Request}
    {fault : Fault} (asked : first.address = base ++ offerIndexPath)
    (read : first.index "offers" "currentRegionIndexUrl" = .ok offers)
    (indexing : Indexing base offers platform.offers others (.error fault)) :
    Course base resources platform regions after (first :: others) [] (.error fault)
  | indexed {first : Request} {offers : OrderedMap String String} {others requests : List Request}
    {indexes : List RegionIndex} {fetched : List Document} {written : Except Fault (List String)}
    (asked : first.address = base ++ offerIndexPath)
    (read : first.index "offers" "currentRegionIndexUrl" = .ok offers)
    (indexing : Indexing base offers platform.offers others (.ok indexes))
    (downloads : Downloads base resources after (offerings indexes regions) requests fetched
      written) :
    Course base resources platform regions after (first :: (others ++ requests)) fetched written

/-- A document whose file no later one has. -/
def Stays (files : FileTree) (resources : String) (fetched : List Document)
    (document : Document) : Prop :=
  ∃ earlier later, fetched = earlier ++ document :: later
    ∧ ∀ other ∈ later, ¬files.SameFile (document.path resources) (other.path resources)

/-- **Regions of different names without slashes have their own files**, so every document stays. -/
theorem Course.stays {base resources : String} {platform : Platform} {regions : List Region}
    {after : FileTree} {requests : List Request} {fetched : List Document}
    {written : Except Fault (List String)}
    (course : Course base resources platform regions after requests fetched written)
    (files : FileTree) (distinct : regions.Nodup)
    (whole : ∀ region ∈ regions, '/' ∉ region.toList) {document : Document}
    (mem : document ∈ fetched) : Stays files resources fetched document := by
  cases course with
  | unoffered | unindexed => cases mem
  | @indexed first offers others requests indexes fetched written asked read indexing downloads =>
    have kinds : (indexes.map (·.kind)).Nodup := by
      rw [indexing.kinds]
      cases platform <;> decide
    have own := (pairwise_offerings kinds distinct).sublist downloads.isPrefix.sublist
    rw [List.pairwise_map] at own
    have ofRegion {other : Document} (mem : other ∈ fetched) : '/' ∉ other.region.toList := by
      apply whole
      apply mem_of_mem_offerings
      exact downloads.isPrefix.subset (List.mem_map_of_mem mem)
    obtain ⟨earlier, later, rfl⟩ := List.append_of_mem mem
    refine ⟨earlier, later, rfl, fun other behind => ?_⟩
    apply not_sameFile files resources (ofRegion mem)
    · exact ofRegion (List.mem_append_right _ (List.mem_cons_of_mem _ behind))
    · exact List.rel_of_pairwise_cons (List.pairwise_append.mp own).2.1 behind

/-- A document that stays is in its file. -/
theorem Stays.read? {files after : FileTree} {resources : String} {fetched : List Document}
    {document : Document} (stays : Stays files resources fetched document)
    (rewritten : files.Rewritten after (fetched.map (·.file resources))) :
    after.read? (document.path resources) = some (Gzip.pack document.body) := by
  obtain ⟨earlier, later, rfl, behind⟩ := stays
  apply rewritten.last (earlier.map (·.file resources)) (later.map (·.file resources))
  · rw [List.map_append, List.map_cons]
    rfl
  · intro file mem
    obtain ⟨other, later, rfl⟩ := List.mem_map.mp mem
    exact behind other later

/-- **A download from its first request to its end.** -/
theorem run_spec (server : Server σ) (address resources : String) (platform : Platform)
    (regions : List Region) {files : FileTree} (rooted : files.Rooted) (s : σ) :
    let outcome := run server address resources platform regions files s
    ∃ requests fetched, Asks server s requests outcome.server
      ∧ Course (baseAddress address) resources platform regions outcome.files requests fetched
        outcome.written
      ∧ files.Rewritten outcome.files (fetched.map (·.file resources)) := by
  obtain ⟨first, asked, read, asks⟩ := asks_getIndex server
    (baseAddress address ++ offerIndexPath) "offers" "currentRegionIndexUrl" s
  simp only [run, indexes, Asked.andThen]
  generalize getIndex server (baseAddress address ++ offerIndexPath) "offers"
    "currentRegionIndexUrl" s = answered at read asks ⊢
  obtain ⟨answer, s'⟩ := answered
  cases answer with
  | error fault => exact ⟨[first], [], asks, .unoffered asked read, .nil files⟩
  | ok offers =>
    obtain ⟨others, more, indexing⟩ := asks_regionIndexes server (baseAddress address) offers
      platform.offers s'
    dsimp only
    generalize Asked.each (regionIndex server (baseAddress address) offers) platform.offers s'
      = found at more indexing ⊢
    obtain ⟨answer, s''⟩ := found
    cases answer with
    | error fault =>
      exact ⟨first :: others, [], asks.append more, .unindexed asked read indexing, .nil files⟩
    | ok indexes =>
      obtain ⟨requests, fetched, last, downloads, rewritten⟩ := items_spec server
        (baseAddress address) resources (offerings indexes regions) rooted s''
      dsimp only
      rw [plan_eq]
      exact ⟨first :: (others ++ requests), fetched, (asks.append more).append last,
        .indexed asked read indexing downloads, rewritten⟩

/-- **What a download asks for, writes and leaves behind.** The server is asked for the index of
price lists, the index of each price list that the platform needs, and the documents that these
offer for the regions wanted, in this order and up to the first request that fails; no other address
is asked for. The documents served until then are written, and all other files are as before. A
document whose file no later one has is in its file, and catalogs loaded afterwards read it,
whatever was there. That is so for every document if no region is wanted twice and no name has a
slash. -/
theorem run_course (server : Server σ) (address resources : String) (platform : Platform)
    (regions : List Region) {files : FileTree} (rooted : files.Rooted) (s : σ) :
    let outcome := run server address resources platform regions files s
    ∃ requests fetched,
      Asks server s requests outcome.server
        ∧ (run server.noting address resources platform regions files (s, [])).server.2
          = requests.map (·.address)
        ∧ Course (baseAddress address) resources platform regions outcome.files requests fetched
          outcome.written
        ∧ files.Rewritten outcome.files (fetched.map (·.file resources))
        ∧ (∀ document, Stays files resources fetched document →
          (outcome.files.read? (document.path resources)).bind Gzip.unpack? = some document.body)
        ∧ (∀ region, ∃ index, PriceCatalog.load outcome.files resources region
            = PriceCatalog.ofIndexes region index (SurchargeTable.load outcome.files resources)
          ∧ ∀ document, Stays files resources fetched document → document.region = region →
            index document.kind = PriceIndex.ofBody (document.kind.path resources region)
              document.kind document.body)
        ∧ (regions.Nodup → (∀ region ∈ regions, '/' ∉ region.toList) →
          ∀ document ∈ fetched, Stays files resources fetched document) := by
  intro outcome
  obtain ⟨requests, fetched, noted, course, rewritten⟩ :=
    run_spec server.noting address resources platform regions rooted (s, [])
  obtain ⟨log, same⟩ := run_noting server address resources platform regions files s []
  obtain ⟨asks, addresses⟩ := noted.of_noting
  rw [same] at asks course rewritten
  have held {document : Document} (stays : Stays files resources fetched document) :
      outcome.files.read? (document.path resources) = some (Gzip.pack document.body) :=
    stays.read? rewritten
  refine ⟨requests, fetched, asks, addresses, course, rewritten, ?_, ?_, ?_⟩
  · intro document stays
    rw [held stays, Option.bind_some, Gzip.unpack?_pack]
  · intro region
    refine ⟨_, PriceCatalog.load_eq_ofIndexes _ resources region, ?_⟩
    rintro document stays rfl
    exact PriceIndex.load_of_read? (held stays)
  · intro distinct whole document mem
    exact course.stays files distinct whole mem

section Sample

/-- What an index says, letter by letter. -/
theorem exists_readIndex {letters : List Char} {member field : String}
    {entries : List (String × String)}
    (meant : (((Json.tokens letters).bind (Json.assemble .value [])).bind
      (addresses? member field)).map (·.toList) = some entries) (address : String) :
    ∃ found, readIndex address member field (encodeText (.ofList letters)) = .ok found
      ∧ found.toList = entries := by
  obtain ⟨found, read, same⟩ := Option.map_eq_some_iff.mp meant
  have parsed : (Json.parse? (.ofList letters)).bind (addresses? member field) = some found := by
    rw [Json.parse?, String.toList_ofList]
    exact read
  refine ⟨found, ?_, same⟩
  simp only [readIndex, Json.parseBytes?_encodeText, parsed]

/-- An index of one price list. -/
def sampleOffers : String :=
  "\x7b\"offers\": \x7b\"AmazonEC2\": \x7b\"currentRegionIndexUrl\": \"/regions\"\x7d\x7d\x7d"

/-- An index of a region under two names. -/
def sampleRegions : String :=
  "\x7b\"regions\": \x7b\"us-east-1\": \x7b\"currentVersionUrl\": \"/a\"\x7d,
    \"./us-east-1\": \x7b\"currentVersionUrl\": \"/b\"\x7d\x7d\x7d"

/-- A server with these indexes and two documents. -/
def mirror : Server Unit := fun address s =>
  if address = "http://mirror/offers/v1.0/aws/index.json" then
    (.ok ⟨200, encodeText sampleOffers⟩, s)
  else if address = "http://mirror/regions" then (.ok ⟨200, encodeText sampleRegions⟩, s)
  else if address = "http://mirror/a" then (.ok ⟨200, [65]⟩, s)
  else if address = "http://mirror/b" then (.ok ⟨200, [66]⟩, s)
  else (.ok ⟨404, []⟩, s)

theorem get_mirror_offers :
    get mirror ("http://mirror" ++ offerIndexPath) () = (.ok (encodeText sampleOffers), ()) := by
  rfl

theorem get_mirror_regions :
    get mirror ("http://mirror" ++ "/regions") () = (.ok (encodeText sampleRegions), ()) := by
  rfl

/-- The mirror has two documents for one price list. -/
theorem indexes_mirror : ∃ index : RegionIndex,
    indexes mirror "http://mirror" .databricks () = (.ok [index], ()) ∧ index.kind = .compute
      ∧ index.addresses.get? "us-east-1" = some "/a"
      ∧ index.addresses.get? "./us-east-1" = some "/b" := by
  obtain ⟨offers, read, named⟩ : ∃ found, readIndex ("http://mirror" ++ offerIndexPath) "offers"
      "currentRegionIndexUrl" (encodeText sampleOffers) = .ok found
      ∧ found.toList = [("AmazonEC2", "/regions")] := by
    unfold sampleOffers
    apply exists_readIndex
    decide +kernel
  obtain ⟨addresses, readRegions, entries⟩ : ∃ found, readIndex ("http://mirror" ++ "/regions")
      "regions" "currentVersionUrl" (encodeText sampleRegions) = .ok found
      ∧ found.toList = [("./us-east-1", "/b"), ("us-east-1", "/a")] := by
    unfold sampleRegions
    apply exists_readIndex
    decide +kernel
  have known : offers.get? OfferKind.compute.code = some "/regions" := by
    rw [OrderedMap.get?, named]
    decide
  refine ⟨⟨.compute, addresses⟩, ?_, rfl, ?_, ?_⟩
  · simp only [indexes, Platform.offers, Asked.each, regionIndex, getIndex, Asked.andThen,
      Asked.check, get_mirror_offers, read, known, get_mirror_regions,
      readRegions, Asked.answer]
  · rw [OrderedMap.get?, entries]
    decide
  · rw [OrderedMap.get?, entries]
    decide

/-- A tree with older files of a region, one plain and one that is no compressed text. -/
def outdated : FileTree :=
  ⟨.ofList [("compute", .directory), ("compute/us-east-1.json", .file [67]),
    ("compute/us-east-1.json.gz", .file [68])], []⟩

theorem run_course_mirror :
    outdated.Rooted
      ∧ (run mirror "http://mirror" "" .databricks ["us-east-1"] outdated ()).written
        = .ok ["compute/us-east-1.json.gz"]
      ∧ ∃ requests fetched,
        Course (baseAddress "http://mirror") "" .databricks ["us-east-1"]
            (run mirror "http://mirror" "" .databricks ["us-east-1"] outdated ()).files requests fetched
            (run mirror "http://mirror" "" .databricks ["us-east-1"] outdated ()).written
          ∧ ∀ document ∈ fetched,
            ((run mirror "http://mirror" "" .databricks ["us-east-1"] outdated ()).files.read?
              (document.path "")).bind Gzip.unpack? = some document.body := by
  have rooted : outdated.Rooted := by
    intro name mem
    cases mem
  obtain ⟨requests, fetched, -, -, course, -, held, -, stays⟩ :=
    run_course mirror "http://mirror" "" .databricks ["us-east-1"] rooted ()
  refine ⟨rooted, ?_, requests, fetched, course, fun document mem => ?_⟩
  · obtain ⟨index, found, kind, first, -⟩ := indexes_mirror
    have base : baseAddress "http://mirror" = "http://mirror" := by decide +kernel
    simp only [run, base, found, plan, List.flatMap_cons, List.flatMap_nil, List.filterMap_cons,
      List.filterMap_nil, first, kind, Option.map_some, List.append_nil]
    decide +kernel
  · exact held document (stays (by decide) (by decide) document mem)

/-- **Two names of one file**: what was served for the first one is overwritten by the second. -/
theorem run_sameFile :
    let outcome := run mirror "http://mirror" "" .databricks ["us-east-1", "./us-east-1"] .empty ()
    (∃ index, indexes mirror "http://mirror" .databricks () = (.ok [index], ()) ∧ index.kind = .compute
        ∧ index.addresses.get? "us-east-1" = some "/a"
        ∧ index.addresses.get? "./us-east-1" = some "/b")
      ∧ get mirror "http://mirror/a" () = (.ok [65], ())
      ∧ get mirror "http://mirror/b" () = (.ok [66], ())
      ∧ outcome.written = .ok ["compute/us-east-1.json.gz", "compute/./us-east-1.json.gz"]
      ∧ (outcome.files.read? "compute/us-east-1.json.gz").bind Gzip.unpack? = some [66] := by
  intro outcome
  obtain ⟨index, found, kind, first, second⟩ := indexes_mirror
  have ran : outcome = items mirror "http://mirror" .empty ()
      [⟨"/a", Path.compressed (OfferKind.compute.path "" "us-east-1")⟩,
        ⟨"/b", Path.compressed (OfferKind.compute.path "" "./us-east-1")⟩] := by
    have base : baseAddress "http://mirror" = "http://mirror" := by decide +kernel
    simp only [outcome, run, base, found, plan, List.flatMap_cons, List.flatMap_nil,
      List.filterMap_cons, List.filterMap_nil, first, second, kind, Option.map_some,
      List.append_nil, List.singleton_append]
  refine ⟨⟨index, found, kind, first, second⟩, rfl, rfl, ?_, ?_⟩
  · rw [ran]
    decide +kernel
  · rw [ran]
    decide +kernel

end Sample

end Download

end ClusterBilling
