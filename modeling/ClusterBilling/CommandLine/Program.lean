import ClusterBilling.CommandLine.Settings
import ClusterBilling.Files.Document
import ClusterBilling.Inventory.Recording
import ClusterBilling.PriceList.Download
import ClusterBilling.Report.Estimates
import ClusterBilling.Report.InstanceInfo
import ClusterBilling.Spot.Codec
import ClusterBilling.Spot.Recording

/-!
# The program

The program carries out a command line over the files, the clock and the server it finds. It
answers what it prints, or the fault that stopped it, and leaves the files changed by downloads. Of
several faults the first wins: the settings, then the window, then the inventory, then the spot
prices, then the price lists, then the clusters in their order.
-/

namespace ClusterBilling

open CommandLine

/-- What the program finds. -/
structure Surroundings (σ : Type) where
  files : FileTree
  /-- Where data belongs. -/
  dataDirectory : String
  now : Instant
  server : Server σ
  serverState : σ

namespace Program

/-- The name and version that the program shows. -/
def versionText : String := "clustercost 0.3.0\n"

/-- How the program is called. -/
def usageText : String :=
  "Usage: clustercost [OPTIONS] <COMMAND>\n\nCommands:\n  estimate\n  fetch-prices\n"
    ++ "  instance-info\n  help\n"

/-- The recorded spot prices to use, none where no file is given. -/
def spotRecording (files : FileTree) : Option String → Except Fault (SpotRecording Float)
  | some path => Document.load SpotRecording.ofJson? files path
  | none => .ok .empty

/-- The clusters to estimate: those selected, or all there are. -/
def clustersOf (inventory : InventoryRecording) : Option String → List ClusterId
  | some selection => Selection.clusters selection
  | none => inventory.clusterIds

/-- The report on estimates. -/
def estimatesReport (json : Bool) (estimates : List (ClusterEstimate Float)) : String :=
  let totals := Breakdown.sum (estimates.map ClusterEstimate.breakdown)
  if json then (Report.estimatesJson estimates totals).pretty
  else Report.estimatesText false estimates totals

/-- Estimates clusters of a recorded inventory. -/
def estimate (settings : Settings) (files : FileTree) (now : Instant)
    (options : EstimateOptions) : Except Fault String := do
  let window ← TimeWindow.ofTexts options.since options.stop
  let inventory ← Document.load InventoryRecording.ofJson? files options.inventory
  let spot ← spotRecording files options.spotPrices
  let clusters := clustersOf inventory options.clusters
  let service ← settings.service files (InventoryRecording.inventory id) spot.source
    (fun recording => (now, recording)) window
  let estimates ← (Asked.each service.estimate clusters (.start inventory ())).1
  return estimatesReport options.json estimates

/-- Tells what is known of a kind of machine. -/
def instanceInfo (settings : Settings) (files : FileTree) (kind : InstanceKind) (json : Bool) :
    Except Fault String := do
  let info := Report.InstanceInfo.ofCatalog (← settings.catalog files) kind
  return if json then info.toJson.pretty else info.text

/-- Downloads price lists. -/
def fetchPrices {σ : Type} (settings : Settings) (around : Surroundings σ)
    (regions : List String) : Except Fault String × FileTree :=
  let outcome := Download.run around.server Download.publicServer settings.resources
    settings.platform (Region.choose regions) around.files around.serverState
  (outcome.written.map fun paths =>
    "Wrote " ++ toString paths.length ++ " price lists to " ++ settings.resources, outcome.files)

/-- **Carries out a command line**: what is printed, and the files left. -/
def run {σ : Type} (around : Surroundings σ) (arguments : Arguments) :
    Except Fault String × FileTree :=
  match Settings.ofOptions around.dataDirectory arguments.engine with
  | .error fault => (.error fault, around.files)
  | .ok settings =>
    match arguments.command with
    | .estimate options => (estimate settings around.files around.now options, around.files)
    | .instanceInfo kind json => (instanceInfo settings around.files kind json, around.files)
    | .fetchPrices regions => fetchPrices settings around regions

/-- The plain files that a command may read. -/
def sources (settings : Settings) : Command → List String
  | .estimate options => options.inventory :: options.spotPrices.toList ++ prices
  | .instanceInfo _ _ => prices
  | .fetchPrices _ => []
where
  /-- The files behind the catalog. -/
  prices : List String :=
    let tables := SurchargeTable.directory settings.resources
    [OfferKind.compute.path settings.resources settings.region,
      OfferKind.service.path settings.resources settings.region,
      Path.join tables "rates.tsv", Path.join tables "units.tsv"]

/-- **All files that a command line may read**, plain and compressed. -/
def mayRead (dataDirectory : String) (arguments : Arguments) : List String :=
  match Settings.ofOptions dataDirectory arguments.engine with
  | .error _ => []
  | .ok settings =>
    (sources settings arguments.command).flatMap fun path => [Path.compressed path, path]

/-- What the program leaves behind. -/
structure Result where
  code : Nat
  output : String
  fault : Option Fault
  files : FileTree

/-- What the program answers to a command line that is not carried out. -/
def refused (files : FileTree) : Refusal → Result
  | .displayVersion => ⟨0, versionText, none, files⟩
  | .displayHelp => ⟨0, usageText, none, files⟩
  | _ => ⟨2, "", none, files⟩

/-- **The program** as called with some words: what it prints ends in a line feed, a fault ends
it with code 1 and a refusal with code 2. -/
def call {σ : Type} (around : Surroundings σ) (environment : Environment)
    (words : List String) : Result :=
  match Arguments.parse environment words with
  | .error refusal => refused around.files refusal
  | .ok arguments =>
    match run around arguments with
    | (.ok text, files) => ⟨0, text ++ "\n", none, files⟩
    | (.error fault, files) => ⟨1, "", some fault, files⟩

end Program

end ClusterBilling
