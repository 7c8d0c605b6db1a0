import ClusterBilling.Catalog.Store
import ClusterBilling.CommandLine.Arguments
import ClusterBilling.Service.CostService
import ClusterBilling.Time.Reader

/-!
# Settings

What the command line says of the engine, checked and completed: the directory of the price lists,
the region, the platform, the plan in its plain form and the attempts that fetching spot prices may
take. From the settings follow the catalog and the cost service.
-/

namespace ClusterBilling

open CommandLine

/-- The settings of the engine. -/
structure Settings where
  resources : String
  region : Region
  platform : Platform
  plan : ServicePlan
  retryAttempts : Nat
deriving DecidableEq, Repr

namespace Settings

/-- Where price lists are kept under the directory for data. -/
def standardResources (dataDirectory : String) : String :=
  Path.join (Path.join dataDirectory "clustercost") "resources"

/-- The settings where nothing is said. -/
def standard (dataDirectory : String) : Settings :=
  ⟨standardResources dataDirectory, EngineOptions.standardRegion, EngineOptions.standardPlatform,
    ServicePlan.standard, RetryPolicy.standard.maxAttempts⟩

/-- **The settings of a command line.** At least one attempt must be allowed, and the region must
have a name. -/
def ofOptions (dataDirectory : String) (options : EngineOptions) : Except Fault Settings :=
  let region := Text.trim options.region
  if options.retryAttempts = 0 then
    .error (.invalidArgument "--retry-attempts must be at least 1")
  else if region = "" then .error (.config "region must not be empty")
  else .ok {
    resources := options.resources.getD (standardResources dataDirectory)
    region := region
    platform := options.platform
    plan := .ofText options.plan
    retryAttempts := options.retryAttempts }

def retryPolicy (settings : Settings) : RetryPolicy := .withAttempts settings.retryAttempts

def catalogStore (settings : Settings) : CatalogStore := .start settings.resources

/-- The catalog of the region. -/
def catalog (settings : Settings) (files : FileTree) : Except Fault (PriceCatalog Float) :=
  (settings.catalogStore.catalogFor files settings.region).1

/-- **The cost service** over an inventory and a source of spot prices. -/
def service {ι σ : Type} (settings : Settings) (files : FileTree) (inventory : Inventory ι)
    (spot : SpotSource σ Float) (clock : ι → Instant × ι) (window : TimeWindow) :
    Except Fault (CostService ι σ Float) := do
  let catalog ← settings.catalog files
  return ⟨inventory, clock, ⟨catalog, spot, settings.retryPolicy⟩, settings.platform,
    settings.plan, window⟩

end Settings

namespace TimeWindow

/-- A time as people give it. -/
def timeOfText (text : String) : Except Fault Instant :=
  match Instant.readStrict? text with
  | some t => .ok t
  | none => .error (.invalidArgument
      ("Invalid timestamp '" ++ text ++ "', expected RFC 3339 or YYYY-MM-DD"))

/-- An end of a window as people give it. -/
def boundOfText : Option String → Except Fault (Option Instant)
  | none => .ok none
  | some text => (timeOfText text).map some

/-- **The window of two times**, which must not end before it begins. -/
def ofTexts (since stop : Option String) : Except Fault TimeWindow := do
  let start ← boundOfText since
  let stop ← boundOfText stop
  match start, stop with
  | some s, some e =>
    if e < s then
      throw (.invalidInterval
        ("--until " ++ e.displayText ++ " is before --since " ++ s.displayText))
    else return ⟨start, stop⟩
  | _, _ => return ⟨start, stop⟩

end TimeWindow

end ClusterBilling
