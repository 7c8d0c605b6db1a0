import ClusterBilling.CommandLine.Reader
import ClusterBilling.PriceList.Regions
import ClusterBilling.Workload

/-!
# What a command line asks for

The settings of a command line, put together into one record. What is given behind the name of the
command goes before what is given in front of it, unless it comes from the environment and the
other does not. What is given nowhere has a default.
-/

namespace ClusterBilling.CommandLine

/-- How costs are reckoned, as far as the command line says. -/
structure EngineOptions where
  /-- Where the price lists are. -/
  resources : Option String
  region : String
  platform : Platform
  plan : String
  retryAttempts : Nat
deriving DecidableEq, Repr

/-- What to estimate. -/
structure EstimateOptions where
  inventory : String
  spotPrices : Option String
  clusters : Option String
  /-- Report for programs. -/
  json : Bool
  since : Option String
  /-- The end of the time asked for. -/
  stop : Option String
deriving DecidableEq, Repr

/-- What to do. -/
inductive Command
  | estimate (options : EstimateOptions)
  | fetchPrices (regions : List String)
  | instanceInfo (kind : String) (json : Bool)
deriving DecidableEq, Repr

/-- A command line. -/
structure Arguments where
  quiet : Bool
  engine : EngineOptions
  command : Command
deriving DecidableEq, Repr

/-- The setting of an argument on one level. -/
def settingOf? (given : List Given) (a : Argument) : Option Given :=
  given.find? fun g => g.argument == a

namespace Reading

/-- **The setting that counts** for an argument that may be given on both levels. -/
def setting? (r : Reading) (a : Argument) : Option Setting :=
  match settingOf? r.before a, settingOf? r.behind a with
  | some before, some behind =>
    if before.origin = .commandLine && behind.origin = .environment then some before.setting
    else some behind.setting
  | some before, none => some before.setting
  | none, some behind => some behind.setting
  | none, none => none

/-- The setting of an argument of the command. -/
def own? (r : Reading) (a : Argument) : Option Setting :=
  (settingOf? r.behind a).map Given.setting

end Reading

namespace Setting

/-- The text of a setting that is one. -/
def text? : Setting → Option String
  | .resources text | .region text | .plan text | .inventory text | .spotPrices text
  | .clusters text | .since text | .until text | .regionToFetch text | .kind text => some text
  | _ => none

end Setting

namespace EngineOptions

/-- The attempts where none are given. -/
def standardAttempts : Nat := 5

def standardRegion : Region := "us-east-1"

def standardPlatform : Platform := .emr

def ofReading (r : Reading) : EngineOptions where
  resources := (r.setting? .resources).bind Setting.text?
  region := ((r.setting? .region).bind Setting.text?).getD standardRegion
  platform := match r.setting? .platform with
    | some (.platform platform) => platform
    | _ => standardPlatform
  plan := ((r.setting? .plan).bind Setting.text?).getD ServicePlan.standard
  retryAttempts := match r.setting? .retryAttempts with
    | some (.retryAttempts count) => count
    | _ => standardAttempts

end EngineOptions

namespace Command

/-- The text of one of the command's own settings. -/
def text? (r : Reading) (a : Argument) : Option String := (r.own? a).bind Setting.text?

/-- The regions to fetch, all of them where none is named. -/
def regions (r : Reading) : List String :=
  let named := (r.behind.filter fun g => g.argument == .regions).filterMap fun g => g.setting.text?
  if named.isEmpty then [Region.wildcard] else named

def ofReading (r : Reading) : Command :=
  match r.subcommand with
  | .estimate => .estimate {
      inventory := (text? r .inventory).getD ""
      spotPrices := text? r .spotPrices
      clusters := text? r .clusters
      json := (r.own? .json).isSome
      since := text? r .since
      stop := text? r Argument.until }
  | .fetchPrices => .fetchPrices (regions r)
  | .instanceInfo => .instanceInfo ((text? r .kind).getD "") (r.own? .json).isSome

end Command

namespace Arguments

def ofReading (r : Reading) : Arguments :=
  ⟨(r.setting? .quiet).isSome, .ofReading r, .ofReading r⟩

/-- **The arguments of a command line** in an environment. -/
def parse (environment : Environment) (words : List String) : Except Refusal Arguments :=
  (read environment words).map ofReading

end Arguments

end ClusterBilling.CommandLine
