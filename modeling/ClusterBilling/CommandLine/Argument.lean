import ClusterBilling.Decimal.Reader
import ClusterBilling.Inventory.Names

/-!
# Arguments

The arguments of the program: what they are called, on which level they may be given, whether they
take a value, which variable of the environment stands in for them, and what their values mean. A
value is turned into a `Setting` when it is accepted; what cannot be one is refused.
-/

namespace ClusterBilling.CommandLine

/-- Why a command line is not carried out. -/
inductive Refusal
  /-- Help was asked for. -/
  | displayHelp
  /-- Nothing at all was given. -/
  | displayHelpOnMissingArgumentOrSubcommand
  /-- The version was asked for. -/
  | displayVersion
  | missingSubcommand
  | invalidSubcommand
  | unknownArgument
  /-- An option stands without its value, or a path is empty. -/
  | invalidValue
  /-- A value means nothing to its option. -/
  | valueValidation
  /-- A flag was given a value. -/
  | tooManyValues
  /-- An option was given twice on one level. -/
  | argumentConflict
  | missingRequiredArgument
deriving DecidableEq, Repr, Inhabited

/-- The commands of the program. -/
inductive Subcommand
  | estimate
  | fetchPrices
  | instanceInfo
deriving DecidableEq, Repr, Inhabited

namespace Subcommand

def all : List Subcommand := [estimate, fetchPrices, instanceInfo]

def name : Subcommand → String
  | estimate => "estimate"
  | fetchPrices => "fetch-prices"
  | instanceInfo => "instance-info"

def ofName? (name : String) : Option Subcommand := all.find? fun c => c.name == name

end Subcommand

/-- Where an argument stands: before the name of the command or behind it. -/
inductive Level
  | program
  | command (subcommand : Subcommand)
deriving DecidableEq, Repr

/-- The arguments there are. -/
inductive Argument
  | quiet
  | resources
  | region
  | platform
  | plan
  | retryAttempts
  | inventory
  | spotPrices
  | clusters
  | json
  | since
  | until
  | regions
  | kind
  | help
  | version
deriving DecidableEq, Repr, Inhabited

/-- A value that an argument was given. -/
inductive Setting
  | quiet
  | resources (path : String)
  | region (name : String)
  | platform (platform : Platform)
  | plan (name : String)
  | retryAttempts (count : Nat)
  | inventory (path : String)
  | spotPrices (path : String)
  | clusters (selection : String)
  | json
  | since (time : String)
  | until (time : String)
  | regionToFetch (name : String)
  | kind (name : String)
deriving DecidableEq, Repr

/-- What naming an argument does. -/
inductive Demand
  /-- It is enough. -/
  | nothing (setting : Setting)
  /-- It ends the reading of the command line. -/
  | stop (refusal : Refusal)
  /-- One value is to come. -/
  | value
  /-- Values are to come, as often as they do. -/
  | values
deriving DecidableEq, Repr

namespace Argument

/-- The name behind two hyphens. -/
def longName? : Argument → Option String
  | quiet => some "quiet"
  | resources => some "resources"
  | region => some "region"
  | platform => some "platform"
  | plan => some "plan"
  | retryAttempts => some "retry-attempts"
  | inventory => some "inventory"
  | spotPrices => some "spot-prices"
  | clusters => some "clusters"
  | json => some "json"
  | since => some "since"
  | Argument.until => some "until"
  | regions => none
  | kind => none
  | help => some "help"
  | version => some "version"

/-- The letter behind one hyphen. -/
def letter? : Argument → Option Char
  | quiet => some 'q'
  | inventory => some 'i'
  | clusters => some 'c'
  | help => some 'h'
  | version => some 'V'
  | _ => none

def demand : Argument → Demand
  | quiet => .nothing .quiet
  | json => .nothing .json
  | help => .stop .displayHelp
  | version => .stop .displayVersion
  | regions => .values
  | _ => .value

/-- The variable of the environment that stands in for an argument that is not given. -/
def environmentName? : Argument → Option String
  | resources => some "CLUSTERCOST_RESOURCES"
  | region => some "CLUSTERCOST_REGION"
  | platform => some "CLUSTERCOST_PLATFORM"
  | plan => some "CLUSTERCOST_PLAN"
  | _ => none

/-- A path, which may not be empty. -/
def path (text : String) : Except Refusal String :=
  if text.isEmpty then .error .invalidValue else .ok text

/-- Counts of attempts are below this bound. -/
def countBound : Nat := 4294967296

/-- A count: digits behind a sign that changes nothing, as of zero a minus sign does not. -/
def count (text : String) : Except Refusal Nat :=
  match text.toList with
  | '-' :: digits =>
    if !digits.isEmpty && digits.all (· == '0') then .ok 0 else .error .valueValidation
  | _ =>
    match Decimal.readNat? countBound text with
    | some n => .ok n
    | none => .error .valueValidation

/-- **The setting that a value of an argument means.** A flag takes none. -/
def read (a : Argument) (text : String) : Except Refusal Setting :=
  match a with
  | quiet | json | help | version => .error .tooManyValues
  | resources => (path text).map Setting.resources
  | region => .ok (.region text)
  | platform =>
    match Platform.ofText text with
    | .ok p => .ok (.platform p)
    | .error _ => .error .valueValidation
  | plan => .ok (.plan text)
  | retryAttempts => (count text).map Setting.retryAttempts
  | inventory => (path text).map Setting.inventory
  | spotPrices => (path text).map Setting.spotPrices
  | clusters => .ok (.clusters text)
  | since => .ok (.since text)
  | Argument.until => .ok (.until text)
  | regions => .ok (.regionToFetch text)
  | kind => .ok (.kind text)

/-- The arguments that may be given on every level. -/
def everywhere : List Argument := [quiet, resources, region, platform, plan, retryAttempts]

end Argument

namespace Level

/-- The options of a level. -/
def options : Level → List Argument
  | .program => Argument.everywhere ++ [.help, .version]
  | .command .estimate =>
    [.inventory, .spotPrices, .clusters, .json, .since, .until] ++ Argument.everywhere ++ [.help]
  | .command .fetchPrices => Argument.everywhere ++ [.help]
  | .command .instanceInfo => .json :: (Argument.everywhere ++ [.help])

/-- The argument given without a name. -/
def bare? : Level → Option Argument
  | .command .fetchPrices => some .regions
  | .command .instanceInfo => some .kind
  | _ => none

/-- The arguments that must be given. -/
def demanded : Level → List Argument
  | .command .estimate => [.inventory]
  | .command .instanceInfo => [.kind]
  | _ => []

/-- The option of a level with a long name. -/
def named? (level : Level) (name : String) : Option Argument :=
  level.options.find? fun a => a.longName? == some name

/-- The option of a level with a letter. -/
def lettered? (level : Level) (letter : Char) : Option Argument :=
  level.options.find? fun a => a.letter? == some letter

end Level

end ClusterBilling.CommandLine
