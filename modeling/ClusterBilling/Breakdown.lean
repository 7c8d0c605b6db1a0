import ClusterBilling.Arithmetic
import ClusterBilling.OrderedMap

/-!
# Cost breakdowns

A breakdown is a map from keys to amounts. A key is a role of a cluster and a category of cost,
joined by a point, and one further key holds the running total of everything added. Breakdowns
add up key by key. The amounts are of any arithmetic: in binary floating point the total is what
additions in their order make it, and only an exact arithmetic makes it the sum of the entries.
-/

namespace ClusterBilling

/-- What a cost is for. -/
inductive CostCategory
  /-- Machine time, at list price or at spot prices. -/
  | compute
  /-- The fee of the platform on top. -/
  | surcharge
  /-- Block storage, the root volume included. -/
  | storage
deriving DecidableEq, Repr, Inhabited

namespace CostCategory

def all : List CostCategory := [compute, surcharge, storage]

/-- The name of a category in keys. -/
def label : CostCategory → String
  | compute => "COMPUTE"
  | surcharge => "SURCHARGE"
  | storage => "STORAGE"

/-- The name of a category in records. -/
def name : CostCategory → String
  | compute => "Compute"
  | surcharge => "Surcharge"
  | storage => "Storage"

end CostCategory

/-- Amounts by key, in the order of the keys. -/
structure Breakdown (α : Type) where
  entries : OrderedMap String α

namespace Breakdown

variable {α : Type}

/-- The key of the running total. -/
def totalKey : String := "TOTAL"

/-- The roles every cluster has. -/
def defaultRoles : List String := ["MASTER", "CORE"]

/-- The key of a role and a category. -/
def key (role : String) (category : CostCategory) : String := role ++ "." ++ category.label

section Amounts

variable [Amount α]

/-- Nothing but a total of zero. -/
def start : Breakdown α := ⟨OrderedMap.empty.insert totalKey Amount.zero⟩

/-- Gives every category of a role an entry. -/
def ensureRole (b : Breakdown α) (role : String) : Breakdown α :=
  ⟨CostCategory.all.foldl (fun m category => m.insertNew (key role category) Amount.zero) b.entries⟩

/-- Every category of each role, at zero. -/
def ofRoles (roles : List String) : Breakdown α := roles.foldl ensureRole start

/-- **The empty answer** for a cluster that could not be billed. -/
def emptyCluster : Breakdown α := ofRoles defaultRoles

/-- Adds to the entry of a key. -/
def addAt (b : Breakdown α) (key : String) (amount : α) : Breakdown α :=
  ⟨b.entries.insert key (b.entries.getD key Amount.zero + amount)⟩

/-- **Books an amount** on a role's category and on the total. -/
def add (b : Breakdown α) (role : String) (category : CostCategory) (amount : α) : Breakdown α :=
  ((b.ensureRole role).addAt (key role category) amount).addAt totalKey amount

/-- The amount of a key, zero where there is none. -/
def get (b : Breakdown α) (key : String) : α := b.entries.getD key Amount.zero

def category (b : Breakdown α) (role : String) (category : CostCategory) : α :=
  b.get (key role category)

def total (b : Breakdown α) : α := b.get totalKey

/-- Adds every entry of another breakdown, in the order of its keys. -/
def merge (b other : Breakdown α) : Breakdown α :=
  other.entries.toList.foldl (fun b entry => b.addAt entry.1 entry.2) b

/-- **The sum of breakdowns**, over the union of their keys. -/
def sum (breakdowns : List (Breakdown α)) : Breakdown α := breakdowns.foldl merge start

instance : Add (Breakdown α) := ⟨merge⟩

/-- Breakdowns as they come, each added to those before. -/
def addUp (breakdowns : List (Breakdown α)) : Breakdown α := breakdowns.foldl (· + ·) start

/-- Given entries, with a total of zero if they have none. -/
def ofEntries (entries : OrderedMap String α) : Breakdown α :=
  ⟨entries.insertNew totalKey Amount.zero⟩

end Amounts

/-- The role of a key: what stands before its last point. -/
def roleOf? (key : String) : Option String :=
  match key.toList.reverse.dropWhile (· != '.') with
  | [] => none
  | _ :: before => some (String.ofList before.reverse)

/-- Keeps the first of equal neighbours. -/
def collapse : List String → List String
  | [] => []
  | [a] => [a]
  | a :: b :: rest => if a = b then collapse (b :: rest) else a :: collapse (b :: rest)

/-- The roles of the keys, in the order of the keys, neighbours that agree taken together. -/
def roles (b : Breakdown α) : List String := collapse (b.entries.keys.filterMap roleOf?)

end Breakdown

end ClusterBilling
