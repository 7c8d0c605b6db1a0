/-!
# The arithmetic of amounts

Durations, prices and costs are reckoned with `+`, `*` and `/` alone, starting from decimal
constants and whole numbers. `Amount` is that signature, so that every rule of billing is
written once: the program runs it on binary floating point, in the order in which the rules
write their operations, and a law that needs exact addition reads the same rule over another
arithmetic. The class has no axioms; binary floating point would not meet any.
-/

namespace ClusterBilling

/-- The sum of whole numbers. -/
def natSum (ns : List Nat) : Nat := ns.foldr (· + ·) 0

/-- An arithmetic in which amounts are reckoned. -/
class Amount (α : Type) extends Add α, Mul α, Div α, OfScientific α where
  /-- A whole number as an amount, rounded where the arithmetic rounds. -/
  ofInt : Int → α
  /-- The sum of no amounts. -/
  emptySum : α

namespace Amount

variable {α : Type} [Amount α]

/-- The amount of nothing, from which running totals start. -/
def zero : α := 0.0

/-- The sum of a list, from left to right, beginning at the sum of no amounts. -/
def sum (amounts : List α) : α := amounts.foldl (· + ·) emptySum

end Amount

/-- **Binary floating point.** Its sum of no amounts is `-0.0`, the one number that leaves every
other unchanged when added. -/
instance : Amount Float where
  ofInt := Float.ofInt
  emptySum := -0.0

end ClusterBilling
