/-!
# Gates

A gate is passed by those who may be inside together: any number who share it, or one alone. It is
fair. Whoever comes while others wait, waits behind them, and when somebody leaves, those who have
waited longest are let in as far as they may be inside together.
-/

namespace ClusterBilling

/-- How a gate is passed. -/
inductive Access
  | shared
  | alone
deriving DecidableEq, Repr

/-- A visit to a gate, by somebody who has a number. -/
structure GateVisit where
  visitor : Nat
  access : Access
deriving DecidableEq, Repr

structure Gate where
  inside : List GateVisit
  /-- Those who wait, the one who has waited longest first. -/
  queue : List GateVisit
deriving DecidableEq, Repr

namespace Gate

/-- A gate nobody has come to. -/
def free : Gate := ⟨[], []⟩

instance : Inhabited Gate := ⟨free⟩

/-- Whether a visit goes together with those inside. -/
def suits (visit : GateVisit) (inside : List GateVisit) : Bool :=
  match visit.access with
  | .shared => inside.all fun other => other.access = .shared
  | .alone => inside.isEmpty

/-- Somebody comes: the gate then, and whether the visit has begun. -/
def arrive (gate : Gate) (visit : GateVisit) : Gate × Bool :=
  if gate.queue.isEmpty && suits visit gate.inside then
    ({ gate with inside := gate.inside ++ [visit] }, true)
  else ({ gate with queue := gate.queue ++ [visit] }, false)

/-- **Letting in** from a queue: the gate then, and those let in, in order. -/
def letIn (inside : List GateVisit) : List GateVisit → Gate × List Nat
  | [] => (⟨inside, []⟩, [])
  | visit :: rest =>
    if suits visit inside then
      let (gate, others) := letIn (inside ++ [visit]) rest
      (gate, visit.visitor :: others)
    else (⟨inside, visit :: rest⟩, [])

/-- Somebody leaves: the gate then, and those let in. -/
def leave (gate : Gate) (visitor : Nat) : Gate × List Nat :=
  letIn (gate.inside.filter fun visit => visit.visitor ≠ visitor) gate.queue

end Gate

end ClusterBilling
