import ClusterBilling.Fault

/-!
# Questions to the outside

A question is put to something with a state of its own, an inventory or a server, and is answered
or fails; either way the state moves on. Questions are put one after the other, and the first that
fails ends the sequence: those behind it are never put.
-/

namespace ClusterBilling

/-- A step of an outer state that succeeds or fails. -/
abbrev Asked (ι β : Type) := ι → Except Fault β × ι

namespace Asked

variable {ι β γ : Type}

/-- The answer that needs no question. -/
def answer (b : β) : Asked ι β := fun s => (.ok b, s)

/-- Puts a question that the answer to the first one gives rise to. -/
def andThen (first : Asked ι β) (next : β → Asked ι γ) : Asked ι γ := fun s =>
  match first s with
  | (.ok b, s) => next b s
  | (.error fault, s) => (.error fault, s)

/-- Looks at the answer, and may refuse it. -/
def check (ask : Asked ι β) (look : β → Except Fault γ) : Asked ι γ :=
  ask.andThen fun b s => (look b, s)

/-- Puts a question for each of some things, in order, and collects the answers. -/
def each (ask : β → Asked ι γ) : List β → Asked ι (List γ)
  | [] => answer []
  | b :: rest => (ask b).andThen fun c => (each ask rest).andThen fun cs => answer (c :: cs)

theorem andThen_ok {first : Asked ι β} {next : β → Asked ι γ} {s s' : ι} {b : β}
    (answered : first s = (.ok b, s')) : first.andThen next s = next b s' := by
  simp [andThen, answered]

theorem andThen_error {first : Asked ι β} {next : β → Asked ι γ} {s s' : ι} {fault : Fault}
    (failed : first s = (.error fault, s')) : first.andThen next s = (.error fault, s') := by
  simp [andThen, failed]

@[simp] theorem answer_andThen (b : β) (next : β → Asked ι γ) :
    (answer b : Asked ι β).andThen next = next b := rfl

@[simp] theorem andThen_answer (first : Asked ι β) : first.andThen answer = first := by
  funext s
  unfold andThen
  split <;> simp_all [answer]

theorem andThen_assoc {δ : Type} (first : Asked ι β) (next : β → Asked ι γ) (last : γ → Asked ι δ) :
    (first.andThen next).andThen last = first.andThen fun b => (next b).andThen last := by
  funext s
  cases answered : first s with
  | mk outcome s' => cases outcome <;> simp only [andThen, answered]

end Asked

end ClusterBilling
