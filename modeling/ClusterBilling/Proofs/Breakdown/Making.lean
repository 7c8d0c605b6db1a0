import ClusterBilling.Proofs.Breakdown

/-!
# The roles a breakdown was made with

A breakdown is made by giving roles room, by booking amounts and by adding up other breakdowns
(`Made`). **Its keys are that of the total and all three keys of every role it was made with**
(`Made.isFor`), whatever the roles are called, and no others. So a role that has one key has all of
them (`IsFor.whole`). This is what every operation preserves; amounts play no part in it.
-/

namespace ClusterBilling.Breakdown

variable {α : Type} [Amount α]

/-- Whether a breakdown has the keys that go with some roles. -/
def IsFor (b : Breakdown α) (roles : List String) : Prop :=
  ∀ other, b.has other ↔ other = totalKey ∨ ∃ role ∈ roles, ∃ category, other = key role category

/-- **Whether a breakdown is whole**: it has a total, and every category of each role that has
one. -/
structure Whole (b : Breakdown α) : Prop where
  total : b.has totalKey
  categories : ∀ role category category', b.has (key role category) → b.has (key role category')

theorem isFor_start : (start : Breakdown α).IsFor [] := by
  intro other
  simp [has_start]

namespace IsFor

variable {b other : Breakdown α} {roles roles' : List String}

theorem ensureRole (keys : b.IsFor roles) (role : String) :
    (b.ensureRole role).IsFor (roles ++ [role]) := by
  intro other
  rw [has_ensureRole, keys]
  simp only [List.mem_append, List.mem_singleton, or_and_right, exists_or, exists_eq_left]
  exact or_comm.trans or_assoc

theorem add (keys : b.IsFor roles) (role : String) (category : CostCategory) (amount : α) :
    (b.add role category amount).IsFor (roles ++ [role]) := by
  intro other
  have room := keys.ensureRole role other
  rw [has_ensureRole] at room
  rw [has_add, room]
  exact or_self_left

theorem merge (keys : b.IsFor roles) (keys' : other.IsFor roles') :
    (b.merge other).IsFor (roles ++ roles') := by
  intro key
  rw [has_merge, keys, keys']
  simp only [List.mem_append, or_and_right, exists_or]
  exact or_or_distrib_left.symm

theorem sum {parts : List (Breakdown α × List String)}
    (keys : ∀ part ∈ parts, part.1.IsFor part.2) :
    (Breakdown.sum (parts.map Prod.fst)).IsFor (parts.flatMap Prod.snd) := by
  suffices goesOn : ∀ (parts : List (Breakdown α × List String)) (b : Breakdown α)
      (roles : List String), b.IsFor roles → (∀ part ∈ parts, part.1.IsFor part.2) →
      ((parts.map Prod.fst).foldl Breakdown.merge b).IsFor (roles ++ parts.flatMap Prod.snd) from
    goesOn parts start [] isFor_start keys
  intro parts
  induction parts with
  | nil => intro b roles keys _; simpa using keys
  | cons part rest ih =>
    intro b roles keys others
    have first := keys.merge (others part List.mem_cons_self)
    have more := ih (b.merge part.1) (roles ++ part.2) first fun other mem =>
      others other (List.mem_cons_of_mem part mem)
    simpa using more

omit [Amount α] in
/-- A role that has one key has all of them. -/
theorem whole (keys : b.IsFor roles) : b.Whole where
  total := (keys _).mpr (.inl rfl)
  categories role category category' known := by
    rcases (keys _).mp known with total | ⟨role', given, _, same⟩
    · exact absurd total (key_ne_totalKey _ _)
    · obtain ⟨rfl, -⟩ := key_injective same
      exact (keys _).mpr (.inr ⟨role, given, category', rfl⟩)

end IsFor

/-- The empty answer is whole. -/
theorem whole_emptyCluster : (emptyCluster : Breakdown α).Whole :=
  ((isFor_start.ensureRole "MASTER").ensureRole "CORE").whole

/-- **The sum of whole breakdowns is whole.** -/
theorem whole_sum {breakdowns : List (Breakdown α)} (whole : ∀ b ∈ breakdowns, b.Whole) :
    (sum breakdowns).Whole := by
  suffices goesOn : ∀ (breakdowns : List (Breakdown α)) (b : Breakdown α), b.Whole →
      (∀ b ∈ breakdowns, b.Whole) → (breakdowns.foldl merge b).Whole from
    goesOn breakdowns start isFor_start.whole whole
  intro breakdowns
  induction breakdowns with
  | nil => exact fun _ whole _ => whole
  | cons first rest ih =>
    intro b own others
    refine ih _ ⟨(has_merge ..).mpr (.inl own.total), ?_⟩ fun other mem =>
      others other (List.mem_cons_of_mem first mem)
    intro role category category' known
    rw [has_merge] at known ⊢
    exact known.imp (own.categories role category category')
      ((others first List.mem_cons_self).categories role category category')

/-- **Whether a breakdown is made with some roles**, the latest one last. -/
inductive Made : Breakdown α → List String → Prop
  | start : Made .start []
  | ensureRole {b : Breakdown α} {roles : List String} (made : Made b roles) (role : String) :
    Made (b.ensureRole role) (roles ++ [role])
  | add {b : Breakdown α} {roles : List String} (made : Made b roles) (role : String)
    (category : CostCategory) (amount : α) : Made (b.add role category amount) (roles ++ [role])
  | merge {b other : Breakdown α} {roles roles' : List String} (made : Made b roles)
    (made' : Made other roles') : Made (b.merge other) (roles ++ roles')
  | sum {parts : List (Breakdown α × List String)} (made : ∀ part ∈ parts, Made part.1 part.2) :
    Made (.sum (parts.map Prod.fst)) (parts.flatMap Prod.snd)

/-- **A breakdown has the keys of the roles it was made with.** -/
theorem Made.isFor {b : Breakdown α} {roles : List String} (made : b.Made roles) :
    b.IsFor roles := by
  induction made with
  | start => exact isFor_start
  | ensureRole _ role keys => exact keys.ensureRole role
  | add _ role category amount keys => exact keys.add role category amount
  | merge _ _ keys keys' => exact keys.merge keys'
  | sum _ keys => exact IsFor.sum keys

end ClusterBilling.Breakdown
