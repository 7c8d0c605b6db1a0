import ClusterBilling.Proofs.Breakdown.Making
import ClusterBilling.Report.Estimates

/-!
# The roles a breakdown lists

A breakdown lists the roles of its keys in the order of the keys, and takes only neighbours that
agree together. **It lists the roles it was made with and no others** (`IsFor.mem_roles`). It lists
each of them once exactly if no key of another role stands between two keys of a role
(`IsFor.nodup_roles_iff`). The keys of a role differ behind its last point alone, so that is so
wherever **no role goes on from another with a point** (`IsFor.nodup_roles_of_apart`), and then the
totals of a category count every entry of it once (`IsFor.totals_perm`).

Roles that do go on from one another are listed too often (`roles_repeated`): `CORE.GPU` stands
between the computing time and the storage of `CORE`, and the totals count `CORE` twice.
-/

namespace ClusterBilling

/-! ## Texts -/

/-- Texts are in the order of their letters. -/
theorem compare_text_eq_lt {a b : String} : compare a b = .lt ↔ a.toList < b.toList :=
  compareOfLessAndEq_eq_lt.trans String.lt_iff

/-- What stands between two texts that begin alike begins so too. -/
theorem isPrefix_of_between {front low high between : List Char} (above : front ++ low < between)
    (below : between < front ++ high) : front <+: between := by
  induction front generalizing between with
  | nil => exact List.nil_prefix
  | cons letter rest ih =>
    cases between with
    | nil => cases above
    | cons first others =>
      rw [List.cons_append, List.cons_lt_cons_iff] at above below
      rcases above with before | ⟨rfl, above⟩
      · rcases below with behind | ⟨rfl, -⟩
        · exact absurd (lt_trans before behind) (lt_irrefl _)
        · exact absurd before (lt_irrefl _)
      · rcases below with behind | ⟨-, below⟩
        · exact absurd behind (lt_irrefl _)
        · exact List.cons_prefix_cons.mpr ⟨rfl, ih above below⟩

namespace Breakdown

theorem roleOf?_key (role : String) (category : CostCategory) :
    roleOf? (key role category) = some role := by
  unfold roleOf?
  rw [toList_key]
  cases category <;> simp [CostCategory.label]

/-! ## Neighbours taken together -/

theorem mem_collapse {role : String} (names : List String) :
    role ∈ collapse names ↔ role ∈ names := by
  fun_induction collapse names with
  | case1 => exact Iff.rfl
  | case2 a => exact Iff.rfl
  | case3 a rest ih => rw [ih]; simp
  | case4 a b rest differ ih => rw [List.mem_cons, List.mem_cons, ih]

/-- **Each name is left once exactly if none stood between two others of its kind.** -/
theorem nodup_collapse_iff (names : List String) :
    (collapse names).Nodup ↔ ∀ a b, [a, b, a].Sublist names → b = a := by
  fun_induction collapse names with
  | case1 => simp
  | case2 a => simp
  | case3 a rest ih =>
    rw [ih]
    constructor
    · intro once b c found
      rcases List.sublist_cons_iff.mp found with later | ⟨tail, same, later⟩
      · exact once b c later
      · -- The first name is the front of the three; the one behind it may stand in for it.
        obtain ⟨rfl, rfl⟩ : b = a ∧ [c, b] = tail := by simpa using same
        rcases List.sublist_cons_iff.mp later with later | ⟨_, same, _⟩
        · exact once b c (later.cons_cons b)
        · exact (List.cons.inj same).1
    · intro once b c found
      exact once b c (found.cons a)
  | case4 a b rest differ ih =>
    rw [List.nodup_cons, ih, mem_collapse]
    constructor
    · rintro ⟨new, once⟩ c d found
      rcases List.sublist_cons_iff.mp found with later | ⟨tail, same, later⟩
      · exact once c d later
      · obtain ⟨rfl, rfl⟩ : c = a ∧ [d, c] = tail := by simpa using same
        exact absurd (later.subset (by simp)) new
    · intro once
      refine ⟨fun again => ?_, fun c d found => once c d (found.cons a)⟩
      have later : a ∈ rest := (List.mem_cons.mp again).resolve_left differ
      have between : [a, b, a].Sublist (a :: b :: rest) :=
        ((List.singleton_sublist.mpr later).cons_cons b).cons_cons a
      exact differ (once a b between).symm

/-- Three results in a row come from three things in a row. -/
theorem exists_of_sublist_filterMap {β γ : Type} {f : β → Option γ} {x y z : γ} {l : List β}
    (found : [x, y, z].Sublist (l.filterMap f)) :
    ∃ a b c, [a, b, c].Sublist l ∧ f a = some x ∧ f b = some y ∧ f c = some z := by
  obtain ⟨chosen, sub, same⟩ := List.sublist_filterMap_iff.mp found
  obtain ⟨_, a, later, rfl, -, first, same⟩ := List.filterMap_eq_cons_iff.mp same.symm
  obtain ⟨_, b, later, rfl, -, second, same⟩ := List.filterMap_eq_cons_iff.mp same
  obtain ⟨_, c, later, rfl, -, third, -⟩ := List.filterMap_eq_cons_iff.mp same
  refine ⟨a, b, c, .trans ?_ sub, first, second, third⟩
  simp

/-! ## Roles of keys -/

section Keys

variable {α : Type} {b : Breakdown α} {given : List String}

theorem keys_ascending (b : Breakdown α) :
    b.entries.keys.Pairwise fun k k' => compare k k' = .lt :=
  List.pairwise_map.mpr b.entries.ascending

/-- Three keys in order are found in this order. -/
theorem sublist_keys {low between high : String} (first : b.has low) (second : b.has between)
    (third : b.has high) (above : compare low between = .lt)
    (below : compare between high = .lt) : [low, between, high].Sublist b.entries.keys := by
  have antisymm : Std.Antisymm fun k k' : String => compare k k' = .lt := ⟨fun k k' lt gt => by
    have loop := Std.TransCmp.lt_trans lt gt
    rw [Std.ReflOrd.compare_self] at loop
    cases loop⟩
  have ordered : [low, between, high].Pairwise fun k k' => compare k k' = .lt := by
    simp [above, below, Std.TransCmp.lt_trans above below]
  have distinct : [low, between, high].Nodup := ordered.imp fun lt same => by
    rw [same, Std.ReflOrd.compare_self] at lt
    cases lt
  refine List.sublist_of_subperm_of_pairwise (List.subperm_of_subset distinct ?_) ordered
    b.keys_ascending
  intro key mem
  simp only [List.mem_cons, List.not_mem_nil, or_false] at mem
  rcases mem with rfl | rfl | rfl
  · exact mem_keys.mpr first
  · exact mem_keys.mpr second
  · exact mem_keys.mpr third

namespace IsFor

/-- A key with a role is one of a role that was given. -/
theorem key_of_roleOf? (keys : b.IsFor given) {known role : String} (mem : known ∈ b.entries.keys)
    (own : roleOf? known = some role) : role ∈ given ∧ ∃ category, known = key role category := by
  rcases (keys known).mp (mem_keys.mp mem) with rfl | ⟨role', there, category, rfl⟩
  · cases own
  · rw [roleOf?_key] at own
    obtain rfl := Option.some.inj own
    exact ⟨there, category, rfl⟩

theorem has_key (keys : b.IsFor given) {role : String} (there : role ∈ given)
    (category : CostCategory) : b.has (key role category) :=
  (keys _).mpr (.inr ⟨role, there, category, rfl⟩)

/-- **A breakdown lists the roles it was made with** and no others. -/
theorem mem_roles (keys : b.IsFor given) (role : String) : role ∈ b.roles ↔ role ∈ given := by
  rw [roles, mem_collapse, List.mem_filterMap]
  constructor
  · rintro ⟨known, mem, own⟩
    exact (keys.key_of_roleOf? mem own).1
  · intro there
    exact ⟨_, mem_keys.mpr (keys.has_key there .compute), roleOf?_key ..⟩

end IsFor

/-- Whether a key of one role stands between two keys of another. -/
def StandsBetween (inner outer : String) : Prop :=
  ∃ low category high, compare (key outer low) (key inner category) = .lt
    ∧ compare (key inner category) (key outer high) = .lt

namespace IsFor

/-- **Each role is listed once exactly if none stands between the keys of another.** -/
theorem nodup_roles_iff (keys : b.IsFor given) :
    b.roles.Nodup
      ↔ ∀ outer ∈ given, ∀ inner ∈ given, StandsBetween inner outer → inner = outer := by
  rw [roles, nodup_collapse_iff]
  constructor
  · rintro once outer there inner there' ⟨low, category, high, above, below⟩
    refine once outer inner (List.sublist_filterMap_iff.mpr ⟨_, sublist_keys
      (keys.has_key there low) (keys.has_key there' category) (keys.has_key there high)
      above below, ?_⟩)
    simp [roleOf?_key]
  · intro apart outer inner found
    obtain ⟨low, between, high, sub, first, second, third⟩ := exists_of_sublist_filterMap found
    have mem := fun known inside => sub.subset (a := known) inside
    obtain ⟨there, category, rfl⟩ := keys.key_of_roleOf? (mem low (by simp)) first
    obtain ⟨there', category', rfl⟩ := keys.key_of_roleOf? (mem between (by simp)) second
    obtain ⟨-, category'', rfl⟩ := keys.key_of_roleOf? (mem high (by simp)) third
    have ordered := b.keys_ascending.sublist sub
    simp only [List.pairwise_cons, List.mem_cons, forall_eq_or_imp] at ordered
    exact apart outer there inner there' ⟨category, category', category'', ordered.1.1,
      ordered.2.1.1⟩

end IsFor

/-- Whether no role of some goes on from another with a point. -/
def Apart (given : List String) : Prop :=
  ∀ outer ∈ given, ∀ inner ∈ given, ¬ outer.toList ++ ['.'] <+: inner.toList

/-- What stands between the keys of a role goes on from it with a point. -/
theorem prefix_of_standsBetween {inner outer : String} (between : StandsBetween inner outer) :
    inner = outer ∨ outer.toList ++ ['.'] <+: inner.toList := by
  obtain ⟨low, category, high, above, below⟩ := between
  rw [compare_text_eq_lt] at above below
  rw [toList_key outer, List.append_cons] at above below
  have begins := isPrefix_of_between above below
  rw [toList_key, List.append_cons inner.toList] at begins
  rcases List.prefix_or_prefix_of_prefix begins (List.prefix_append _ category.label.toList) with
    shorter | longer
  · rcases List.prefix_concat_iff.mp shorter with same | shorter
    · exact .inl (String.toList_inj.mp (List.append_cancel_right same).symm)
    · exact .inr shorter
  · rcases List.prefix_concat_iff.mp longer with same | longer
    · exact .inl (String.toList_inj.mp (List.append_cancel_right same))
    · -- The rest of the outer role would have to end within a label.
      obtain ⟨rest, whole⟩ := longer
      rw [← whole, List.append_assoc, List.prefix_append_right_inj] at begins
      have point : '.' ∈ category.label.toList := begins.subset (by simp)
      exact absurd point (by cases category <;> decide)

namespace IsFor

/-- **Roles of which none goes on from another with a point are listed once.** -/
theorem nodup_roles_of_apart (keys : b.IsFor given) (apart : Apart given) : b.roles.Nodup := by
  refine keys.nodup_roles_iff.mpr fun outer there inner there' between => ?_
  rcases prefix_of_standsBetween between with same | begins
  · exact same
  · exact absurd begins (apart outer there inner there')

end IsFor

/-- The entries of a category. -/
def entriesOf (b : Breakdown α) (category : CostCategory) : List (String × α) :=
  b.entries.toList.filter fun entry =>
    (roleOf? entry.1).any fun role => decide (entry.1 = key role category)

variable [Amount α]

/-- An entry holds the amount of its key. -/
theorem mem_toList {known : String} {amount : α} :
    (known, amount) ∈ b.entries.toList ↔ b.has known ∧ b.get known = amount := by
  rw [← OrderedMap.get?_eq_some_iff, has, OrderedMap.contains_eq_isSome, get, OrderedMap.getD]
  cases b.entries.get? known <;> simp

/-- **The totals of a category count every entry once** if every role is listed once. -/
theorem IsFor.totals_perm (keys : b.IsFor given) (once : b.roles.Nodup) (category : CostCategory) :
    (b.roles.map fun role => (key role category, b.category role category)).Perm
      (b.entriesOf category) := by
  have distinct : (b.entriesOf category).Nodup := b.entries.nodup_toList.filter _
  have distinct' : (b.roles.map fun role => (key role category, b.category role category)).Nodup :=
    once.map fun role role' same => (key_injective (Prod.mk.inj same).1).1
  refine (List.perm_ext_iff_of_nodup distinct' distinct).mpr fun (known, amount) => ?_
  rw [List.mem_map, entriesOf, List.mem_filter, mem_toList]
  constructor
  · rintro ⟨role, listed, same⟩
    obtain ⟨rfl, rfl⟩ := Prod.mk.inj same
    refine ⟨⟨keys.has_key ((keys.mem_roles role).mp listed) category, rfl⟩, ?_⟩
    simp [roleOf?_key]
  · rintro ⟨⟨known', rfl⟩, own⟩
    obtain ⟨role, role_of, same⟩ : ∃ role, roleOf? known = some role
        ∧ known = key role category := by simpa [Option.any_eq_true] using own
    subst same
    have given := (keys.key_of_roleOf? (mem_keys.mpr known') role_of).1
    exact ⟨role, (keys.mem_roles role).mpr given, rfl⟩

end Keys

/-- **What can be said of the roles a breakdown lists**, and of totals over them. -/
structure ListsRoles (b : Breakdown Float) (given : List String) : Prop where
  mem : ∀ role, role ∈ b.roles ↔ role ∈ given
  once_iff : b.roles.Nodup
    ↔ ∀ outer ∈ given, ∀ inner ∈ given, StandsBetween inner outer → inner = outer
  once : Apart given → b.roles.Nodup
  /-- Where every role is listed once the totals sum up every entry once. -/
  totals : b.roles.Nodup → ∀ category, ∃ entries : List (String × Float),
    entries.Perm (b.entriesOf category)
      ∧ Report.categoryTotal b category = Amount.sum (entries.map Prod.snd)

/-- **A breakdown lists the roles it was made with**, each once if none goes on from another with a
point. -/
theorem Made.listsRoles {b : Breakdown Float} {given : List String} (made : b.Made given) :
    b.ListsRoles given where
  mem := made.isFor.mem_roles
  once_iff := made.isFor.nodup_roles_iff
  once := made.isFor.nodup_roles_of_apart
  totals once category := by
    refine ⟨_, made.isFor.totals_perm once category, ?_⟩
    rw [List.map_map]
    rfl

section Sample

/-- The default roles, added up with more of one of them. -/
def billedCore : Breakdown Float := emptyCluster.merge (start.add "CORE" .compute 1.5)

theorem listsRoles_billedCore :
    billedCore.Made ["MASTER", "CORE", "CORE"]
      ∧ billedCore.ListsRoles ["MASTER", "CORE", "CORE"] := by
  have made : billedCore.Made ["MASTER", "CORE", "CORE"] :=
    ((Made.start.ensureRole "MASTER").ensureRole "CORE").merge (Made.start.add "CORE" .compute 1.5)
  exact ⟨made, made.listsRoles⟩

example : billedCore.roles = ["CORE", "MASTER"] := by decide +kernel

/-- Computing time for a role, and for one that goes on from it with a point. -/
def nestedRoles : Breakdown Float := (start.add "CORE" .compute 10.0).add "CORE.GPU" .compute 5.0

/-- **A role is listed twice** where another goes on from it with a point, and the totals count its
entries twice: what was booked comes to 15 dollars, and the total of the category to 25. -/
theorem roles_repeated :
    nestedRoles.Made ["CORE", "CORE.GPU"] ∧ ¬ nestedRoles.roles.Nodup
      ∧ nestedRoles.entriesOf .compute = [("CORE.COMPUTE", 10.0), ("CORE.GPU.COMPUTE", 5.0)]
      ∧ nestedRoles.total = 15.0 ∧ Report.categoryTotal nestedRoles .compute = 25.0 := by
  have made : nestedRoles.Made ["CORE", "CORE.GPU"] :=
    (Made.start.add "CORE" .compute 10.0).add "CORE.GPU" .compute 5.0
  have listed : nestedRoles.roles = ["CORE", "CORE.GPU", "CORE"] := by decide +kernel
  refine ⟨made, ?_, ?_, ?_, ?_⟩
  · rw [listed]
    decide
  · decide +kernel
  · decide +kernel
  · decide +kernel

end Sample

end Breakdown

end ClusterBilling
