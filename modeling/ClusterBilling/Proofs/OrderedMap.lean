import Mathlib
import ClusterBilling.OrderedMap

/-!
# Looking things up in ordered maps

What a map answers after it was written to, and how its list of entries is known from its answers:
an entry stands in the list exactly when its key answers it (`get?_eq_some_iff`), two maps that
answer alike on some keys have the same entries with those keys, in the same order
(`filter_toList_eq`), and two that answer alike on all keys are the same (`eq_of_get?`). The first
entry from which something can be had is that of the least key
(`findSome?_toList_eq_some_iff`).
-/

namespace ClusterBilling

namespace OrderedMap

universe u v w

variable {κ : Type u} {β : Type v} [Ord κ]

/-- The last value that a list of entries has for a key. -/
def lastOf [DecidableEq κ] (key : κ) (entries : List (κ × β)) : Option β :=
  (entries.reverse.find? fun entry => decide (entry.1 = key)).map Prod.snd

@[simp] theorem get?_empty (key : κ) : (empty : OrderedMap κ β).get? key = none := rfl

theorem contains_eq_isSome (m : OrderedMap κ β) (key : κ) :
    m.contains key = (m.get? key).isSome := rfl

omit [Ord κ] in
/-- A key has a last value in a list of entries exactly when one of them is for it. -/
theorem isSome_lastOf [DecidableEq κ] (key : κ) (entries : List (κ × β)) :
    (lastOf key entries).isSome ↔ key ∈ entries.map Prod.fst := by
  simp [lastOf, Option.isSome_map]

theorem length_place {key : κ} {entries : List (κ × β)} (new : find key entries = none)
    (value : β) : (place key value entries).length = entries.length + 1 := by
  induction entries with
  | nil => rfl
  | cons head rest ih =>
    obtain ⟨k, v⟩ := head
    simp only [find] at new
    simp only [place]
    split at new
    · cases new
    · next other =>
      split
      · rfl
      · next same => exact absurd same other
      · exact congrArg (· + 1) (ih new)

variable [Std.TransOrd κ] [Std.LawfulEqOrd κ]

/-- A new key makes a map larger by one entry. -/
theorem size_insert {m : OrderedMap κ β} {key : κ} (new : m.get? key = none) (value : β) :
    (m.insert key value).size = m.size + 1 :=
  length_place new value

omit [Std.TransOrd κ] in
/-- **An entry stands in a map exactly when its key answers it.** -/
theorem get?_eq_some_iff (m : OrderedMap κ β) (key : κ) (value : β) :
    m.get? key = some value ↔ (key, value) ∈ m.toList := by
  obtain ⟨entries, ascending⟩ := m
  show find key entries = some value ↔ (key, value) ∈ entries
  induction entries with
  | nil => simp [find]
  | cons head rest ih =>
    obtain ⟨k, v⟩ := head
    obtain ⟨above, tail⟩ := List.pairwise_cons.mp ascending
    have later := ih tail
    cases order : compare key k with
    | eq =>
      obtain rfl := Std.LawfulEqOrd.eq_of_compare order
      have once : (key, value) ∉ rest := fun mem => by
        have smaller := above _ mem
        rw [order] at smaller
        cases smaller
      simp only [find, order, if_true, Option.some.injEq, List.mem_cons, Prod.mk.injEq, true_and,
        once, or_false]
      exact eq_comm
    | lt | gt =>
      have other : ¬ key = k := fun same => by
        rw [same, Std.ReflOrd.compare_self] at order
        cases order
      simp only [find, order, reduceCtorEq, if_false, List.mem_cons, Prod.mk.injEq, other,
        false_and, false_or, later]

/-- A key that is taken keeps its value. -/
theorem get?_insertNew [DecidableEq κ] (m : OrderedMap κ β) (key other : κ) (value : β) :
    (m.insertNew key value).get? other
      = if other = key then some ((m.get? key).getD value) else m.get? other := by
  unfold insertNew contains
  cases known : m.get? key with
  | none =>
    simp only [Option.isSome_none, Bool.false_eq_true, if_false, Option.getD_none]
    exact get?_insert m key other value
  | some old =>
    simp only [Option.isSome_some, if_true, Option.getD_some]
    split
    · next same => rw [same, known]
    · rfl

/-- **The first value of a key stays** when entries are written unless their key is taken. -/
theorem get?_foldl_insertNew_entries [DecidableEq κ] (m : OrderedMap κ β)
    (entries : List (κ × β)) (key : κ) :
    (entries.foldl (fun m entry => m.insertNew entry.1 entry.2) m).get? key
      = (m.get? key).or (entries.findSome? fun entry =>
          if entry.1 = key then some entry.2 else none) := by
  induction entries generalizing m with
  | nil => exact (Option.or_none ..).symm
  | cons entry rest ih =>
    rw [List.foldl_cons, ih, get?_insertNew, List.findSome?_cons]
    by_cases same : entry.1 = key
    · subst same
      cases m.get? entry.1 <;> simp
    · simp [same, Ne.symm same]

/-- Of several keys each one that is taken keeps its value, and the others get the new one. -/
theorem get?_foldl_insertNew [DecidableEq κ] {γ : Type} (m : OrderedMap κ β) (keyOf : γ → κ)
    (value : β) (all : List γ) (key : κ) :
    (all.foldl (fun m c => m.insertNew (keyOf c) value) m).get? key
      = if key ∈ all.map keyOf then some ((m.get? key).getD value) else m.get? key := by
  induction all generalizing m with
  | nil => rfl
  | cons c rest ih =>
    rw [List.foldl_cons, ih, get?_insertNew]
    by_cases first : key = keyOf c
    · simp [first]
    · simp [first]

/-- **The last of some entries written in order stays**; a key they do not have keeps its value. -/
theorem get?_overlay [DecidableEq κ] (m : OrderedMap κ β) (entries : List (κ × β)) (key : κ) :
    (m.overlay entries).get? key = (lastOf key entries).or (m.get? key) := by
  induction entries generalizing m with
  | nil => rfl
  | cons entry rest ih =>
    refine (ih (m.insert entry.1 entry.2)).trans ?_
    rw [get?_insert]
    simp only [lastOf, List.reverse_cons, List.find?_append, List.find?_singleton]
    cases rest.reverse.find? (fun entry => decide (entry.1 = key)) with
    | some later => rfl
    | none =>
      by_cases same : entry.1 = key
      · simp [same]
      · simp [same, Ne.symm same]

omit [Std.TransOrd κ] in
/-- No entry stands in a map twice. -/
theorem nodup_toList (m : OrderedMap κ β) : m.toList.Nodup := m.ascending.imp fun smaller same => by
  rw [same, Std.ReflOrd.compare_self] at smaller
  cases smaller

omit [Std.TransOrd κ] in
/-- How many keys have an entry with a property. -/
theorem ncard_keys (m : OrderedMap κ β) (p : κ × β → Bool) :
    {key | ∃ value, m.get? key = some value ∧ p (key, value)}.ncard = m.toList.countP p := by
  classical
  have keys : {key | ∃ value, m.get? key = some value ∧ p (key, value)}
      = ((m.toList.filter p).map Prod.fst).toFinset := by
    ext key
    simp [get?_eq_some_iff]
  have nodup : ((m.toList.filter p).map Prod.fst).Nodup :=
    List.pairwise_map.mpr ((m.ascending.filter p).imp fun smaller same => by
      rw [same, Std.ReflOrd.compare_self] at smaller
      cases smaller)
  rw [keys, Set.ncard_coe_finset, List.toFinset_card_of_nodup nodup, List.length_map,
    List.countP_eq_length_filter]

omit [Std.TransOrd κ] in
theorem size_eq_ncard (m : OrderedMap κ β) : m.size = {key | m.contains key}.ncard := by
  have all := m.ncard_keys fun _ => true
  simp only [and_true, List.countP_true, ← Option.isSome_iff_exists] at all
  exact all.symm

section FirstFound

variable {γ : Type w} {m : OrderedMap κ β} {f : κ × β → Option γ} {found : γ}

omit [Std.TransOrd κ] in
theorem exists_least_of_findSome?_toList (first : m.toList.findSome? f = some found) :
    ∃ key value, m.get? key = some value ∧ f (key, value) = some found ∧
      ∀ other rival, m.get? other = some rival → (f (other, rival)).isSome →
        (compare key other).isLE := by
  obtain ⟨before, ⟨key, value⟩, after, entries, gives, nothing⟩ :=
    List.findSome?_eq_some_iff.mp first
  refine ⟨key, value, (m.get?_eq_some_iff key value).mpr (by simp [entries]), gives, ?_⟩
  intro other rival known otherGives
  have mem := (m.get?_eq_some_iff other rival).mp known
  have ascending := m.ascending
  rw [entries] at mem ascending
  rcases List.mem_append.mp mem with early | late
  · rw [nothing _ early] at otherGives
    cases otherGives
  rcases List.mem_cons.mp late with same | later
  · cases same
    rw [Std.ReflOrd.compare_self]
    rfl
  · rw [(List.pairwise_cons.mp (List.pairwise_append.mp ascending).2.1).1 _ later]
    rfl

/-- **The first entry that gives something** is that of the least key that does. -/
theorem findSome?_toList_eq_some_iff :
    m.toList.findSome? f = some found ↔
      ∃ key value, m.get? key = some value ∧ f (key, value) = some found ∧
        ∀ other rival, m.get? other = some rival → (f (other, rival)).isSome →
          (compare key other).isLE := by
  refine ⟨exists_least_of_findSome?_toList, ?_⟩
  rintro ⟨key, value, known, gives, first⟩
  have any : (m.toList.findSome? f).isSome := List.findSome?_isSome_iff.mpr
    ⟨(key, value), (m.get?_eq_some_iff key value).mp known, by rw [gives]; rfl⟩
  obtain ⟨found', here⟩ := Option.isSome_iff_exists.mp any
  obtain ⟨key', value', known', gives', first'⟩ := exists_least_of_findSome?_toList here
  obtain rfl : key = key' := Std.LawfulEqOrd.eq_of_compare <|
    Std.OrientedCmp.isLE_antisymm (first key' value' known' (by rw [gives']; rfl))
      (first' key value known (by rw [gives]; rfl))
  obtain rfl : value = value' := Option.some.inj (known.symm.trans known')
  rw [here, ← gives, gives']

end FirstFound

/-- The entries of a map with certain keys are known from what those keys answer. -/
theorem filter_toList_eq {m n : OrderedMap κ β} (p : κ → Bool)
    (alike : ∀ key, p key → m.get? key = n.get? key) :
    m.toList.filter (fun entry => p entry.1) = n.toList.filter (fun entry => p entry.1) := by
  have irreflexive (a : κ × β) : ¬ compare a.1 a.1 = .lt := by
    rw [Std.ReflOrd.compare_self]
    exact nofun
  refine List.Perm.eq_of_pairwise (fun a b _ _ below above => ?_) (m.ascending.filter _)
    (n.ascending.filter _) ?_
  · exact absurd (Std.TransCmp.lt_trans below above) (irreflexive a)
  · refine (List.perm_ext_iff_of_nodup (m.nodup_toList.filter _) (n.nodup_toList.filter _)).mpr ?_
    intro (key, value)
    simp only [List.mem_filter]
    refine and_congr_left fun chosen => ?_
    rw [← get?_eq_some_iff, ← get?_eq_some_iff, alike key chosen]

omit [Std.TransOrd κ] in
/-- An entry may be looked at apart from those of the other keys. -/
theorem toList_perm_cons [DecidableEq κ] {m : OrderedMap κ β} {key : κ} {value : β}
    (known : m.get? key = some value) :
    m.toList.Perm ((key, value) :: m.toList.filter fun entry => entry.1 ≠ key) := by
  have others : ((key, value) :: m.toList.filter fun entry => entry.1 ≠ key).Nodup :=
    List.nodup_cons.mpr ⟨by simp, m.nodup_toList.filter _⟩
  refine (List.perm_ext_iff_of_nodup m.nodup_toList others).mpr fun (other, value') => ?_
  by_cases same : other = key
  · subst same
    simp [← get?_eq_some_iff, known, eq_comm]
  · simp [same]

omit [Std.TransOrd κ] in
/-- The values that stand under a key are the one that it answers. -/
theorem map_snd_filter_key [DecidableEq κ] (m : OrderedMap κ β) (key : κ) :
    (m.toList.filter fun entry => entry.1 = key).map Prod.snd = (m.get? key).toList := by
  cases known : m.get? key with
  | none =>
    have none : (m.toList.filter fun entry => entry.1 = key) = [] := by
      refine List.filter_eq_nil_iff.mpr fun entry mem same => ?_
      obtain rfl := of_decide_eq_true same
      rw [(m.get?_eq_some_iff entry.1 entry.2).mpr mem] at known
      cases known
    rw [none]
    rfl
  | some value =>
    have only := (toList_perm_cons known).filter fun entry => decide (entry.1 = key)
    have others : ((m.toList.filter fun entry => entry.1 ≠ key).filter
        fun entry => entry.1 = key) = [] := by
      simp [List.filter_filter]
    rw [List.filter_cons, if_pos (decide_eq_true rfl), others] at only
    rw [List.perm_singleton.mp only]
    rfl

/-- **Maps that answer alike are the same.** -/
theorem eq_of_get? {m n : OrderedMap κ β} (alike : ∀ key, m.get? key = n.get? key) : m = n := by
  have entries := filter_toList_eq (fun _ => true) fun key _ => alike key
  simp only [List.filter_true] at entries
  obtain ⟨_, _⟩ := m
  obtain ⟨_, _⟩ := n
  subst entries
  rfl

/-- Entries of different keys may change places. -/
theorem ofList_congr [DecidableEq κ] {entries others : List (κ × β)}
    (alike : ∀ key, entries.filter (·.1 = key) = others.filter (·.1 = key)) :
    ofList entries = ofList others := by
  have last (key : κ) (entries : List (κ × β)) :
      lastOf key entries = ((entries.filter (·.1 = key)).getLast?).map Prod.snd := by
    rw [lastOf, List.getLast?_filter]
  refine eq_of_get? fun key => ?_
  rw [ofList, ofList, get?_overlay, get?_overlay, last, last, alike]

end OrderedMap

end ClusterBilling
