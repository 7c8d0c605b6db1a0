import ClusterBilling.Breakdown
import ClusterBilling.Proofs.OrderedMap

/-!
# Booking on breakdowns

A role and a category have a key of their own, whatever points a role contains, and no such key is
that of the total (`key_injective`, `key_ne_totalKey`). Booking an amount therefore changes two
entries, by that amount, and no other (`get_add`); the keys there are afterwards are those from
before, that of the total and all three of the role (`has_add`).
-/

namespace ClusterBilling

namespace Breakdown

/-! ## Keys -/

theorem toList_key (role : String) (category : CostCategory) :
    (key role category).toList = role.toList ++ '.' :: category.label.toList := by
  simp [key]

/-- **Keys tell roles and categories apart**: the label of a category has no point, so the last
point of a key ends the role. -/
theorem key_injective {role role' : String} {category category' : CostCategory}
    (same : key role category = key role' category') : role = role' ∧ category = category' := by
  have letters := congrArg (fun text : String => text.toList.reverse) same
  simp only [toList_key, List.reverse_append, List.reverse_cons] at letters
  cases category <;> cases category' <;>
    simp [CostCategory.label] at letters ⊢ <;> exact String.toList_inj.mp letters

theorem key_ne_totalKey (role : String) (category : CostCategory) :
    key role category ≠ totalKey := by
  intro same
  have letters := congrArg (fun text : String => text.toList.reverse) same
  simp only [toList_key, List.reverse_append, List.reverse_cons] at letters
  cases category <;> simp [CostCategory.label, totalKey] at letters

/-! ## Booking -/

variable {α : Type} [Amount α]

/-- Whether a breakdown has an entry for a key. -/
def has (b : Breakdown α) (key : String) : Prop := b.entries.contains key = true

omit [Amount α] in
theorem mem_keys_of_role {role other : String} :
    other ∈ CostCategory.all.map (key role) ↔ ∃ category, other = key role category := by
  constructor
  · intro mem
    obtain ⟨category, -, same⟩ := List.mem_map.mp mem
    exact ⟨category, same.symm⟩
  · rintro ⟨category, rfl⟩
    exact List.mem_map_of_mem (by cases category <;> simp [CostCategory.all])

/-- Room for a role leaves every amount as it is. -/
theorem get_ensureRole (b : Breakdown α) (role other : String) :
    (b.ensureRole role).get other = b.get other := by
  simp only [get, OrderedMap.getD, ensureRole, OrderedMap.get?_foldl_insertNew]
  split <;> simp

theorem has_ensureRole (b : Breakdown α) (role other : String) :
    (b.ensureRole role).has other ↔ (∃ category, other = key role category) ∨ b.has other := by
  rw [has, OrderedMap.contains_eq_isSome, ensureRole, OrderedMap.get?_foldl_insertNew,
    ← mem_keys_of_role]
  split
  · next own => simp [own]
  · next foreign => simp [foreign, has, OrderedMap.contains_eq_isSome]

theorem get_addAt (b : Breakdown α) (key other : String) (amount : α) :
    (b.addAt key amount).get other = if other = key then b.get key + amount else b.get other := by
  simp only [get, addAt, OrderedMap.getD, OrderedMap.get?_insert]
  split <;> rfl

theorem has_addAt (b : Breakdown α) (key other : String) (amount : α) :
    (b.addAt key amount).has other ↔ other = key ∨ b.has other := by
  simp only [has, OrderedMap.contains_eq_isSome, addAt, OrderedMap.get?_insert]
  split
  · next same => simp [same]
  · next differ => simp [differ]

/-- **An amount is booked on its role and category and on the total**, and nowhere else. -/
theorem get_add (b : Breakdown α) (role : String) (category : CostCategory) (amount : α)
    (other : String) :
    (b.add role category amount).get other
      = if other = totalKey ∨ other = key role category then b.get other + amount
        else b.get other := by
  simp only [add, get_addAt, get_ensureRole]
  by_cases total : other = totalKey
  · simp [total, (key_ne_totalKey role category).symm]
  · by_cases own : other = key role category <;> simp [own, key_ne_totalKey, total]

/-- **What has an entry after booking**: what had one before, the total and the role. -/
theorem has_add (b : Breakdown α) (role : String) (category : CostCategory) (amount : α)
    (other : String) :
    (b.add role category amount).has other
      ↔ other = totalKey ∨ (∃ category', other = key role category') ∨ b.has other := by
  simp only [add, has_addAt, has_ensureRole]
  exact ⟨fun cases => cases.imp_right fun own =>
      own.elim (fun same => .inl ⟨category, same⟩) id, Or.imp_right .inr⟩

/-- Where there is no entry the amount is nothing. -/
theorem get_of_not_has {b : Breakdown α} {key : String} (unknown : ¬ b.has key) :
    b.get key = Amount.zero := by
  have none : b.entries.get? key = none := by simpa [has, OrderedMap.contains] using unknown
  rw [get, OrderedMap.getD, none, Option.getD_none]

omit [Amount α] in
/-- The keys of a breakdown are those that have an entry. -/
theorem mem_keys {b : Breakdown α} {key : String} : key ∈ b.entries.keys ↔ b.has key := by
  rw [has, OrderedMap.contains_eq_isSome, Option.isSome_iff_exists]
  simp only [OrderedMap.get?_eq_some_iff, OrderedMap.keys, List.mem_map, Prod.exists,
    exists_and_right, exists_eq_right]

/-- **What has an entry in a sum**: what has one in either. -/
theorem has_merge (b other : Breakdown α) (key : String) :
    (b.merge other).has key ↔ b.has key ∨ other.has key := by
  rw [← mem_keys (b := other), merge, OrderedMap.keys]
  generalize other.entries.toList = entries
  induction entries generalizing b with
  | nil => simp
  | cons entry rest ih =>
    rw [List.foldl_cons, ih, has_addAt, List.map_cons, List.mem_cons]
    tauto

theorem has_start (other : String) : (start : Breakdown α).has other ↔ other = totalKey := by
  simp only [has, OrderedMap.contains_eq_isSome, start, OrderedMap.get?_insert]
  split
  · next same => simp [same]
  · next differ => simp [differ]

theorem get_start (other : String) : (start : Breakdown α).get other = Amount.zero := by
  simp only [get, start, OrderedMap.getD, OrderedMap.get?_insert]
  split <;> rfl

end Breakdown

end ClusterBilling
