import ClusterBilling.Json.Record
import ClusterBilling.Proofs.OrderedMap

/-!
# Reading maps out of objects

An object that is read as a map gives the map of its members in written order, each with what is
read from its value (`asMap?_object`). The map is the same for every object that has the same
members of each name in the same order: how members of different names stand to each other does
not matter (`asMap?_congr`).
-/

namespace ClusterBilling

namespace Json

variable {α : Type} (read : Json → Option α)

/-- What a member gives a map: its name, with what is read from its value. -/
def keyed? (member : JsonText × Json) : Option (String × α) :=
  member.1.bind fun name => (read member.2).map fun value => (name, value)

theorem mapM_option_eq {β γ : Type} (f : β → Option γ) (all : List β) :
    all.mapM f = if ∀ b ∈ all, (f b).isSome then some (all.filterMap f) else none := by
  induction all with
  | nil => simp
  | cons b rest ih =>
    rw [List.mapM_cons, ih]
    cases given : f b with
    | none => simp [given]
    | some c => split <;> simp_all

theorem asMap?_object (members : List (JsonText × Json)) :
    asMap? read (.object members) = (members.mapM (keyed? read)).map OrderedMap.ofList := by
  have fused : members.mapM (keyed? read)
      = (members.mapM fun member : JsonText × Json =>
          member.1.map fun name => (name, member.2)).bind fun named =>
            named.mapM fun member : String × Json =>
              (read member.2).map fun value => (member.1, value) := by
    induction members with
    | nil => rfl
    | cons member rest ih =>
      obtain ⟨name, value⟩ := member
      rw [List.mapM_cons, List.mapM_cons, ih]
      cases name with
      | none => rfl
      | some name =>
        cases rest.mapM fun member : JsonText × Json => member.1.map fun name => (name, member.2)
          <;> cases given : read value <;> simp [keyed?, given]
  rw [fused, Option.map_eq_bind, Option.bind_assoc]
  rfl

/-- The same members of each name, in the same order. -/
def Alike (members others : List (JsonText × Json)) : Prop :=
  ∀ name, members.filter (·.1 = name) = others.filter (·.1 = name)

variable {members others : List (JsonText × Json)}

theorem Alike.mem_iff (alike : Alike members others) (member : JsonText × Json) :
    member ∈ members ↔ member ∈ others := by
  have filtered := alike member.1
  constructor <;> intro mem
  · have : member ∈ members.filter (·.1 = member.1) := List.mem_filter.mpr ⟨mem, by simp⟩
    exact List.mem_of_mem_filter (filtered ▸ this)
  · have : member ∈ others.filter (·.1 = member.1) := List.mem_filter.mpr ⟨mem, by simp⟩
    exact List.mem_of_mem_filter (filtered ▸ this)

/-- The entries of a key come from the members of that name. -/
theorem filter_filterMap_keyed? (key : String) (members : List (JsonText × Json)) :
    (members.filterMap (keyed? read)).filter (·.1 = key)
      = (members.filter (·.1 = some key)).filterMap (keyed? read) := by
  rw [List.filter_filterMap, List.filterMap_filter]
  refine List.filterMap_congr fun (name, value) _ => ?_
  cases name with
  | none => rfl
  | some name =>
    by_cases same : name = key <;> cases given : read value <;> simp [keyed?, given, same]

/-- **The order of names does not matter.** -/
theorem asMap?_congr (alike : Alike members others) :
    asMap? read (.object members) = asMap? read (.object others) := by
  have entries (key : String) : (members.filterMap (keyed? read)).filter (·.1 = key)
      = (others.filterMap (keyed? read)).filter (·.1 = key) := by
    rw [filter_filterMap_keyed?, filter_filterMap_keyed?, alike]
  rw [asMap?_object, asMap?_object, mapM_option_eq, mapM_option_eq]
  simp only [alike.mem_iff]
  split
  · exact congrArg some (OrderedMap.ofList_congr entries)
  · rfl

end Json

end ClusterBilling
