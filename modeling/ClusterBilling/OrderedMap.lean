/-!
# Ordered maps

An `OrderedMap` is a finite map kept as the list of its entries in ascending order of key, so
that what it prints, in which order, is part of the value itself. The law is that the list is
strictly ascending: it holds no key twice, and two maps that answer every `get?` alike have the
same list. Nothing here says how fast a look-up is.
-/

namespace ClusterBilling

universe u v

/-- A finite map, as the list of its entries in strictly ascending order of key. -/
structure OrderedMap (κ : Type u) (β : Type v) [Ord κ] where
  toList : List (κ × β)
  ascending : toList.Pairwise fun a b => compare a.1 b.1 = .lt

namespace OrderedMap

variable {κ : Type u} {β : Type v} [Ord κ]

/-- The map with no entry. -/
def empty : OrderedMap κ β := ⟨[], .nil⟩

instance : Inhabited (OrderedMap κ β) := ⟨empty⟩

def keys (m : OrderedMap κ β) : List κ := m.toList.map Prod.fst

def values (m : OrderedMap κ β) : List β := m.toList.map Prod.snd

def size (m : OrderedMap κ β) : Nat := m.toList.length

def isEmpty (m : OrderedMap κ β) : Bool := m.toList.isEmpty

/-- The value of the first entry whose key compares equal. -/
def find (key : κ) : List (κ × β) → Option β
  | [] => none
  | (k, v) :: rest => if compare key k = .eq then some v else find key rest

def get? (m : OrderedMap κ β) (key : κ) : Option β := find key m.toList

def getD (m : OrderedMap κ β) (key : κ) (default : β) : β := (m.get? key).getD default

def contains (m : OrderedMap κ β) (key : κ) : Bool := (m.get? key).isSome

/-- Puts an entry at its place in an ascending list; an entry of the same key gives way. -/
def place (key : κ) (value : β) : List (κ × β) → List (κ × β)
  | [] => [(key, value)]
  | (k, v) :: rest =>
    match compare key k with
    | .lt => (key, value) :: (k, v) :: rest
    | .eq => (key, value) :: rest
    | .gt => (k, v) :: place key value rest

theorem mem_place {key : κ} {value : β} {entry : κ × β} {entries : List (κ × β)} :
    entry ∈ place key value entries → entry = (key, value) ∨ entry ∈ entries := by
  induction entries with
  | nil => simp [place]
  | cons head rest ih =>
    obtain ⟨k, v⟩ := head
    simp only [place]
    split
    · simp
    · intro mem
      rcases List.mem_cons.mp mem with rfl | mem
      · exact .inl rfl
      · exact .inr (List.mem_cons_of_mem _ mem)
    · intro mem
      rcases List.mem_cons.mp mem with rfl | mem
      · exact .inr List.mem_cons_self
      · exact (ih mem).imp_right (List.mem_cons_of_mem _)

variable [Std.TransOrd κ] [Std.LawfulEqOrd κ]

theorem place_ascending (key : κ) (value : β) {entries : List (κ × β)}
    (ascending : entries.Pairwise fun a b => compare a.1 b.1 = .lt) :
    (place key value entries).Pairwise fun a b => compare a.1 b.1 = .lt := by
  induction entries with
  | nil => simp [place]
  | cons head rest ih =>
    obtain ⟨k, v⟩ := head
    obtain ⟨above, tail⟩ := List.pairwise_cons.mp ascending
    simp only [place]
    split
    next below =>
      refine List.pairwise_cons.mpr ⟨fun entry mem => ?_, ascending⟩
      rcases List.mem_cons.mp mem with rfl | mem
      · exact below
      · exact Std.TransCmp.lt_trans below (above entry mem)
    next same =>
      obtain rfl := Std.LawfulEqOrd.eq_of_compare same
      exact List.pairwise_cons.mpr ⟨above, tail⟩
    next beyond =>
      refine List.pairwise_cons.mpr ⟨fun entry mem => ?_, ih tail⟩
      rcases mem_place mem with rfl | mem
      · exact Std.OrientedCmp.gt_iff_lt.mp beyond
      · exact above entry mem

/-- Writes `value` under `key`, over any value that stood there. -/
def insert (m : OrderedMap κ β) (key : κ) (value : β) : OrderedMap κ β :=
  ⟨place key value m.toList, place_ascending key value m.ascending⟩

/-- Writes `value` under `key` unless the key is taken. -/
def insertNew (m : OrderedMap κ β) (key : κ) (value : β) : OrderedMap κ β :=
  if m.contains key then m else m.insert key value

/-- Writes the entries in order, so that the last one of a key stays. -/
def overlay (m : OrderedMap κ β) (entries : List (κ × β)) : OrderedMap κ β :=
  entries.foldl (fun m entry => m.insert entry.1 entry.2) m

/-- The map of the entries, the last one of each key. -/
def ofList (entries : List (κ × β)) : OrderedMap κ β := empty.overlay entries

/-- The entry of the least key. -/
def first? (m : OrderedMap κ β) : Option (κ × β) := m.toList.head?

/-- The entry of the greatest key. -/
def last? (m : OrderedMap κ β) : Option (κ × β) := m.toList.getLast?

omit [Std.TransOrd κ] in
theorem find_place [DecidableEq κ] (key other : κ) (value : β) (entries : List (κ × β)) :
    find other (place key value entries)
      = if other = key then some value else find other entries := by
  induction entries with
  | nil => by_cases same : other = key <;> simp [place, find, same]
  | cons head rest ih =>
    obtain ⟨k, v⟩ := head
    simp only [place]
    split
    next below =>
      by_cases same : other = key <;> simp [find, same]
    next equal =>
      obtain rfl := Std.LawfulEqOrd.eq_of_compare equal
      by_cases same : other = key <;> simp [find, same]
    next beyond =>
      by_cases same : other = key
      · subst same
        simp [find, beyond, ih]
      · simp only [find, ih, if_neg same]

/-- **Reading after a write.** The key written answers the new value, every other key what it
answered before. -/
theorem get?_insert [DecidableEq κ] (m : OrderedMap κ β) (key other : κ) (value : β) :
    (m.insert key value).get? other = if other = key then some value else m.get? other :=
  find_place key other value m.toList

end OrderedMap

end ClusterBilling
