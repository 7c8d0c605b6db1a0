import Mathlib
import ClusterBilling.Proofs.Json.Maps

/-!
# Fields that are written and read

A record that is written as an object with distinct names is read back field by field
(`fields?_record`), and a list of records as the list of what is read from each
(`asList?_map`). What a field is read from is a part of the value, so it can be kept if the value
can, one level further in (`kept_of_fields?`).

A whole number is kept for the number it stands for, not for how it is written: two literals of the
same whole number are both finite or neither (`literalFloat?_of_asNat?`).
-/

namespace ClusterBilling.Json

/-! ## Records -/

section Fields

variable {members wanted : List (String × Json)}

@[simp] theorem required?_some {α : Type} (read : Json → Option α) (value : Json) :
    required? read (some value) = read value := rfl

@[simp] theorem defaulted?_some {α : Type} (default : α) (read : Json → Option α) (value : Json) :
    defaulted? default read (some value) = read value := rfl

@[simp] theorem asText?_text (s : String) : asText? (text s) = some s := rfl

theorem asMembers?_record (members : List (String × Json)) :
    asMembers? (record members) = some members := by
  show (members.map fun member => (some member.1, member.2)).mapM _ = some members
  induction members with
  | nil => rfl
  | cons member rest ih =>
    rw [List.map_cons, List.mapM_cons, ih]
    rfl

/-- With distinct names, a name leads to its member alone. -/
theorem filter_eq_singleton (distinct : (members.map Prod.fst).Nodup) {member : String × Json}
    (mem : member ∈ members) : members.filter (·.1 == member.1) = [member] := by
  induction members with
  | nil => cases mem
  | cons first rest ih =>
    obtain ⟨new, others⟩ := List.nodup_cons.mp distinct
    rcases List.mem_cons.mp mem with rfl | later
    · have none : rest.filter (·.1 == member.1) = [] := by
        refine List.filter_eq_nil_iff.mpr fun other there same => new ?_
        rw [← eq_of_beq same]
        exact List.mem_map_of_mem there
      rw [List.filter_cons, if_pos (beq_self_eq_true member.1), none]
    · have apart : ¬ (first.1 == member.1) = true := by
        intro same
        apply new
        rw [eq_of_beq same]
        exact List.mem_map_of_mem later
      rw [List.filter_cons, if_neg apart, ih others later]

theorem selectFields?_eq (distinct : (members.map Prod.fst).Nodup)
    (part : ∀ member ∈ wanted, member ∈ members) :
    selectFields? (wanted.map Prod.fst) members
      = some (wanted.map fun member => some member.2) := by
  unfold selectFields?
  induction wanted with
  | nil => rfl
  | cons member rest ih =>
    have here := filter_eq_singleton distinct (part member List.mem_cons_self)
    rw [List.map_cons, List.mapM_cons, here, ih fun other mem => part other (.tail _ mem)]
    rfl

/-- **What is written field by field is read field by field.** -/
theorem fields?_record {names : List String} (named : members.map Prod.fst = names)
    (distinct : names.Nodup) :
    fields? names (record members) = some (members.map fun member => some member.2) := by
  subst named
  have select := selectFields?_eq distinct fun _ mem => mem
  show (asMembers? (record members)).bind (selectFields? (members.map Prod.fst)) = _
  rw [asMembers?_record, Option.bind_some, select]

end Fields

theorem asList?_map {α : Type} {read : Json → Option α} {write : α → Json} {all : List α}
    (reads : ∀ one ∈ all, read (write one) = some one) :
    asList? read (.array (all.map write)) = some all := by
  show (all.map write).mapM read = some all
  induction all with
  | nil => rfl
  | cons one rest ih =>
    rw [List.map_cons, List.mapM_cons, reads one List.mem_cons_self,
      ih fun other mem => reads other (.tail _ mem)]
    rfl

/-- What is found for all of some things was found for one of them. -/
theorem exists_of_mem_mapM {β γ : Type} {f : β → Option γ} {all : List β} {found : List γ}
    (given : all.mapM f = some found) {c : γ} (mem : c ∈ found) : ∃ b ∈ all, f b = some c := by
  rw [mapM_option_eq] at given
  split at given
  · cases given
    exact List.mem_filterMap.mp mem
  · cases given

/-- Every item of a list was read from an element. -/
theorem exists_of_mem_asList? {α : Type} {read : Json → Option α} {value : Json} {all : List α}
    (given : asList? read value = some all) {one : α} (mem : one ∈ all) :
    ∃ elements, value = .array elements ∧ ∃ element ∈ elements, read element = some one := by
  cases value with
  | array elements => exact ⟨elements, rfl, exists_of_mem_mapM given mem⟩
  | _ => cases given

/-- A member that is selected is a member. -/
theorem exists_of_selectFields? {names : List String} {members : List (String × Json)}
    {fields : List (Option Json)} (given : selectFields? names members = some fields)
    {field : Json} (mem : some field ∈ fields) : ∃ member ∈ members, member.2 = field := by
  obtain ⟨name, -, found⟩ := exists_of_mem_mapM given mem
  split at found
  · cases found
  · next member alone =>
    cases found
    have own : member ∈ members.filter (·.1 == name) := by
      rw [alone]
      exact List.mem_singleton_self _
    exact ⟨member, List.mem_of_mem_filter own, rfl⟩
  · cases found

/-! ## Keeping -/

theorem keptElements_iff (levels : Nat) (elements : List Json) :
    keptElements levels elements = true ↔ ∀ element ∈ elements, Kept levels element = true := by
  induction elements with
  | nil => simp [keptElements]
  | cons first rest ih => simp [keptElements, ih]

theorem keptMembers_iff (levels : Nat) (members : List (JsonText × Json)) :
    keptMembers levels members = true
      ↔ ∀ member ∈ members, member.1.isSome = true ∧ Kept levels member.2 = true := by
  induction members with
  | nil => simp [keptMembers]
  | cons first rest ih =>
    obtain ⟨name, value⟩ := first
    simp [keptMembers, ih, and_assoc]

theorem kept_array_iff (levels : Nat) (elements : List Json) :
    Kept levels (.array elements) = true
      ↔ 1 ≤ levels ∧ ∀ element ∈ elements, Kept (levels - 1) element = true := by
  rw [Kept, Bool.and_eq_true, decide_eq_true_eq, keptElements_iff]

theorem kept_record_iff (levels : Nat) (members : List (String × Json)) :
    Kept levels (record members) = true
      ↔ 1 ≤ levels ∧ ∀ member ∈ members, Kept (levels - 1) member.2 = true := by
  rw [record, Kept, Bool.and_eq_true, decide_eq_true_eq, keptMembers_iff, List.forall_mem_map]
  simp only [Option.isSome_some, true_and]

/-- A field of a value that can be kept can be kept, one level further in. -/
theorem kept_of_fields? {levels : Nat} {value field : Json} {names : List String}
    {fields : List (Option Json)} (kept : Kept levels value = true)
    (given : fields? names value = some fields) (mem : some field ∈ fields) :
    1 ≤ levels ∧ Kept (levels - 1) field = true := by
  cases value with
  | array elements =>
    obtain ⟨room, each⟩ := (kept_array_iff levels elements).mp kept
    simp only [fields?] at given
    split at given
    · cases given
      rcases List.mem_append.mp mem with element | filler
      · obtain ⟨other, there, same⟩ := List.mem_map.mp element
        cases same
        exact ⟨room, each field there⟩
      · cases List.eq_of_mem_replicate filler
    · cases given
  | object members =>
    rw [Kept, Bool.and_eq_true, decide_eq_true_eq, keptMembers_iff] at kept
    refine ⟨kept.1, ?_⟩
    simp only [fields?, Option.bind_eq_bind, Option.bind_eq_some_iff] at given
    obtain ⟨named, read, selected⟩ := given
    obtain ⟨member, there, rfl⟩ := exists_of_selectFields? selected mem
    obtain ⟨source, inside, same⟩ := exists_of_mem_mapM read there
    obtain ⟨name, -, rfl⟩ := Option.map_eq_some_iff.mp same
    exact (kept.2 source inside).2
  | _ => cases given

/-! ## Whole numbers -/

/-- Digits are none of the words for numbers. -/
theorem ofList_ne_of_isDigit {c : Char} (digit : c.isDigit = true) (rest : List Char)
    (word : String) (letters : word.toList.head?.any Char.isDigit = false) :
    String.ofList ((c :: rest).map Char.toLower) ≠ word := by
  rintro rfl
  have same : c.toLower = c := by
    have high : c.toNat ≤ 57 := by simpa using (Char.isDigit_iff_toNat.mp digit).2
    refine dif_neg fun upper => ?_
    have low : 65 ≤ c.toNat := by simpa using UInt32.le_iff_toNat_le.mp upper.1
    omega
  rw [String.toList_ofList, List.map_cons, List.head?_cons, same, Option.any_some, digit] at letters
  cases letters

/-- Digits alone are the number they stand for, whatever zeros they begin with. -/
theorem readFloat?_of_digits {literal : String} (filled : literal.toList ≠ [])
    (digits : ∀ c ∈ literal.toList, c.isDigit = true) :
    Decimal.readFloat? literal
      = some (Decimal.Scientific.toFloat ⟨Decimal.natOfDigits literal.toList, 0⟩) := by
  have whole : Decimal.readScientific literal.toList
      = some ⟨Decimal.natOfDigits literal.toList, 0⟩ := by
    have taken : literal.toList.takeWhile Char.isDigit = literal.toList :=
      List.takeWhile_eq_self_iff.mpr digits
    have left : literal.toList.dropWhile Char.isDigit = [] := List.dropWhile_eq_nil_iff.mpr digits
    simp [Decimal.readScientific, taken, left, filled, Decimal.readPower]
  unfold Decimal.readFloat?
  cases written : literal.toList with
  | nil => exact absurd written filled
  | cons c rest =>
    rw [written] at digits whole
    have digit := digits c List.mem_cons_self
    have unsigned : Decimal.takeSign (c :: rest) = (false, c :: rest) := by
      unfold Decimal.takeSign
      split
      · next sign => cases sign; exact absurd digit (by decide)
      · next sign => cases sign; exact absurd digit (by decide)
      · rfl
    rw [unsigned]
    dsimp only
    rw [if_neg, if_neg, whole]
    · rfl
    · exact ofList_ne_of_isDigit digit rest "nan" (by decide)
    · rw [Bool.or_eq_true, decide_eq_true_eq, decide_eq_true_eq, not_or]
      exact ⟨ofList_ne_of_isDigit digit rest "inf" (by decide),
        ofList_ne_of_isDigit digit rest "infinity" (by decide)⟩

/-- What is written for a whole number are digits that stand for it. -/
theorem toList_toString (n : Nat) :
    (toString n).toList ≠ [] ∧ (∀ c ∈ (toString n).toList, c.isDigit = true)
      ∧ Decimal.natOfDigits (toString n).toList = n := by
  have written : (toString n).toList = Nat.toDigits 10 n := Nat.toList_repr
  rw [written]
  refine ⟨List.ne_nil_of_length_pos Nat.length_toDigits_pos, fun c mem => ?_,
    Nat.ofDigitChars_ten_toDigits⟩
  exact Nat.isDigit_of_mem_toDigits (by decide) (by decide) mem

/-- A whole number is read from digits that stand for it, and it is below the bound. -/
theorem digits_of_asNat? {bound n : Nat} {literal : String}
    (given : asNat? bound (.number literal) = some n) :
    literal.toList ≠ [] ∧ (∀ c ∈ literal.toList, c.isDigit = true)
      ∧ Decimal.natOfDigits literal.toList = n ∧ n < bound := by
  simp only [asNat?] at given
  split at given
  · next digits =>
    rw [List.all_eq_true] at digits
    unfold Decimal.readNat? at given
    split at given
    · next rest signed =>
      have sign := digits '+' (by rw [signed]; exact List.mem_cons_self)
      exact absurd sign (by decide)
    · dsimp only at given
      split at given
      · cases given
      · next filled =>
        rw [Bool.or_eq_true, not_or, List.isEmpty_iff] at filled
        split at given
        · next below =>
          cases given
          exact ⟨filled.1, digits, rfl, below⟩
        · cases given
  · cases given

theorem lt_of_asNat? {bound n : Nat} {value : Json} (given : asNat? bound value = some n) :
    n < bound := by
  cases value with
  | number literal => exact (digits_of_asNat? given).2.2.2
  | _ => cases given

/-- **A whole number is finite or not, however it is written.** -/
theorem literalFloat?_of_asNat? {bound n : Nat} {literal : String}
    (given : asNat? bound (.number literal) = some n) :
    literalFloat? (toString n) = literalFloat? literal := by
  obtain ⟨filled, digits, value, -⟩ := digits_of_asNat? given
  obtain ⟨filled', digits', value'⟩ := toList_toString n
  rw [literalFloat?, literalFloat?, readFloat?_of_digits filled digits,
    readFloat?_of_digits filled' digits', value, value']

/-- A whole number below the bound is read back. -/
theorem asNat?_nat {bound n : Nat} (fits : n < bound) : asNat? bound (nat n) = some n := by
  have digits : (toString n).toList.all Char.isDigit = true :=
    List.all_eq_true.mpr (toList_toString n).2.1
  have read : Decimal.readNat? bound (toString n) = some n :=
    (Decimal.readNat?_repr bound n).trans (if_pos fits)
  rw [nat, asNat?, if_pos digits, read]

end ClusterBilling.Json
