import Mathlib
import ClusterBilling.Text.Blank

/-!
# Trimming

Trimming a second time changes nothing (`trim_trim`). Blanks put at the end of a text are trimmed
away again (`trimChars_append`), so the trimmed pieces of a line are the same whether or not the
line itself has lost blanks at its end first (`trimmed_splitOn_append`).
-/

namespace ClusterBilling.Text

theorem trimBackIf_eq (drop : Char → Bool) (cs : List Char) :
    trimBackIf drop cs = cs.rdropWhile drop := rfl

/-- What trimming leaves does not begin with a blank. -/
theorem not_isBlank_head_trimFront {cs : List Char} (filled : trimFront cs ≠ []) :
    isBlank ((trimFront cs).head filled) = false :=
  List.head_dropWhile_not isBlank filled

/-- Trimming only takes off the blanks at the end once those in front are gone. -/
theorem trimChars_isPrefix_trimFront (cs : List Char) : trimChars cs <+: trimFront cs :=
  List.rdropWhile_prefix isBlank (trimFront cs)

theorem mem_of_mem_trimChars {cs : List Char} {c : Char} (mem : c ∈ trimChars cs) : c ∈ cs :=
  List.dropWhile_subset _ ((trimChars_isPrefix_trimFront cs).subset mem)

theorem trimChars_eq_nil_iff {cs : List Char} : trimChars cs = [] ↔ ∀ c ∈ cs, isBlank c := by
  rw [trimChars, trimBackIf_eq, List.rdropWhile_eq_nil_iff]
  refine ⟨fun blank => ?_, fun blank c mem => blank c (List.dropWhile_subset _ mem)⟩
  rw [← List.dropWhile_eq_nil_iff]
  show trimFront cs = []
  by_contra filled
  have first := not_isBlank_head_trimFront filled
  rw [blank _ (List.head_mem filled)] at first
  cases first

theorem trimChars_trimChars (cs : List Char) : trimChars (trimChars cs) = trimChars cs := by
  have kept : trimFront (trimChars cs) = trimChars cs := by
    refine List.dropWhile_eq_self_iff.mpr fun filled => ?_
    have nonempty : trimChars cs ≠ [] := List.ne_nil_of_length_pos filled
    rw [← List.head_eq_getElem nonempty, (trimChars_isPrefix_trimFront cs).head nonempty,
      not_isBlank_head_trimFront]
    exact Bool.false_ne_true
  rw [trimChars, kept]
  exact List.rdropWhile_idempotent isBlank (trimFront cs)

theorem trim_trim (s : String) : trim (trim s) = trim s := by
  simp only [trim, String.toList_ofList, trimChars_trimChars]

/-- Blanks at the end are trimmed away. -/
theorem trimChars_append (cs : List Char) {tail : List Char} (blank : ∀ c ∈ tail, isBlank c) :
    trimChars (cs ++ tail) = trimChars cs := by
  have back (front : List Char) :
      (front ++ tail).rdropWhile isBlank = front.rdropWhile isBlank := by
    simp only [List.rdropWhile, List.reverse_append]
    rw [List.dropWhile_append_of_pos fun c mem => blank c (List.mem_reverse.mp mem)]
  simp only [trimChars, trimBackIf_eq, trimFront, List.dropWhile_append]
  split
  · next none => rw [List.isEmpty_iff.mp none, List.dropWhile_eq_nil_iff.mpr blank]
  · exact back _

/-- Without a separator in what is put at the end, only the last piece gets longer. -/
theorem forall₂_splitOn_append (separator : Char) (cs : List Char) {tail : List Char}
    (blank : ∀ c ∈ tail, isBlank c) (whole : separator ∉ tail) :
    List.Forall₂ (fun longer piece => ∃ blanks, (∀ c ∈ blanks, isBlank c) ∧
        longer = piece ++ blanks)
      ((cs ++ tail).splitOn separator) (cs.splitOn separator) := by
  simp only [List.splitOn_eq_splitOnP]
  induction cs with
  | nil =>
    have alone : tail.splitOnP (· == separator) = [tail] :=
      List.splitOnP_eq_singleton fun c mem => by
        rw [beq_eq_false_iff_ne]
        rintro rfl
        exact whole mem
    rw [List.nil_append, alone]
    exact .cons ⟨tail, blank, rfl⟩ .nil
  | cons c rest ih =>
    rw [List.cons_append, List.splitOnP_cons_eq_if_modifyHead,
      List.splitOnP_cons_eq_if_modifyHead]
    split
    · exact .cons ⟨[], nofun, rfl⟩ ih
    · generalize (rest ++ tail).splitOnP (· == separator) = longer at ih ⊢
      generalize rest.splitOnP (· == separator) = pieces at ih ⊢
      cases ih with
      | nil => exact .nil
      | cons first others =>
        obtain ⟨blanks, blank, longer⟩ := first
        exact .cons ⟨blanks, blank, by rw [longer, List.cons_append]⟩ others

theorem trimmed_splitOn_append (separator : Char) (cs : List Char) {tail : List Char}
    (blank : ∀ c ∈ tail, isBlank c) (whole : separator ∉ tail) :
    ((cs ++ tail).splitOn separator).map trimChars = (cs.splitOn separator).map trimChars := by
  have pieces := forall₂_splitOn_append separator cs blank whole
  generalize (cs ++ tail).splitOn separator = longer at pieces ⊢
  generalize cs.splitOn separator = short at pieces ⊢
  induction pieces with
  | nil => rfl
  | cons first _ ih =>
    obtain ⟨blanks, blank, rfl⟩ := first
    rw [List.map_cons, List.map_cons, trimChars_append _ blank, ih]

end ClusterBilling.Text
