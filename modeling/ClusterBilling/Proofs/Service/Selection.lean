import Mathlib
import ClusterBilling.Proofs.Text.Trimming
import ClusterBilling.Service.Selection

/-!
# Selections read back

A selection never names a cluster twice (`nodup_clusters`). Written out, clusters are set off by
bars and put in parentheses; what that text selects are the clusters again, each at its first place
(`clusters_text`), if each of them can be named in a selection at all: its name is not empty, has no
blanks around it and no bar in it. Parentheses within a name do no harm, since only the outer ones
are taken off.

Every text selects clusters of that kind (`nameable_of_mem_clusters`): those that it names between
its bars, in the order of their first places (`exists_setOff_clusters`). So reading a selection that
was read before and written out again changes nothing (`clusters_readBack`).
-/

namespace List

variable {α : Type} [BEq α] [LawfulBEq α]

theorem nodup_eraseDups (l : List α) : l.eraseDups.Nodup := by
  match l with
  | [] => exact nodup_nil
  | a :: rest =>
    rw [eraseDups_cons, nodup_cons, mem_eraseDups, mem_filter]
    refine ⟨fun mem => ?_, nodup_eraseDups _⟩
    rw [beq_self_eq_true] at mem
    exact Bool.false_ne_true mem.2
termination_by l.length
decreasing_by exact Nat.lt_succ_of_le (length_filter_le _ rest)

theorem Nodup.eraseDups_eq {l : List α} (distinct : l.Nodup) : l.eraseDups = l := by
  induction l with
  | nil => rfl
  | cons a rest ih =>
    obtain ⟨new, others⟩ := nodup_cons.mp distinct
    have kept : (rest.filter fun b => !b == a) = rest := by
      refine filter_eq_self.mpr fun b mem => ?_
      rw [Bool.not_eq_true', beq_eq_false_iff_ne]
      rintro rfl
      exact new mem
    rw [eraseDups_cons, kept, ih others]

/-- Duplicates are erased in the order of first places. -/
theorem pairwise_idxOf_eraseDups (l : List α) :
    l.eraseDups.Pairwise fun a b => l.idxOf a < l.idxOf b := by
  induction l using reverseRecOn with
  | nil => exact .nil
  | append_singleton l a ih =>
    have earlier : ∀ b ∈ l.eraseDups, (l ++ [a]).idxOf b = l.idxOf b := fun b mem =>
      idxOf_append_of_mem (mem_eraseDups.mp mem)
    have kept : l.eraseDups.Pairwise fun b c => (l ++ [a]).idxOf b < (l ++ [a]).idxOf c := by
      refine ih.imp_of_mem fun {b c} memB memC before => ?_
      rwa [earlier b memB, earlier c memC]
    rw [eraseDups_append]
    by_cases named : a ∈ l
    · have nothing : [a].removeAll l = [] := by simp [removeAll, named]
      rwa [nothing, eraseDups_nil, append_nil]
    · have last : [a].removeAll l = [a] := by simp [removeAll, named]
      rw [last, (nodup_singleton a).eraseDups_eq, pairwise_append]
      refine ⟨kept, pairwise_singleton _ a, fun b memB c memC => ?_⟩
      rw [mem_singleton.mp memC, earlier b memB, idxOf_append_of_notMem named]
      exact Nat.lt_add_right _ (idxOf_lt_length_of_mem (mem_eraseDups.mp memB))

theorem not_mem_of_mem_splitOn {separator : α} {l piece : List α}
    (mem : piece ∈ l.splitOn separator) : separator ∉ piece := by
  induction l generalizing piece with
  | nil =>
    rw [splitOn_nil, mem_singleton] at mem
    rw [mem]
    exact not_mem_nil
  | cons a rest ih =>
    obtain ⟨first, others, pieces⟩ := exists_cons_of_ne_nil (splitOn_ne_nil separator rest)
    rw [splitOn_cons_eq_if_modifyHead] at mem
    split at mem
    · obtain rfl | later := mem_cons.mp mem
      · exact not_mem_nil
      · exact ih later
    · next apart =>
      rw [pieces, modifyHead_cons, mem_cons] at mem
      obtain rfl | later := mem
      · rw [mem_cons, not_or]
        refine ⟨fun same => apart (beq_iff_eq.mpr same.symm), ih ?_⟩
        rw [pieces]
        exact mem_cons_self
      · refine ih ?_
        rw [pieces]
        exact mem_cons_of_mem first later

end List

namespace ClusterBilling.Selection

/-- The text that selects some clusters. -/
def text (ids : List ClusterId) : String := "(" ++ "|".intercalate ids ++ ")"

/-- **Whether a cluster can be named in a selection.** -/
structure Nameable (id : ClusterId) : Prop where
  filled : id ≠ ""
  trimmed : Text.trim id = id
  whole : '|' ∉ id.toList

theorem nodup_clusters (selection : String) : (clusters selection).Nodup :=
  List.nodup_eraseDups _

/-- What is in parentheses is not trimmed. -/
theorem trimChars_enclosed (inner : List Char) :
    Text.trimChars ('(' :: (inner ++ [')'])) = '(' :: (inner ++ [')']) := by
  have front : Text.trimFront ('(' :: (inner ++ [')'])) = '(' :: (inner ++ [')']) :=
    List.dropWhile_cons_of_neg (by decide)
  have back : (('(' :: inner) ++ [')']).rdropWhile Text.isBlank = ('(' :: inner) ++ [')'] :=
    List.rdropWhile_concat_neg _ _ _ (by decide)
  rw [Text.trimChars, front, Text.trimBackIf_eq]
  exact back

/-- Only the outer parentheses are taken off. -/
theorem enclosed?_enclosed (inner : List Char) :
    enclosed? ('(' :: (inner ++ [')'])) = some inner := by
  simp only [enclosed?, List.getLast?_concat, if_true, List.dropLast_concat]

/-- Names set off by bars are read back, as they were written. -/
theorem names_intercalate {ids : List ClusterId} (nameable : ∀ id ∈ ids, Nameable id)
    (some : ids ≠ []) : names (['|'].intercalate (ids.map String.toList)) = ids := by
  have whole : ∀ name ∈ ids.map String.toList, '|' ∉ name := by
    intro name mem
    obtain ⟨id, recorded, rfl⟩ := List.mem_map.mp mem
    exact (nameable id recorded).whole
  have apart : ids.map String.toList ≠ [] := fun none => some (List.map_eq_nil_iff.mp none)
  rw [names, List.splitOn_intercalate '|' whole apart, List.map_map]
  exact (List.map_congr_left fun id recorded => (nameable id recorded).trimmed).trans ids.map_id

/-- **The text that names some clusters selects them**, each once. -/
theorem clusters_text {ids : List ClusterId} (nameable : ∀ id ∈ ids, Nameable id) :
    clusters (text ids) = ids.eraseDups := by
  have chars : (text ids).toList = '(' :: (['|'].intercalate (ids.map String.toList) ++ [')']) := by
    simp [text, String.toList_intercalate]
  have read : clusters (text ids)
      = ((names (['|'].intercalate (ids.map String.toList))).filter fun name =>
        name != "").eraseDups := by
    rw [clusters, chars, trimChars_enclosed, enclosed?_enclosed, Option.getD_some]
  rw [read]
  by_cases none : ids = []
  · rw [none]
    rfl
  · rw [names_intercalate nameable none, List.filter_eq_self.mpr]
    exact fun id recorded => bne_iff_ne.mpr (nameable id recorded).filled

/-- **What stands inside a text:** all of it but one pair of parentheses around it, if there is
such a pair. -/
inductive Inside : String → String → Prop
  | enclosed (inner : String) : Inside ("(" ++ inner ++ ")") inner
  | bare {text : String} (unpaired : ∀ inner, text ≠ "(" ++ inner ++ ")") : Inside text text

/-- **The parts of a text** that are set off by bars. -/
structure SetOff (parts : List String) (text : String) : Prop where
  some : parts ≠ []
  whole : ∀ part ∈ parts, '|' ∉ part.toList
  joined : "|".intercalate parts = text

/-- **Clusters in the order in which they are named first**, each once. -/
structure FirstPlaces (names : List String) (ids : List ClusterId) : Prop where
  mem_iff : ∀ id, id ∈ ids ↔ id ∈ names
  inOrder : ids.Pairwise fun a b => names.idxOf a < names.idxOf b

theorem firstPlaces_eraseDups (names : List String) : FirstPlaces names names.eraseDups where
  mem_iff _ := List.mem_eraseDups
  inOrder := names.pairwise_idxOf_eraseDups

theorem enclosed?_eq_some_iff {cs inner : List Char} :
    enclosed? cs = some inner ↔ cs = '(' :: (inner ++ [')']) := by
  refine ⟨fun found => ?_, ?_⟩
  · revert found
    fun_cases enclosed? cs with
    | case1 rest closed =>
      obtain ⟨front, rfl⟩ := List.getLast?_eq_some_iff.mp closed
      rw [List.dropLast_concat, Option.some.injEq]
      rintro rfl
      rfl
    | case2 => exact nofun
    | case3 => exact nofun
  · rintro rfl
    exact enclosed?_enclosed inner

theorem inside_enclosed? (cs : List Char) :
    Inside (String.ofList cs) (String.ofList ((enclosed? cs).getD cs)) := by
  cases found : enclosed? cs with
  | some inner =>
    have whole : String.ofList cs = "(" ++ String.ofList inner ++ ")" := by
      rw [enclosed?_eq_some_iff.mp found]
      exact String.toList_injective (by simp)
    rw [whole]
    exact .enclosed _
  | none =>
    refine .bare fun inner whole => ?_
    have chars : cs = '(' :: (inner.toList ++ [')']) := by
      simpa using congrArg String.toList whole
    rw [enclosed?_eq_some_iff.mpr chars] at found
    cases found

theorem setOff_splitOn (text : String) : SetOff (Text.splitOn '|' text) text where
  some none := List.splitOn_ne_nil '|' text.toList (List.map_eq_nil_iff.mp none)
  whole part mem := by
    obtain ⟨piece, found, rfl⟩ := List.mem_map.mp mem
    rw [String.toList_ofList]
    exact List.not_mem_of_mem_splitOn found
  joined := by
    have chars : (Text.splitOn '|' text).map String.toList = text.toList.splitOn '|' := by
      simp [Text.splitOn, Function.comp_def]
    refine String.toList_injective ?_
    rw [String.toList_intercalate, chars]
    exact List.intercalate_splitOn '|'

theorem names_eq_trim_splitOn (text : String) :
    names text.toList = (Text.splitOn '|' text).map Text.trim := by
  simp [names, Text.splitOn, Text.trim, Function.comp_def]

/-- Between bars and without blanks around it, a name can be named again. -/
theorem nameable_trim {part : String} (whole : '|' ∉ part.toList) (filled : Text.trim part ≠ "") :
    Nameable (Text.trim part) where
  filled := filled
  trimmed := Text.trim_trim part
  whole mem := by
    rw [Text.trim, String.toList_ofList] at mem
    exact whole (Text.mem_of_mem_trimChars mem)

/-- **The clusters of a selection** are those named between the bars inside it. -/
theorem exists_setOff_clusters (selection : String) :
    ∃ inner parts, Inside (Text.trim selection) inner ∧ SetOff parts inner ∧
      clusters selection = ((parts.map Text.trim).filter fun name => name != "").eraseDups := by
  let text := Text.trimChars selection.toList
  let inner := String.ofList ((enclosed? text).getD text)
  refine ⟨inner, Text.splitOn '|' inner, inside_enclosed? text, setOff_splitOn inner, ?_⟩
  rw [← names_eq_trim_splitOn, String.toList_ofList]
  rfl

theorem nameable_of_mem_clusters {selection : String} {id : ClusterId}
    (mem : id ∈ clusters selection) : Nameable id := by
  obtain ⟨_, parts, _, setOff, read⟩ := exists_setOff_clusters selection
  rw [read, List.mem_eraseDups, List.mem_filter, List.mem_map] at mem
  obtain ⟨⟨part, within, rfl⟩, filled⟩ := mem
  exact nameable_trim (setOff.whole part within) (bne_iff_ne.mp filled)

/-- **Reading a selection.** Its clusters are distinct and can all be named again. They are the
names between the bars of the text, or of what is in the parentheses around it: without the blanks
around them and without the empty ones, in the order in which they first occur. A list of distinct
clusters that can be named is what its own text selects, so that a selection that was read and
written out again selects what it did. -/
theorem clusters_readBack (selection : String) :
    (clusters selection).Nodup ∧
    (∀ id ∈ clusters selection, Nameable id) ∧
    (∃ inner parts, Inside (Text.trim selection) inner ∧ SetOff parts inner ∧
      FirstPlaces ((parts.map Text.trim).filter fun name => name != "") (clusters selection)) ∧
    (∀ ids : List ClusterId, ids.Nodup → (∀ id ∈ ids, Nameable id) →
      clusters (text ids) = ids) ∧
    clusters (text (clusters selection)) = clusters selection := by
  have written (ids : List ClusterId) (distinct : ids.Nodup) (nameable : ∀ id ∈ ids, Nameable id) :
      clusters (text ids) = ids := by
    rw [clusters_text nameable, distinct.eraseDups_eq]
  have named (id : ClusterId) (mem : id ∈ clusters selection) : Nameable id :=
    nameable_of_mem_clusters mem
  obtain ⟨inner, parts, inside, setOff, read⟩ := exists_setOff_clusters selection
  refine ⟨nodup_clusters selection, named, ⟨inner, parts, inside, setOff, ?_⟩, written,
    written _ (nodup_clusters selection) named⟩
  rw [read]
  exact firstPlaces_eraseDups _

/-- Names may have parentheses of their own. -/
example : clusters " ((a)| b (c) ||(a)) " = ["(a)", "b (c)"] := by decide +kernel

end ClusterBilling.Selection
