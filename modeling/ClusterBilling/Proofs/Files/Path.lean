import Mathlib
import ClusterBilling.Proofs.Files.Writing

/-!
# Files under one directory

A path made by joining names to a directory has those names as its last components, whatever the
directory is (`exists_components_join`). So two files in directories under the same one are the
same file only if they and their directories have the same names (`eq_of_sameFile_join`).
-/

namespace ClusterBilling

namespace Path

/-- A text that names a file or a directory where it is. -/
structure Plain (name : String) : Prop where
  filled : name ≠ ""
  noPoint : name ≠ "."
  noPoints : name ≠ ".."
  whole : '/' ∉ name.toList

variable {directory name : String}

namespace Plain

theorem toList_ne_nil (plain : Plain name) : name.toList ≠ [] := fun none =>
  plain.filled (String.toList_eq_nil_iff.mp none)

theorem head?_ne (plain : Plain name) : name.toList.head? ≠ some '/' := fun slash =>
  plain.whole (List.mem_of_head? slash)

theorem getLast?_ne (plain : Plain name) : name.toList.getLast? ≠ some '/' := fun slash =>
  plain.whole (List.mem_of_getLast? slash)

theorem splitOn_eq (plain : Plain name) : name.toList.splitOn '/' = [name.toList] :=
  List.splitOn_eq_singleton plain.whole

theorem isAbsolute_eq (plain : Plain name) : isAbsolute name = false := by
  rw [isAbsolute, beq_eq_false_iff_ne]
  exact plain.head?_ne

end Plain

/-- Joining a name puts something in front of it that only the directory decides: nothing, or a text
that ends in a slash. -/
theorem exists_toList_join (base : String) :
    ∃ front, (front = [] ∨ ∃ before, front = before ++ ['/'])
      ∧ ∀ name, Plain name → (join base name).toList = front ++ name.toList := by
  by_cases none : base = ""
  · refine ⟨[], .inl rfl, fun name _ => ?_⟩
    simp [join, none]
  by_cases slash : base.toList.getLast? = some '/'
  · refine ⟨base.toList, .inr ?_, fun name plain => ?_⟩
    · exact ⟨_, (List.dropLast_append_getLast? _ slash).symm⟩
    · simp [join, plain.isAbsolute_eq, none, slash]
  · refine ⟨base.toList ++ ['/'], .inr ⟨_, rfl⟩, fun name plain => ?_⟩
    simp [join, plain.isAbsolute_eq, none, slash]

/-- A name joined to a path that ends in a name comes behind a slash. -/
theorem toList_join_join (base : String) (outer : Plain directory) (inner : Plain name) :
    (join (join base directory) name).toList
      = (join base directory).toList ++ '/' :: name.toList := by
  obtain ⟨front, -, joined⟩ := exists_toList_join base
  have ends : (join base directory).toList.getLast? = directory.toList.getLast? := by
    rw [joined directory outer, List.getLast?_append_of_ne_nil _ outer.toList_ne_nil]
  have filled : (join base directory).isEmpty = false := by
    have some := List.append_ne_nil_of_right_ne_nil front outer.toList_ne_nil
    rw [← joined directory outer, ne_eq, String.toList_eq_nil_iff] at some
    simpa using some
  have unslashed : ((join base directory).toList.getLast? == some '/') = false := by
    rw [ends, beq_eq_false_iff_ne]
    exact outer.getLast?_ne
  rw [join, inner.isAbsolute_eq, filled, unslashed]
  simp

/-- Names behind the last slashes of a path are its last components. -/
theorem components_of_splitOn {path : String} (first : List (List Char)) (outer : Plain directory)
    (inner : Plain name)
    (parts : path.toList.splitOn '/' = first ++ [directory.toList, name.toList]) :
    components path = (first.map String.ofList).filter (· != "") ++ [directory, name] := by
  have final : (some name == some "") = false := by
    rw [beq_eq_false_iff_ne]
    exact fun none => inner.filled (Option.some.inj none)
  have texts : (path.toList.splitOn '/').map String.ofList
      = first.map String.ofList ++ [directory, name] := by
    rw [parts, List.map_append, List.map_cons, List.map_singleton, String.ofList_toList,
      String.ofList_toList]
  simp only [components, texts, List.filter_append, List.getLast?_append, List.getLast?_cons_cons,
    List.getLast?_singleton, Option.some_or, final, Bool.false_eq_true, if_false, List.append_nil]
  simp [outer.filled, inner.filled]

/-- **The last components of a joined path** are the names joined; the components before them, and
where the path begins, hang on the directory alone. -/
theorem exists_components_join (base : String) :
    ∃ (absolute : Bool) (first : List String), ∀ directory name, Plain directory → Plain name →
      isAbsolute (join (join base directory) name) = absolute
        ∧ components (join (join base directory) name) = first ++ [directory, name] := by
  obtain ⟨front, shape, joined⟩ := exists_toList_join base
  have text (directory name : String) (outer : Plain directory) (inner : Plain name) :
      (join (join base directory) name).toList
        = front ++ (directory.toList ++ '/' :: name.toList) := by
    rw [toList_join_join base outer inner, joined directory outer, List.append_assoc]
  have names (directory name : String) (outer : Plain directory) (inner : Plain name) :
      (directory.toList ++ '/' :: name.toList).splitOn '/'
        = [directory.toList, name.toList] := by
    rw [List.splitOn_append_cons_self, outer.splitOn_eq, inner.splitOn_eq]
    rfl
  rcases shape with rfl | ⟨before, rfl⟩
  · refine ⟨false, [], fun directory name outer inner => ⟨?_, ?_⟩⟩
    · rw [isAbsolute, text directory name outer inner, List.nil_append, beq_eq_false_iff_ne,
        List.head?_append_of_ne_nil _ outer.toList_ne_nil]
      exact outer.head?_ne
    · refine components_of_splitOn [] outer inner ?_
      rw [text directory name outer inner, List.nil_append, names directory name outer inner]
      rfl
  · refine ⟨(before ++ ['/']).head? == some '/', ((before.splitOn '/').map String.ofList).filter
      (· != ""), fun directory name outer inner => ⟨?_, ?_⟩⟩
    · rw [isAbsolute, text directory name outer inner, List.head?_append_of_ne_nil _ (by simp)]
    · refine components_of_splitOn (before.splitOn '/') outer inner ?_
      rw [text directory name outer inner, List.append_assoc, List.singleton_append,
        List.splitOn_append_cons_self, names directory name outer inner]

/-- The compressed file beside a name under a directory is under it, too. -/
theorem compressed_join (base : String) (plain : Plain name) :
    compressed (join base name) = join base (compressed name) := by
  have begins : isAbsolute (compressed name) = false := by
    rw [isAbsolute, compressed, String.toList_append,
      List.head?_append_of_ne_nil _ plain.toList_ne_nil]
    exact plain.isAbsolute_eq
  simp only [join, plain.isAbsolute_eq, begins, Bool.false_or]
  split
  · rfl
  · split
    · exact String.append_assoc
    · exact String.append_assoc

end Path

namespace FileTree

variable {directory other name another : String}

theorem placeKey_append_pair (place : List String) :
    ∃ front, ∀ directory name,
      placeKey (place ++ [directory, name]) = front ++ (directory ++ "/" ++ name) := by
  have pair (directory name : String) :
      "/".intercalate [directory, name] = directory ++ "/" ++ name := by
    rw [String.intercalate_cons_cons, String.intercalate_singleton]
  by_cases root : place = []
  · refine ⟨"", fun directory name => ?_⟩
    rw [root, List.nil_append, placeKey, pair, String.empty_append]
  · refine ⟨"/".intercalate place ++ "/", fun directory name => ?_⟩
    rw [placeKey, String.intercalate_append_of_ne_nil root (List.cons_ne_nil _ _), pair]

/-- **Files of different names are different files.** -/
theorem eq_of_sameFile_join (t : FileTree) (base : String) (outer : Path.Plain directory)
    (otherOuter : Path.Plain other) (inner : Path.Plain name) (otherInner : Path.Plain another)
    (same : t.SameFile (Path.join (Path.join base directory) name)
      (Path.join (Path.join base other) another)) : directory = other ∧ name = another := by
  obtain ⟨absolute, first, joined⟩ := Path.exists_components_join base
  have target (directory name : String) (outer : Path.Plain directory) (inner : Path.Plain name) :
      t.target (Path.join (Path.join base directory) name)
        = first.foldl enter (if absolute then [] else t.workingDirectory) ++ [directory, name] := by
    obtain ⟨begins, components⟩ := joined directory name outer inner
    rw [FileTree.target, origin, begins, components, List.foldl_append]
    refine foldl_enter_eq_append ?_ _
    simp [outer.noPoint, outer.noPoints, inner.noPoint, inner.noPoints]
  rw [SameFile, target _ _ outer inner, target _ _ otherOuter otherInner] at same
  obtain ⟨front, key⟩ := placeKey_append_pair
    (first.foldl enter (if absolute then [] else t.workingDirectory))
  rw [key, key, String.append_right_inj] at same
  have parts := congrArg (fun s : String => s.toList.splitOn '/') same
  simpa [List.splitOn_append_cons_self, outer.splitOn_eq, inner.splitOn_eq, otherOuter.splitOn_eq,
    otherInner.splitOn_eq, String.toList_inj] using parts

end FileTree

end ClusterBilling
