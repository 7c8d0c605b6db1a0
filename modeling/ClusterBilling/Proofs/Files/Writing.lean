import Mathlib
import ClusterBilling.Files.Tree

/-!
# Writing files

A file that is written brings the directories of its path into being, and changes nothing else
(`write?_spec`): every other file keeps its content, and every directory stays one, so that a path
that could be followed still can. Files that are written one after the other therefore leave, at
every place, what the last of them left there, and everything else alone (`Rewritten`).

Two paths may lead to one file (`SameFile`), which then holds what was written last. A tree is
`Rooted` if its working directory is a place, which leads neither through points nor upwards.
-/

namespace ClusterBilling.FileTree

/-- Where a path leads, if every component leads out of a directory. -/
def target (t : FileTree) (path : String) : List String :=
  (Path.components path).foldl enter (t.origin path)

/-- The content of the file at a place. -/
def fileAt? (t : FileTree) (place : List String) : Option (List UInt8) :=
  match t.nodeAt? place with
  | some (.file content) => some content
  | _ => none

/-- Whether two paths lead to one file. -/
def SameFile (t : FileTree) (path other : String) : Prop :=
  placeKey (t.target path) = placeKey (t.target other)

/-- The working directory is a place: no name that leads to it is a point or two of them. -/
def Rooted (t : FileTree) : Prop := ∀ name ∈ t.workingDirectory, name ≠ "." ∧ name ≠ ".."

/-- The tree with something at a place. -/
def put (t : FileTree) (place : List String) (node : FileNode) : FileTree :=
  { t with nodes := t.nodes.insert (placeKey place) node }

section Place

variable {t t' : FileTree} {place last : List String} {names : List String} {path : String}

theorem nodeAt?_eq_get? (t : FileTree) (below : place ≠ []) :
    t.nodeAt? place = t.nodes.get? (placeKey place) := by
  cases place with
  | nil => exact absurd rfl below
  | cons name rest => rfl

theorem nodeAt?_put (t : FileTree) (place : List String) (node : FileNode) (other : List String) :
    (t.put place node).nodeAt? other
      = if other ≠ [] ∧ placeKey other = placeKey place then some node else t.nodeAt? other := by
  cases other with
  | nil => rfl
  | cons name rest =>
    simp only [nodeAt?, put, List.isEmpty_cons, Bool.false_eq_true, if_false,
      OrderedMap.get?_insert, ne_eq, reduceCtorEq, not_false_eq_true, true_and]

theorem read?_eq (t : FileTree) (path : String) :
    t.read? path = (t.place? path).bind t.fileAt? := by
  unfold read? node?
  cases t.place? path <;> rfl

theorem fileAt?_eq_some {content : List UInt8} :
    t.fileAt? place = some content ↔ t.nodeAt? place = some (.file content) := by
  unfold fileAt?
  split
  · next held => simp [held]
  · next other => exact ⟨nofun, fun held => absurd held (other content)⟩

/-! ### Following -/

theorem eq_foldl_of_follow (followed : t.follow place names = some last) :
    last = names.foldl enter place := by
  induction names generalizing place with
  | nil => exact (Option.some.inj followed).symm
  | cons name rest ih =>
    rw [follow] at followed
    split at followed
    · exact ih followed
    · cases followed

theorem follow_append (t : FileTree) (place before after : List String) :
    t.follow place (before ++ after)
      = (t.follow place before).bind fun last => t.follow last after := by
  induction before generalizing place with
  | nil => rfl
  | cons name rest ih =>
    rw [List.cons_append, follow, follow]
    split
    · exact ih _
    · rfl

/-- A way stays open while its directories stay. -/
theorem follow_of_directories
    (kept : ∀ place, t.nodeAt? place = some .directory → t'.nodeAt? place = some .directory)
    (followed : t.follow place names = some last) : t'.follow place names = some last := by
  induction names generalizing place with
  | nil => exact followed
  | cons name rest ih =>
    rw [follow] at followed ⊢
    split at followed
    · next here =>
      rw [kept place here]
      exact ih followed
    · cases followed

/-- Plain names lead down. -/
theorem foldl_enter_eq_append (plain : ∀ name ∈ names, name ≠ "." ∧ name ≠ "..")
    (place : List String) : names.foldl enter place = place ++ names := by
  induction names generalizing place with
  | nil => exact (List.append_nil place).symm
  | cons name rest ih =>
    obtain ⟨one, two⟩ := plain name List.mem_cons_self
    rw [List.foldl_cons, ih fun other mem => plain other (List.mem_cons_of_mem _ mem), enter,
      if_neg one, if_neg two, List.append_assoc, List.singleton_append]

/-- A path that leads somewhere leads to its target. -/
theorem eq_target_of_place? (found : t.place? path = some place) : place = t.target path :=
  eq_foldl_of_follow found

end Place

/-! ### Making directories -/

/-- A tree has grown into another one if only directories were added. -/
structure Grown (t t' : FileTree) : Prop where
  workingDirectory : t'.workingDirectory = t.workingDirectory
  nodeAt? (place : List String) :
    t'.nodeAt? place = t.nodeAt? place
      ∨ t.nodeAt? place = none ∧ t'.nodeAt? place = some .directory

namespace Grown

variable {t t' t'' : FileTree} {place : List String}

theorem refl (t : FileTree) : t.Grown t := ⟨rfl, fun _ => .inl rfl⟩

theorem trans (first : t.Grown t') (second : t'.Grown t'') : t.Grown t'' := by
  refine ⟨second.workingDirectory.trans first.workingDirectory, fun place => ?_⟩
  rcases second.nodeAt? place with same | ⟨missing, made⟩
  · rw [same]
    exact first.nodeAt? place
  · rcases first.nodeAt? place with same | ⟨-, there⟩
    · exact .inr ⟨same ▸ missing, made⟩
    · cases missing.symm.trans there

theorem directory (grown : t.Grown t') (here : t.nodeAt? place = some .directory) :
    t'.nodeAt? place = some .directory := by
  rcases grown.nodeAt? place with same | ⟨-, made⟩
  · exact same.trans here
  · exact made

theorem fileAt? (grown : t.Grown t') (place : List String) :
    t'.fileAt? place = t.fileAt? place := by
  rcases grown.nodeAt? place with same | ⟨missing, made⟩
  · simp only [FileTree.fileAt?, same]
  · simp only [FileTree.fileAt?, missing, made]

/-- A directory where nothing was. -/
theorem put (missing : t.nodeAt? place = none) : t.Grown (t.put place .directory) := by
  refine ⟨rfl, fun other => ?_⟩
  rw [nodeAt?_put]
  split
  · next here =>
    have below : place ≠ [] := by
      rintro rfl
      cases missing
    rw [nodeAt?_eq_get? t here.1, here.2, ← nodeAt?_eq_get? t below]
    exact .inr ⟨missing, rfl⟩
  · exact .inl rfl

end Grown

section Writing

variable {t t' : FileTree} {place last names : List String} {path : String}
  {content : List UInt8}

theorem nodeAt?_put_directory (t : FileTree) (place : List String) :
    (t.put place .directory).nodeAt? place = some .directory := by
  rw [nodeAt?_put]
  split
  · rfl
  · next elsewhere =>
    obtain rfl : place = [] := by
      by_contra filled
      exact elsewhere ⟨filled, rfl⟩
    rfl

/-- **Directories made on a way** open it, and are all that is new. -/
theorem makeDirectories_spec (start : t.nodeAt? place = some .directory)
    (made : t.makeDirectories place names = some (t', last)) :
    t.Grown t' ∧ t'.follow place names = some last ∧ t'.nodeAt? last = some .directory := by
  induction names generalizing t place with
  | nil =>
    cases made
    exact ⟨.refl _, rfl, start⟩
  | cons name rest ih =>
    simp only [makeDirectories] at made
    have onwards {mid : FileTree} (grown : t.Grown mid)
        (there : mid.nodeAt? (enter place name) = some .directory)
        (others : mid.makeDirectories (enter place name) rest = some (t', last)) :
        t.Grown t' ∧ t'.follow place (name :: rest) = some last
          ∧ t'.nodeAt? last = some .directory := by
      obtain ⟨more, followed, directory⟩ := ih there others
      have whole := grown.trans more
      refine ⟨whole, ?_, directory⟩
      rw [follow, whole.directory start]
      exact followed
    split at made
    · cases made
    · next there => exact onwards (.refl t) there made
    · next missing => exact onwards (.put missing) (nodeAt?_put_directory t _) made

/-- What writing one file does: the path leads to it, and nothing else has changed but directories
that are new. -/
structure Wrote (t t' : FileTree) (path : String) (content : List UInt8) : Prop where
  workingDirectory : t'.workingDirectory = t.workingDirectory
  place? : t'.place? path = some (t.target path)
  held : t'.fileAt? (t.target path) = some content
  directories (place : List String) :
    t.nodeAt? place = some .directory → t'.nodeAt? place = some .directory
  others (place : List String) :
    placeKey place ≠ placeKey (t.target path) → t'.fileAt? place = t.fileAt? place

/-- A rooted way to a name, opened from the root, is open from where the path begins. -/
theorem place?_of_follow_way (rooted : t.Rooted)
    (followed : t.follow [] (t.way path) = some place) : t.place? path = some place := by
  have plain : ∀ name ∈ t.origin path, name ≠ "." ∧ name ≠ ".." := by
    unfold origin
    split
    · exact nofun
    · exact rooted
  rw [way, follow_append] at followed
  obtain ⟨start, opened, rest⟩ := Option.bind_eq_some_iff.mp followed
  have same : start = t.origin path :=
    (eq_foldl_of_follow opened).trans (foldl_enter_eq_append plain [])
  rwa [same] at rest

/-- A file put where no directory is, in a tree that has grown. -/
theorem Wrote.of_put {mid : FileTree} (grown : t.Grown mid)
    (reached : mid.place? path = some (t.target path))
    (free : mid.nodeAt? (t.target path) ≠ some .directory) :
    t.Wrote (mid.put (t.target path) (.file content)) path content := by
  have below : t.target path ≠ [] := by
    intro root
    exact free (root ▸ rfl)
  have kept (place : List String) (here : mid.nodeAt? place = some .directory) :
      (mid.put (t.target path) (.file content)).nodeAt? place = some .directory := by
    rw [nodeAt?_put]
    split
    · next same =>
      rw [nodeAt?_eq_get? mid same.1, same.2, ← nodeAt?_eq_get? mid below] at here
      exact absurd here free
    · exact here
  refine ⟨grown.workingDirectory, ?_, ?_, fun place here => kept place (grown.directory here), ?_⟩
  · exact follow_of_directories kept reached
  · rw [fileAt?_eq_some, nodeAt?_put, if_pos ⟨below, rfl⟩]
  · intro place other
    rw [← grown.fileAt? place]
    simp only [fileAt?, nodeAt?_put, other, and_false, if_false]

/-- **Writing a file.** -/
theorem write?_spec (rooted : t.Rooted) (written : t.write? path content = some t') :
    t.Wrote t' path content := by
  simp only [write?, Option.bind_eq_bind, Option.bind_eq_some_iff] at written
  obtain ⟨name, final, written⟩ := written
  split at written
  · cases written
  next plain =>
  obtain ⟨⟨mid, directory⟩, made, written⟩ := Option.bind_eq_some_iff.mp written
  obtain ⟨grown, followed, there⟩ := makeDirectories_spec rfl made
  have named : enter directory name = directory ++ [name] := by
    simp only [Bool.or_eq_true, decide_eq_true_eq, not_or] at plain
    rw [enter, if_neg plain.1, if_neg plain.2]
  have whole : mid.follow [] (mid.way path) = some (directory ++ [name]) := by
    have same : mid.way path = (t.way path).dropLast ++ [name] := by
      rw [List.dropLast_append_getLast? name final]
      simp only [way, origin, grown.workingDirectory]
    rw [same, follow_append, followed, Option.bind_some, follow, there, ← named]
    rfl
  have midRooted : mid.Rooted := by
    rw [Rooted, grown.workingDirectory]
    exact rooted
  have reached := place?_of_follow_way midRooted whole
  have place : t.target path = directory ++ [name] := by
    rw [eq_target_of_place? reached]
    simp only [target, origin, grown.workingDirectory]
  rw [← place] at reached written
  split at written
  · cases written
  · next free =>
    cases written
    exact .of_put grown reached free

end Writing

/-! ### Writing several files -/

/-- **What files leave behind** that are written one after the other: the last one written to a
place stays there, every other file keeps its content, and directories stay. -/
structure Rewritten (before after : FileTree) (files : List (String × List UInt8)) : Prop where
  workingDirectory : after.workingDirectory = before.workingDirectory
  directories (place : List String) :
    before.nodeAt? place = some .directory → after.nodeAt? place = some .directory
  others (place : List String) :
    (∀ file ∈ files, placeKey place ≠ placeKey (before.target file.1)) →
      after.fileAt? place = before.fileAt? place
  last (earlier later : List (String × List UInt8)) (path : String) (content : List UInt8) :
    files = earlier ++ (path, content) :: later →
      (∀ file ∈ later, ¬before.SameFile path file.1) → after.read? path = some content

namespace Rewritten

variable {before middle after : FileTree} {files : List (String × List UInt8)} {path : String}
  {content : List UInt8}

theorem nil (t : FileTree) : t.Rewritten t [] where
  workingDirectory := rfl
  directories _ here := here
  others _ _ := rfl
  last earlier later path content none := by simp at none

theorem target_eq (same : after.workingDirectory = before.workingDirectory) (path : String) :
    after.target path = before.target path := by
  simp only [target, origin, same]

/-- **A file that is not written to is read as before.** -/
theorem read? (rewritten : before.Rewritten after files) (held : before.read? path = some content)
    (other : ∀ file ∈ files, ¬before.SameFile path file.1) : after.read? path = some content := by
  rw [read?_eq] at held ⊢
  obtain ⟨place, found, there⟩ := Option.bind_eq_some_iff.mp held
  have again : after.place? path = some place := by
    rw [place?, origin, rewritten.workingDirectory]
    exact follow_of_directories rewritten.directories found
  rw [again, Option.bind_some, rewritten.others, there]
  rw [eq_target_of_place? found]
  exact other

/-- One more file in front of the others. -/
theorem cons (first : before.Wrote middle path content) (rest : middle.Rewritten after files) :
    before.Rewritten after ((path, content) :: files) where
  workingDirectory := rest.workingDirectory.trans first.workingDirectory
  directories place here := rest.directories place (first.directories place here)
  others place other := by
    obtain ⟨here, others⟩ := List.forall_mem_cons.mp other
    rw [← first.others place here]
    refine rest.others place fun file mem => ?_
    rw [target_eq first.workingDirectory]
    exact others file mem
  last earlier later name written split final := by
    have same := target_eq first.workingDirectory
    cases earlier with
    | nil =>
      cases split
      have held : middle.read? path = some content := by
        rw [read?_eq, first.place?, Option.bind_some, first.held]
      refine rest.read? held fun file mem => ?_
      rw [SameFile, same, same]
      exact final file mem
    | cons head earlier =>
      refine rest.last earlier later name written (List.cons.inj split).2 fun file mem => ?_
      rw [SameFile, same, same]
      exact final file mem

end Rewritten

end ClusterBilling.FileTree
