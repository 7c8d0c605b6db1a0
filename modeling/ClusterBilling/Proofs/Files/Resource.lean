import Mathlib
import ClusterBilling.Files.Resource

/-!
# Reading resources

A text that was encoded is decoded again (`decodeText?_encodeText`). A resource that is compressed
is read from its compressed file, whatever the plain one holds (`readResource_compressed`); where
there is no compressed file the plain one is read (`readResource_plain`). Loading goes in steps,
each of which may refuse the whole (`Except.exists_of_bind_eq_ok`).
-/

namespace ClusterBilling

/-- What succeeds after a first step does so with what that step gave. -/
theorem Except.exists_of_bind_eq_ok {ε α β : Type} {first : Except ε α} {next : α → Except ε β}
    {b : β} (done : first >>= next = .ok b) : ∃ a, first = .ok a ∧ next a = .ok b := by
  cases first with
  | error fault => cases done
  | ok a => exact ⟨a, rfl, done⟩

/-- The bytes of an array, from some place on, behind those that were taken already. -/
theorem toList_loop_eq (bytes : ByteArray) (i : Nat) (taken : List UInt8) :
    ByteArray.toList.loop bytes i taken = taken.reverse ++ bytes.data.toList.drop i := by
  fun_induction ByteArray.toList.loop bytes i taken with
  | case1 i taken inside ih =>
    have bound : i < bytes.data.toList.length := by simpa using inside
    have here : bytes.get! i = bytes.data.toList[i] := by
      rw [Array.getElem_toList]
      exact getElem!_pos bytes.data i (by simpa using bound)
    rw [ih, List.reverse_cons, List.append_assoc, List.singleton_append, here,
      List.cons_getElem_drop_succ]
  | case2 i taken outside =>
    have bound : bytes.data.toList.length ≤ i := by simpa using outside
    rw [List.drop_eq_nil_of_le bound, List.append_nil]

theorem decodeText?_encodeText (s : String) : decodeText? (encodeText s) = some s := by
  have bytes : encodeText s = s.toByteArray.data.toList := by
    rw [encodeText, String.toUTF8_eq_toByteArray]
    exact toList_loop_eq s.toByteArray 0 []
  rw [decodeText?, bytes, Array.toArray_toList, String.fromUTF8?, dif_pos s.isValidUTF8]
  rfl

section Resource

variable {files : FileTree} {path text : String} {bytes : List UInt8}

theorem FileTree.exists?_of_read? (held : files.read? path = some bytes) :
    files.exists? path = true := by
  unfold read? at held
  unfold exists?
  cases found : files.node? path with
  | none => simp only [found, reduceCtorEq] at held
  | some node => rfl

/-- **The compressed file goes first.** -/
theorem readResource_compressed (held : files.read? (Path.compressed path) = some bytes)
    (unpacked : (Gzip.unpack? bytes).bind decodeText? = some text) :
    readResource files path = .ok (some text) := by
  have there := FileTree.exists?_of_read? held
  simp only [readResource, there, if_true, held, Option.bind_some, unpacked]

/-- Where there is no compressed file the plain one is read. -/
theorem readResource_plain (plain : files.exists? (Path.compressed path) = false)
    (held : files.read? path = some bytes) (decoded : decodeText? bytes = some text) :
    readResource files path = .ok (some text) := by
  have there := FileTree.exists?_of_read? held
  simp only [readResource, plain, Bool.false_eq_true, if_false, there, if_true, held,
    Option.bind_some, decoded]

/-- Where there is no file of either name there is no text, and no fault. -/
theorem readResource_missing (plain : files.exists? (Path.compressed path) = false)
    (missing : files.exists? path = false) : readResource files path = .ok none := by
  simp only [readResource, plain, missing, Bool.false_eq_true, if_false]

end Resource

end ClusterBilling
