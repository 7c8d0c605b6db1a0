import Mathlib
import ClusterBilling.Gzip.Member

/-!
# What is packed is unpacked again

Packing stores the content in blocks. Inflating one block puts its bytes behind those that are
there (`inflateBlocks_block`), so inflating the blocks one after the other gives the content back
and stops in front of the trailer (`inflateBlocks_storedBlocks`). The trailer is what reading
computes once more, and hence **unpacking undoes packing**, for every content (`unpack?_pack`).
-/

namespace ClusterBilling.Gzip

theorem length_littleEndian (count n : Nat) : (littleEndian count n).length = count := by
  induction count generalizing n with
  | zero => rfl
  | succ count ih => rw [littleEndian, List.length_cons, ih]

/-- Two bytes give back the number that they were made of. -/
theorem toNat_two_bytes {n : Nat} (small : n < 65536) :
    (UInt8.ofNat (n % 256)).toNat + 256 * (UInt8.ofNat (n / 256 % 256)).toNat = n := by
  simp only [UInt8.toNat_ofNat', Nat.reducePow]
  omega

variable {block content rest : List UInt8} {out : Array UInt8} {last : Bool} {fuel more : Nat}

/-! ## One block -/

/-- The byte in front of a stored block: whether it is the last one, and its kind, which is
zero. -/
def storedHead (last : Bool) : UInt8 := if last then 1 else 0

theorem bit?_storedHead (last : Bool) (bytes : List UInt8) :
    BitReader.bit? ⟨[], storedHead last :: bytes⟩
      = some (last, ⟨List.replicate 7 false, bytes⟩) := by
  cases last <;> rfl

/-- The bytes of a stored block are those behind its two lengths. -/
theorem inflateStored_block (fits : block.length ≤ blockSize) (bits : List Bool) :
    inflateStored out ⟨bits, littleEndian 2 block.length
        ++ littleEndian 2 (blockSize - block.length) ++ block ++ rest⟩
      = some (out ++ block.toArray, ⟨[], rest⟩) := by
  have sum : block.length + (blockSize - block.length) = 65535 := Nat.add_sub_of_le fits
  have length := toNat_two_bytes (n := block.length) (by omega)
  have check := toNat_two_bytes (n := blockSize - block.length) (by omega)
  simp only [inflateStored, BitReader.align, littleEndian, List.cons_append, List.nil_append,
    length, check, sum, List.take_left, List.drop_left, List.length_append]
  exact if_pos (by simp)

/-- **Inflating a stored block** puts its bytes behind those that are there. -/
theorem inflateBlocks_block (fits : block.length ≤ blockSize) (fuel : Nat) :
    inflateBlocks (fuel + 1) out ⟨[], storedHead last :: (littleEndian 2 block.length
        ++ littleEndian 2 (blockSize - block.length) ++ block ++ rest)⟩
      = if last then some (out ++ block.toArray, ⟨[], rest⟩)
        else inflateBlocks fuel (out ++ block.toArray) ⟨[], rest⟩ := by
  have kind : BitReader.number? 2 ⟨List.replicate 7 false, littleEndian 2 block.length
        ++ littleEndian 2 (blockSize - block.length) ++ block ++ rest⟩
      = some (0, ⟨List.replicate 5 false, littleEndian 2 block.length
        ++ littleEndian 2 (blockSize - block.length) ++ block ++ rest⟩) := rfl
  simp only [inflateBlocks, bit?_storedHead, Option.bind_eq_bind, Option.bind_some, kind, if_true,
    inflateStored_block fits, Option.pure_def]

/-! ## All blocks -/

theorem storedBlocks_succ (fuel : Nat) (content : List UInt8) :
    storedBlocks (fuel + 1) content
      = storedHead (content.drop blockSize).isEmpty
        :: (littleEndian 2 (content.take blockSize).length
          ++ littleEndian 2 (blockSize - (content.take blockSize).length)
          ++ content.take blockSize
          ++ if (content.drop blockSize).isEmpty then []
            else storedBlocks fuel (content.drop blockSize)) := rfl

/-- Every block but the last is full, so the fuel outlasts the content. -/
theorem length_drop_blockSize_lt (enough : content.length < fuel + 1)
    (more : content.drop blockSize ≠ []) : (content.drop blockSize).length < fuel := by
  have longer : blockSize < content.length := by
    by_contra short
    exact more (List.drop_eq_nil_of_le (Nat.le_of_not_lt short))
  have positive : 0 < blockSize := by decide
  rw [List.length_drop]
  omega

/-- **Inflating stored blocks gives their content back**, and leaves what stands behind them. -/
theorem inflateBlocks_storedBlocks (enough : content.length < fuel) (allowed : fuel ≤ more) :
    inflateBlocks more out ⟨[], storedBlocks fuel content ++ rest⟩
      = some (out ++ content.toArray, ⟨[], rest⟩) := by
  induction fuel generalizing content more out with
  | zero => omega
  | succ fuel ih =>
    obtain ⟨more, rfl⟩ := Nat.exists_eq_add_of_le' (Nat.le_trans (Nat.le_add_left 1 fuel) allowed)
    have fits : (content.take blockSize).length ≤ blockSize := List.length_take_le ..
    rw [storedBlocks_succ, List.cons_append, List.append_assoc, inflateBlocks_block fits]
    by_cases behind : content.drop blockSize = []
    · have whole : content.take blockSize = content :=
        List.take_of_length_le (List.drop_eq_nil_iff.mp behind)
      simp only [behind, List.isEmpty_nil, if_true, List.nil_append, whole]
    · have parts : (content.take blockSize).toArray ++ (content.drop blockSize).toArray
          = content.toArray := by
        rw [List.append_toArray, List.take_append_drop]
      have filled : (content.drop blockSize).isEmpty = false := by simpa using behind
      simp only [filled, Bool.false_eq_true, if_false]
      rw [ih (length_drop_blockSize_lt enough behind) (by omega), Array.append_assoc, parts]

/-- Stored blocks are no shorter than their content. -/
theorem length_le_storedBlocks (enough : content.length < fuel) :
    content.length ≤ (storedBlocks fuel content).length := by
  induction fuel generalizing content with
  | zero => omega
  | succ fuel ih =>
    rw [storedBlocks_succ, List.length_cons, List.length_append, List.length_append]
    have parts : (content.take blockSize).length + (content.drop blockSize).length
        = content.length := by
      rw [← List.length_append, List.take_append_drop]
    split
    · next empty =>
      rw [List.isEmpty_iff.mp empty] at parts
      simp only [List.length_nil] at parts ⊢
      omega
    · next filled =>
      have longer := ih (length_drop_blockSize_lt enough (mt List.isEmpty_iff.mpr filled))
      omega

/-! ## The member -/

theorem skipHeader?_plainHeader (bytes : List UInt8) :
    skipHeader? (plainHeader ++ bytes) = some bytes := rfl

/-- **Unpacking undoes packing.** -/
theorem unpack?_pack (content : List UInt8) : unpack? (pack content) = some content := by
  have enough : content.length < content.length + 1 := Nat.lt_succ_self _
  have bound := length_le_storedBlocks enough
  have inflated (trailer : List UInt8) :
      inflate (storedBlocks (content.length + 1) content ++ trailer) = some (content, trailer) := by
    rw [inflate, inflateBlocks_storedBlocks enough]
    · simp
    · rw [List.length_append]
      omega
  simp only [unpack?, pack, List.append_assoc, skipHeader?_plainHeader, Option.bind_eq_bind,
    Option.bind_some, inflated]
  refine if_pos (List.take_of_length_le ?_)
  simp only [List.length_append, length_littleEndian, Nat.reduceAdd, le_refl]

end ClusterBilling.Gzip
