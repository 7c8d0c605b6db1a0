import Mathlib

/-!
# The order of texts and the order of their bytes

Texts are compared letter by letter. In their encoding a greater letter has greater bytes, and no
letter's bytes begin those of another (`encode_append_lt`), so the bytes of two texts are in the
same order as the texts (`lt_iff_bytes_lt`).
-/

namespace ClusterBilling.Text

/-- The bytes of a text. -/
def bytes (s : String) : List UInt8 := s.toUTF8.data.toList

theorem bytes_eq (s : String) : bytes s = s.toList.flatMap String.utf8EncodeChar := by
  rw [bytes, String.toUTF8, ← String.utf8Encode_toList, List.utf8Encode]
  simp

/-- A greater letter has greater bytes, whatever follows. -/
theorem encode_append_lt {c d : Char} (less : c < d) (s t : List UInt8) :
    String.utf8EncodeChar c ++ s < String.utf8EncodeChar d ++ t := by
  have bound : d.val.toNat < 0x110000 := by
    have valid := d.valid
    simp only [UInt32.isValidChar, Nat.isValidChar] at valid
    omega
  replace less : c.val.toNat < d.val.toNat := less
  simp only [String.utf8EncodeChar]
  generalize c.val.toNat = m at less
  generalize d.val.toNat = n at less bound
  have inSteps (k : Nat) : k / 4096 = k / 64 / 64 ∧ k / 262144 = k / 64 / 64 / 64 := by omega
  simp only [inSteps]
  -- One case for each pair of lengths that the two encodings may have.
  split <;> [skip; split <;> [skip; split]] <;> (split <;> [skip; split <;> [skip; split]])
  all_goals
    simp only [List.cons_append, List.nil_append, List.cons_lt_cons_iff,
      UInt8.lt_iff_toNat_lt, ← UInt8.toNat_inj, UInt8.toNat_ofNat', Nat.reducePow]
    omega

theorem bytes_lt {a b : String} (less : a < b) : bytes a < bytes b := by
  rw [String.lt_iff_toList_lt] at less
  rw [bytes_eq, bytes_eq]
  generalize a.toList = cs at less ⊢
  generalize b.toList = ds at less ⊢
  induction cs generalizing ds with
  | nil =>
    cases ds with
    | nil => exact absurd less (List.lt_irrefl [])
    | cons d ds =>
      have nonempty : String.utf8EncodeChar d ≠ [] := String.utf8EncodeChar_ne_nil
      obtain ⟨byte, more, encoded⟩ := List.exists_cons_of_ne_nil nonempty
      rw [List.flatMap_nil, List.flatMap_cons, encoded]
      exact List.nil_lt_cons ..
  | cons c cs ih =>
    cases ds with
    | nil => exact absurd less (List.not_lt_nil _)
    | cons d ds =>
      rw [List.flatMap_cons, List.flatMap_cons]
      rcases List.cons_lt_cons_iff.mp less with first | ⟨rfl, rest⟩
      · exact encode_append_lt first _ _
      · exact List.append_left_lt (ih ds rest)

/-- **Texts are in the order of their bytes.** -/
theorem lt_iff_bytes_lt (a b : String) : a < b ↔ bytes a < bytes b := by
  refine ⟨bytes_lt, fun less => ?_⟩
  rcases lt_trichotomy a b with below | same | above
  · exact below
  · exact absurd (same ▸ less) (List.lt_irrefl _)
  · exact absurd less (List.lt_asymm (bytes_lt above))

theorem le_iff_bytes_le (a b : String) : a ≤ b ↔ bytes a ≤ bytes b := by
  rw [← not_lt, lt_iff_bytes_lt]
  rfl

end ClusterBilling.Text
