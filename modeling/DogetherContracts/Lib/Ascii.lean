import Mathlib

/-! # Checks on the bytes of a text

A program that checks a text byte by byte, and accepts no byte from 128 on,
checks its characters: a character of several bytes has none below 128. -/
namespace DogetherContracts.Ascii

theorem toList_loop (bs : ByteArray) (i : ℕ) (read : List UInt8) :
    ByteArray.toList.loop bs i read = read.reverse ++ bs.data.toList.drop i := by
  fun_induction ByteArray.toList.loop bs i read with
  | case1 i read lt ih =>
      have inside : i < bs.data.toList.length := lt
      rw [ih, List.reverse_cons, List.append_assoc, List.drop_eq_getElem_cons inside]
      simp [ByteArray.get!, getElem!_pos bs.data i lt]
  | case2 i read ge =>
      have past : bs.data.toList.length ≤ i := Nat.le_of_not_lt ge
      rw [List.drop_eq_nil_of_le past, List.append_nil]

/-- The bytes of a text are those of its characters. -/
theorem bytes_eq (s : String) :
    s.toUTF8.toList = s.toList.flatMap String.utf8EncodeChar := by
  rw [ByteArray.toList, toList_loop, List.reverse_nil, List.nil_append, List.drop_zero]
  change s.toByteArray.data.toList = _
  rw [← String.utf8Encode_toList, List.utf8Encode, List.toList_data_toByteArray]

theorem encode_of_lt {c : Char} (ascii : c.toNat < 128) :
    String.utf8EncodeChar c = [.ofNat c.toNat] := by
  have small : c.val.toNat ≤ 127 := Nat.le_of_lt_succ ascii
  rw [String.utf8EncodeChar, if_pos small]
  rfl

/-- A character of several bytes has none below 128; its last one is at hand. -/
theorem le_of_encode {c : Char} (wide : 128 ≤ c.toNat) :
    ∃ b ∈ String.utf8EncodeChar c, 128 ≤ b.toNat := by
  have large : ¬ c.val.toNat ≤ 127 := Nat.not_le_of_lt wide
  have trailing : 128 ≤ (UInt8.ofNat (c.val.toNat % 64 + 128)).toNat := by
    rw [UInt8.toNat_ofNat']
    omega
  refine ⟨.ofNat (c.val.toNat % 64 + 128), ?_, trailing⟩
  rw [String.utf8EncodeChar, if_neg large]
  split_ifs <;> simp

variable {p : UInt8 → Prop} {s : String}

/-- A check that accepts ASCII bytes only is a check of every character. -/
theorem bytes_iff (ascii : ∀ b, p b → b.toNat < 128) :
    (∀ b ∈ s.toUTF8.toList, p b) ↔ ∀ c ∈ s.toList, c.toNat < 128 ∧ p (.ofNat c.toNat) := by
  rw [bytes_eq, List.forall_mem_flatMap]
  apply forall₂_congr
  intro c _
  by_cases small : c.toNat < 128
  · rw [encode_of_lt small, List.forall_mem_singleton, and_iff_right small]
  · refine iff_of_false ?_ fun h => small h.1
    intro all
    obtain ⟨b, member, wide⟩ := le_of_encode (Nat.le_of_not_lt small)
    exact absurd (ascii b (all b member)) (Nat.not_lt_of_le wide)

theorem length_bytes (ascii : ∀ c ∈ s.toList, c.toNat < 128) :
    s.toUTF8.toList.length = s.toList.length := by
  have bytes : s.toUTF8.toList = s.toList.map fun c => UInt8.ofNat c.toNat := by
    rw [bytes_eq, List.map_eq_flatMap]
    exact List.flatMap_congr fun c member => encode_of_lt (ascii c member)
  rw [bytes, List.length_map]

end DogetherContracts.Ascii
