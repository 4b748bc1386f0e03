import Mathlib.Data.List.Basic

namespace BravoFinder

/-!
# The bytes of a string

`String` keeps its characters encoded.  The bytes of a string are those of its
characters in order, and a digit is one byte.
-/

theorem byteArray_toList (bytes : ByteArray) : bytes.toList = bytes.data.toList := by
  have run : forall (left i : Nat) (seen : List UInt8), bytes.size - i = left ->
      ByteArray.toList.loop bytes i seen = seen.reverse ++ bytes.data.toList.drop i := by
    intro left
    induction left with
    | zero =>
        intro i seen none
        have past : ¬ i < bytes.size := by omega
        have nothing : bytes.data.toList.drop i = [] := by
          rw [List.drop_eq_nil_iff, Array.length_toList]
          exact Nat.not_lt.mp past
        rw [ByteArray.toList.loop, if_neg past, nothing, List.append_nil]
    | succ left inductionHypothesis =>
        intro i seen some
        have inside : i < bytes.size := by omega
        have here : i < bytes.data.toList.length := by
          rw [Array.length_toList]
          exact inside
        rw [ByteArray.toList.loop, if_pos inside, inductionHypothesis (i + 1) _ (by omega),
          List.drop_eq_getElem_cons here, List.reverse_cons, List.append_assoc, List.singleton_append]
        congr 2
        rw [ByteArray.get!, Array.getElem_toList]
        exact getElem!_pos bytes.data i inside
  rw [ByteArray.toList, run bytes.size 0 [] rfl]
  rfl

theorem toList_toUTF8 (chars : List Char) :
    (String.ofList chars).toUTF8.toList = chars.flatMap String.utf8EncodeChar := by
  rw [byteArray_toList, String.toUTF8, String.toByteArray_ofList, List.utf8Encode, List.toList_data_toByteArray]

/-- The digits of a number are bytes from `0` to `9`. -/
theorem digit_of_mem_toString {value : Nat} {byte : UInt8} (member : byte ∈ (toString value).toUTF8.toList) :
    48 ≤ byte.toNat ∧ byte.toNat ≤ 57 := by
  have repr : toString value = String.ofList (Nat.toDigits 10 value) := rfl
  rw [repr, toList_toUTF8] at member
  rcases List.mem_flatMap.mp member with ⟨c, digit, encoded⟩
  have isDigit := Nat.isDigit_of_mem_toDigits (by decide) (by decide) digit
  rw [Char.isDigit, Bool.and_eq_true, decide_eq_true_eq, decide_eq_true_eq] at isDigit
  have low : 48 ≤ c.val.toNat := isDigit.1
  have high : c.val.toNat ≤ 57 := isDigit.2
  rw [String.utf8EncodeChar, if_pos (by omega), List.mem_singleton] at encoded
  have value : byte.toNat = c.val.toNat := by
    rw [encoded]
    exact UInt8.toNat_ofNat_of_lt (Nat.lt_of_le_of_lt high (by decide))
  omega

end BravoFinder
