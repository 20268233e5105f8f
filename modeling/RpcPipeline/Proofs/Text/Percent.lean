import Mathlib.Data.String.Basic
import RpcPipeline.Text.Percent

/-!
# `RpcPipeline.Proofs.Text.Percent`: escapes read back

What an escaped text can hold is said by `mem_encodeChar`: signs and digits of escapes, and
characters that are not reserved. So no reserved character occurs in it, other than perhaps
those. If the escape character is itself reserved, then no two texts are escaped alike, since the
bytes of a text can be read off its escaped form (`decode_encode`).
-/

set_option autoImplicit false

namespace RpcPipeline.Text.Percent

variable {reserved : Char → Bool}

/-- A character of an escaped text belongs to an escape or stands for itself. -/
theorem mem_encodeChar {c d : Char} (h : d ∈ encodeChar reserved c) :
    d = '%' ∨ (∃ n < 16, d = hexDigit n) ∨ d = c ∧ reserved c = false := by
  unfold encodeChar at h
  split at h
  · obtain ⟨b, -, hd⟩ := List.mem_flatMap.mp h
    have hb : b.toNat < 256 := b.toNat_lt
    simp only [escape, List.mem_cons, List.not_mem_nil, or_false] at hd
    rcases hd with rfl | rfl | rfl
    · exact .inl rfl
    · exact .inr (.inl ⟨b.toNat / 16, by omega, rfl⟩)
    · exact .inr (.inl ⟨b.toNat % 16, by omega, rfl⟩)
  · next hkept =>
    rw [Bool.or_eq_true, not_or, Bool.not_eq_true] at hkept
    exact .inr (.inr ⟨List.mem_singleton.mp h, hkept.1⟩)

/-! ### Reading back -/

theorem hexValue?_hexDigit : ∀ n < 16, hexValue? (hexDigit n) = some n := by decide

theorem decodeBytes_escape (b : UInt8) (rest : List Char) :
    decodeBytes (escape b ++ rest) = b :: decodeBytes rest := by
  have hb : b.toNat < 256 := b.toNat_lt
  have hhigh := hexValue?_hexDigit (b.toNat / 16) (by omega)
  have hlow := hexValue?_hexDigit (b.toNat % 16) (by omega)
  have hbyte : UInt8.ofNat (16 * (b.toNat / 16) + b.toNat % 16) = b := by
    rw [Nat.div_add_mod, UInt8.ofNat_toNat]
  simp only [escape, List.cons_append, List.nil_append, decodeBytes, hhigh, hlow, hbyte]

theorem decodeBytes_escapes (bytes : List UInt8) (rest : List Char) :
    decodeBytes (bytes.flatMap escape ++ rest) = bytes ++ decodeBytes rest := by
  induction bytes with
  | nil => rfl
  | cons b bytes ih =>
    rw [List.flatMap_cons, List.append_assoc, decodeBytes_escape, ih, List.cons_append]

/-- A character that starts no escape stands for itself. -/
theorem decodeBytes_cons_of_ne {c : Char} (h : c ≠ '%') (rest : List Char) :
    decodeBytes (c :: rest) = String.utf8EncodeChar c ++ decodeBytes rest := by
  rw [decodeBytes]
  exact fun _ _ _ heq => absurd heq h

variable (hpercent : reserved '%' = true)
include hpercent

theorem decodeBytes_encodeChar (c : Char) (rest : List Char) :
    decodeBytes (encodeChar reserved c ++ rest) =
      String.utf8EncodeChar c ++ decodeBytes rest := by
  unfold encodeChar
  split
  · exact decodeBytes_escapes _ rest
  · next hkept =>
    have hne : c ≠ '%' := by
      rintro rfl
      rw [hpercent] at hkept
      exact hkept rfl
    exact decodeBytes_cons_of_ne hne rest

/-- The bytes of a text are read off its escaped form. -/
theorem decode_encode (s : String) : decode (encode reserved s) = s.toUTF8.data.toList := by
  have hchars : ∀ cs : List Char, decodeBytes (cs.flatMap (encodeChar reserved)) =
      cs.flatMap String.utf8EncodeChar := by
    intro cs
    induction cs with
    | nil => rfl
    | cons c cs ih =>
      rw [List.flatMap_cons, List.flatMap_cons, decodeBytes_encodeChar hpercent, ih]
  have hbytes : s.toUTF8.data.toList = s.toList.flatMap String.utf8EncodeChar := by
    rw [String.toUTF8_eq_toByteArray, ← String.utf8Encode_toList, List.utf8Encode,
      List.data_toByteArray]
  rw [decode, encode, String.toList_ofList, hchars, hbytes]

end RpcPipeline.Text.Percent
