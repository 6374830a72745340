import Mathlib.Data.List.Basic

/-! Texts are ordered as their UTF-8 encodings are: comparing scalar by scalar and comparing byte
by byte come to the same. -/
namespace Verdict
open String (utf8EncodeChar)

/-- The bytes of a text in UTF-8. -/
def utf8 (s : String) : List UInt8 := s.toByteArray.data.toList

theorem utf8_eq_flatMap (s : String) : utf8 s = s.toList.flatMap utf8EncodeChar := by
  rw [utf8, ← String.utf8Encode_toList, List.utf8Encode, List.toList_data_toByteArray]

/-- The encodings of two scalars are told apart, in the order of the scalars, whatever follows. -/
theorem utf8EncodeChar_append_lt {c d : Char} (h : c < d) (l r : List UInt8) :
    utf8EncodeChar c ++ l < utf8EncodeChar d ++ r := by
  have hlt : c.val.toNat < d.val.toNat := h
  have hmax : d.val.toNat < 1114112 := by
    have hvalid := d.valid
    simp only [UInt32.isValidChar, Nat.isValidChar] at hvalid
    omega
  unfold utf8EncodeChar
  generalize c.val.toNat = x at hlt
  generalize d.val.toNat = y at hlt hmax
  dsimp only
  -- every continuation byte carries six bits of what the bytes before it left over
  have hsix (n : Nat) : n / 4096 = n / 64 / 64 ∧ n / 262144 = n / 4096 / 64 := by omega
  obtain ⟨hx, hx'⟩ := hsix x
  obtain ⟨hy, hy'⟩ := hsix y
  split_ifs <;> simp (disch := omega) only [List.cons_append, List.nil_append,
    List.cons_lt_cons_iff, UInt8.lt_iff_toNat_lt, ← UInt8.toNat_inj, UInt8.toNat_ofNat',
    Nat.mod_eq_of_lt] <;> omega

theorem flatMap_utf8EncodeChar_lt {cs ds : List Char} (h : cs < ds) :
    cs.flatMap utf8EncodeChar < ds.flatMap utf8EncodeChar := by
  induction h with
  | nil =>
    rename_i d ds
    obtain ⟨b, bs, hb⟩ := List.exists_cons_of_ne_nil (String.utf8EncodeChar_ne_nil (c := d))
    simp [hb]
  | rel hlt =>
    simp only [List.flatMap_cons]
    exact utf8EncodeChar_append_lt hlt _ _
  | cons _ ih =>
    simp only [List.flatMap_cons]
    exact List.append_left_lt ih

theorem utf8_lt_of_lt {s t : String} (h : s < t) : utf8 s < utf8 t := by
  rw [utf8_eq_flatMap, utf8_eq_flatMap]
  exact flatMap_utf8EncodeChar_lt h

/-- A text comes before another exactly if its bytes do. -/
theorem compare_eq_lt_iff_utf8 {s t : String} : compare s t = .lt ↔ utf8 s < utf8 t := by
  have hlt {s t : String} (h : compare s t = .lt) : utf8 s < utf8 t :=
    utf8_lt_of_lt (compareOfLessAndEq_eq_lt.mp h)
  refine ⟨hlt, fun h => ?_⟩
  cases hc : compare s t with
  | lt => rfl
  | eq =>
    obtain rfl := Std.LawfulEqOrd.eq_of_compare hc
    exact absurd h (List.lt_irrefl _)
  | gt => exact absurd h (List.lt_asymm (hlt (Std.OrientedCmp.lt_of_gt hc)))

end Verdict
