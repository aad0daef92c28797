import SeriesCatalog.Text.Utf8

/-!
# The order of texts and of their octets

Texts are compared character by character, and the octets that spell them octet by octet.  In
UTF-8 the two come to the same, since the first octet of a character tells how many there are,
and the rest holds its digits, the highest first.

* `Utf8.encode_eq_flatMap`: the octets of a text are those of its characters.
* `Utf8.encode_lt_encode_iff`: texts and their octets are in the same order.
-/

namespace SeriesCatalog
namespace Text
namespace Utf8

/-! ## Octets as a list -/

theorem toListFrom_eq (b : ByteArray) (i : Nat) (r : List UInt8) :
    ByteArray.toList.loop b i r = r.reverse ++ b.data.toList.drop i := by
  fun_induction ByteArray.toList.loop b i r with
  | case1 i r h ih =>
      have hi : i < b.data.toList.length := by simpa using h
      rw [ih, List.drop_eq_getElem_cons hi]
      simp [ByteArray.get!, h]
  | case2 i r h =>
      have hi : b.data.toList.length ≤ i := by simpa using h
      simp [List.drop_eq_nil_of_le hi]

theorem encode_eq_flatMap (s : String) : encode s = s.toList.flatMap String.utf8EncodeChar := by
  have hlist : encode s = s.toByteArray.data.toList := by
    simp [encode, ByteArray.toList, toListFrom_eq]
  rw [hlist, ← String.utf8Encode_toList, List.utf8Encode, List.toList_data_toByteArray]

/-! ## Order -/

/-- The octets of characters differ where the number of octets or a digit does, whatever comes
behind them. -/
theorem utf8EncodeChar_append_lt {c d : Char} (h : c < d) (x y : List UInt8) :
    String.utf8EncodeChar c ++ x < String.utf8EncodeChar d ++ y := by
  have hlt : c.val.toNat < d.val.toNat := h
  have hgreatest : d.val.toNat < 0x110000 := by
    have hvalid : d.val.toNat.isValidChar := d.valid
    rcases hvalid with hlow | ⟨-, hhigh⟩ <;> omega
  simp only [String.utf8EncodeChar]
  generalize c.val.toNat = v at *
  generalize d.val.toNat = w at *
  -- one case for each number of octets of either character
  repeat' split
  all_goals
    simp only [List.cons_append, List.nil_append, List.cons_lt_cons_iff,
      UInt8.lt_iff_toNat_lt, ← UInt8.toNat_inj, UInt8.toNat_ofNat']
    simp (disch := omega) only [Nat.mod_eq_of_lt]
  all_goals omega

theorem flatMap_utf8EncodeChar_lt :
    ∀ {l m : List Char}, l < m →
      l.flatMap String.utf8EncodeChar < m.flatMap String.utf8EncodeChar
  | _, [], h => absurd h (List.not_lt_nil _)
  | [], d :: m, _ => by
      obtain ⟨b, rest, hd⟩ := List.exists_cons_of_ne_nil (String.utf8EncodeChar_ne_nil (c := d))
      simp [hd]
  | c :: l, d :: m, h => by
      rw [List.flatMap_cons, List.flatMap_cons]
      rcases List.cons_lt_cons_iff.mp h with hlt | ⟨rfl, hrest⟩
      · exact utf8EncodeChar_append_lt hlt _ _
      · exact List.append_left_lt (flatMap_utf8EncodeChar_lt hrest)

/-- **Texts and their octets are in the same order.** -/
theorem encode_lt_encode_iff {s t : String} : encode s < encode t ↔ s < t := by
  have hmono : ∀ {s t : String}, s < t → encode s < encode t := by
    intro s t h
    rw [encode_eq_flatMap, encode_eq_flatMap]
    exact flatMap_utf8EncodeChar_lt (String.lt_iff.mp h)
  refine ⟨fun h => ?_, hmono⟩
  by_cases hlt : s < t
  · exact hlt
  · by_cases hgt : t < s
    · exact absurd (hmono hgt) (List.lt_asymm h)
    · have hsame : s = t := Std.le_antisymm (Std.not_lt.mp hgt) (Std.not_lt.mp hlt)
      exact absurd (hsame ▸ h) (List.lt_irrefl _)

end Utf8
end Text
end SeriesCatalog
