import SeriesCatalog.Document.ObjectId
import SeriesCatalog.Proofs.Text.Octets
import SeriesCatalog.Text.Base64
import SeriesCatalog.Text.Hex

/-!
# Octets read back from their text

Octets are written in base64 or as hexadecimal digits, which give them back.

Results:
* `Base64.decode?_encode`: base64, whatever the number of octets is.
* `octetsOfHex?_hexText`: the two digits of an octet.
* `ObjectId.parse_hex`: the digits of an identifier.
-/

namespace SeriesCatalog
namespace Text

namespace Base64

theorem digit?_digit (n : Nat) : digit? (digit n) = some (n % 64) := by
  have hplaces : ∀ k < 64, digit? (alphabet.getD k 'A') = some k := by decide +kernel
  exact hplaces _ (Nat.mod_lt n (by decide))

theorem digit_ne_padding (n : Nat) : digit n ≠ padding := by
  intro h
  have hplace := digit?_digit n
  rw [h] at hplace
  cases hplace

theorem octet_eq {n : Nat} {a : UInt8} (h : n % 256 = a.toNat) : octet n = a := by
  rw [octet, h, UInt8.ofNat_toNat]

theorem encode_cons_ne_nil (a : UInt8) (l : List UInt8) : encode (a :: l) ≠ [] := by
  match l with
  | [] | [_] | _ :: _ :: _ => simp [encode]

theorem decode?_one (a : UInt8) : decode? (encode [a]) = some [a] := by
  have ha := a.toNat_lt
  have hbits : a.toNat * 16 % 64 % 16 = 0 := by omega
  have hoctet : octet (a.toNat * 16 / 64 % 64 * 4 + a.toNat * 16 % 64 / 16) = a :=
    octet_eq (by omega)
  simp [encode, decode?, decodeLast?, digit?_digit, hbits, hoctet]

theorem decode?_two (a b : UInt8) : decode? (encode [a, b]) = some [a, b] := by
  have ha := a.toNat_lt
  have hb := b.toNat_lt
  generalize hn : (a.toNat * 256 + b.toNat) * 4 = n
  have hbits : n % 64 % 4 = 0 := by omega
  have hjoined : (n / 4096 % 64 * 64 + n / 64 % 64) * 64 + n % 64 = n := by omega
  have hfirst : octet (n / 1024) = a := octet_eq (by omega)
  have hsecond : octet (n / 4) = b := octet_eq (by omega)
  simp [encode, hn, decode?, decodeLast?, digit?_digit, digit_ne_padding, hbits, hjoined, hfirst,
    hsecond]

theorem decode?_three (a b c : UInt8) {l : List UInt8} (hl : decode? (encode l) = some l) :
    decode? (encode (a :: b :: c :: l)) = some (a :: b :: c :: l) := by
  have ha := a.toNat_lt
  have hb := b.toNat_lt
  have hc := c.toNat_lt
  generalize hn : (a.toNat * 256 + b.toNat) * 256 + c.toNat = n
  have hjoined : ((n / 262144 % 64 * 64 + n / 4096 % 64) * 64 + n / 64 % 64) * 64 + n % 64 = n := by
    omega
  have hfirst : octet (n / 65536) = a := octet_eq (by omega)
  have hsecond : octet (n / 256) = b := octet_eq (by omega)
  have hthird : octet n = c := octet_eq (by omega)
  cases l with
  | nil =>
      simp [encode, hn, decode?, decodeLast?, digit?_digit, digit_ne_padding, hjoined, hfirst,
        hsecond, hthird]
  | cons x l =>
      simp [encode, hn, decode?, encode_cons_ne_nil, digit?_digit, hjoined, hfirst, hsecond,
        hthird, hl]

/-- **Base64 is read back.** -/
theorem decode?_encode (l : List UInt8) : decode? (encode l) = some l := by
  induction l using encode.induct with
  | case1 => rfl
  | case2 a => exact decode?_one a
  | case3 a b => exact decode?_two a b
  | case4 a b c l ih => exact decode?_three a b c ih

end Base64

/-- **The two digits of an octet are read back.** -/
theorem octetsOfHex?_hexText (b : UInt8) : octetsOfHex? (hexText 2 b.toNat) = some [b] := by
  have hoctets : ∀ n < 256, octetsOfHex? (hexText 2 n) = some [UInt8.ofNat n] := by
    decide +kernel
  have hb := hoctets b.toNat b.toNat_lt
  rwa [UInt8.ofNat_toNat] at hb

theorem mem_hexDigits_of_isLowerHex {c : Char} (h : isLowerHex c = true) : c ∈ hexDigits := by
  have hchars : ∀ n < 128, isLowerHex (Char.ofNat n) = true → Char.ofNat n ∈ hexDigits := by
    decide +kernel
  have hc : c.toNat < 128 := by
    simp only [isLowerHex, Char.isDigit, Bool.or_eq_true, Bool.and_eq_true, decide_eq_true_eq,
      UInt32.le_iff_toNat_le, Char.le_def] at h
    rcases h with ⟨-, h⟩ | ⟨-, h⟩
    all_goals exact Nat.lt_of_le_of_lt h (by decide)
  have hmem := hchars c.toNat hc
  rw [Char.ofNat_toNat] at hmem
  exact hmem h

end Text

namespace ObjectId

open Text

/-- A digit in lower case is an octet of its own, which is accepted and kept. -/
theorem octet_of_mem_hexDigits {c : Char} (hc : c ∈ hexDigits) :
    String.utf8EncodeChar c = [UInt8.ofNat c.toNat] ∧
      (hexValue? (Char.ofNat (UInt8.ofNat c.toNat).toNat)).isSome = true ∧ lowerDigit c = c := by
  have hall : hexDigits.all (fun c => String.utf8EncodeChar c = [UInt8.ofNat c.toNat] ∧
      (hexValue? (Char.ofNat (UInt8.ofNat c.toNat).toNat)).isSome = true ∧
      lowerDigit c = c) = true := by decide +kernel
  exact of_decide_eq_true (List.all_eq_true.mp hall c hc)

theorem encode_ofList {l : List Char} (h : ∀ c ∈ l, c ∈ hexDigits) :
    Utf8.encode (String.ofList l) = l.map fun c => UInt8.ofNat c.toNat := by
  rw [Utf8.encode_eq_flatMap, String.toList_ofList]
  induction l with
  | nil => rfl
  | cons c l ih =>
      obtain ⟨hc, hl⟩ := List.forall_mem_cons.mp h
      rw [List.flatMap_cons, (octet_of_mem_hexDigits hc).1, ih hl]
      rfl

theorem foreignDigit?_eq_none {l : List Char} (h : ∀ c ∈ l, c ∈ hexDigits) (index : Nat) :
    foreignDigit? index (l.map fun c => UInt8.ofNat c.toNat) = none := by
  induction l generalizing index with
  | nil => rfl
  | cons c l ih =>
      obtain ⟨hc, hl⟩ := List.forall_mem_cons.mp h
      rw [List.map_cons, foreignDigit?, if_pos (octet_of_mem_hexDigits hc).2.1]
      exact ih hl (index + 1)

/-- **An identifier is read back from its digits.** -/
theorem parse_hex (id : ObjectId) : parse id.hex = .ok id := by
  obtain ⟨digits, hvalid⟩ := id
  obtain ⟨hlength, hlower⟩ :
      digits.length = identifierLength ∧ ∀ c ∈ digits, isLowerHex c = true := by
    simpa [isIdentifier] using hvalid
  have hdigits : ∀ c ∈ digits, c ∈ hexDigits :=
    fun c hc => mem_hexDigits_of_isLowerHex (hlower c hc)
  have hsame : digits.map lowerDigit = digits :=
    (List.map_congr_left fun c hc => (octet_of_mem_hexDigits (hdigits c hc)).2.2).trans
      (List.map_id digits)
  have hpaired : identifierLength % 2 = 0 := by decide
  simp [parse, hex, encode_ofList hdigits, foreignDigit?_eq_none hdigits, hlength, hpaired, hsame,
    hvalid]

end ObjectId
end SeriesCatalog
