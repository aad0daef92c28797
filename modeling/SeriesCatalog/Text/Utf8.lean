/-!
# UTF-8

Octets are read as UTF-8 from left to right.  Reading stops at the first character
that is cut short, overlong, a surrogate or out of range, and says where that
character starts and how many octets of it are known to be wrong.

* `Utf8.decode`: the characters, or the first flaw.
-/

namespace SeriesCatalog
namespace Text
namespace Utf8

/-- The first place where octets are not UTF-8. -/
structure Flaw where
  /-- The number of octets before the flawed character. -/
  validUpTo : Nat
  /-- How many octets are wrong, or `none` if the octets end inside a character. -/
  length? : Option Nat
deriving DecidableEq, Repr

def Flaw.message (f : Flaw) : String :=
  match f.length? with
  | some n => s!"invalid utf-8 sequence of {n} bytes from index {f.validUpTo}"
  | none => s!"incomplete utf-8 byte sequence from index {f.validUpTo}"

/-- What the first octet of a character of several octets promises. -/
structure Lead where
  width : Nat
  low : UInt8
  high : UInt8
deriving DecidableEq, Repr

/-- Reads the first octet of a character of several octets. -/
def lead? (a : UInt8) : Option Lead :=
  if 0xC2 ≤ a && a ≤ 0xDF then some ⟨2, 0x80, 0xBF⟩
  else if a = 0xE0 then some ⟨3, 0xA0, 0xBF⟩
  else if a = 0xED then some ⟨3, 0x80, 0x9F⟩
  else if 0xE1 ≤ a && a ≤ 0xEF then some ⟨3, 0x80, 0xBF⟩
  else if a = 0xF0 then some ⟨4, 0x90, 0xBF⟩
  else if 0xF1 ≤ a && a ≤ 0xF3 then some ⟨4, 0x80, 0xBF⟩
  else if a = 0xF4 then some ⟨4, 0x80, 0x8F⟩
  else none

/-- Whether an octet continues a character. -/
def isContinuation (b : UInt8) : Bool :=
  0x80 ≤ b && b ≤ 0xBF

/-- The character with the code point whose highest bits are `high`, followed by the six
bits of each octet of `rest`. -/
def compose (high : Nat) (rest : List UInt8) : Char :=
  Char.ofNat (rest.foldl (fun n b => n * 64 + b.toNat % 64) high)

/-- Reads octets of which `done` octets have been read before. -/
def decodeFrom (done : Nat) : List UInt8 → Except Flaw (List Char)
  | [] => .ok []
  | a :: l =>
      if a < 0x80 then (Char.ofNat a.toNat :: ·) <$> decodeFrom (done + 1) l
      else match lead? a, l with
        | none, _ => .error ⟨done, some 1⟩
        | some _, [] => .error ⟨done, none⟩
        | some d, b :: l =>
            if b < d.low || d.high < b then .error ⟨done, some 1⟩
            else if d.width = 2 then
              (compose (a.toNat % 32) [b] :: ·) <$> decodeFrom (done + 2) l
            else match l with
              | [] => .error ⟨done, none⟩
              | c :: l =>
                  if !isContinuation c then .error ⟨done, some 2⟩
                  else if d.width = 3 then
                    (compose (a.toNat % 16) [b, c] :: ·) <$> decodeFrom (done + 3) l
                  else match l with
                    | [] => .error ⟨done, none⟩
                    | e :: l =>
                        if !isContinuation e then .error ⟨done, some 3⟩
                        else
                          (compose (a.toNat % 8) [b, c, e] :: ·) <$>
                            decodeFrom (done + 4) l

/-- The text that octets spell in UTF-8. -/
def decode (octets : List UInt8) : Except Flaw String :=
  String.ofList <$> decodeFrom 0 octets

/-- The octets of a text in UTF-8. -/
def encode (s : String) : List UInt8 :=
  s.toUTF8.toList

/-- The octets that are listed behind those of `r` are the ones from place `i` on. -/
theorem length_toListFrom (b : ByteArray) (i : Nat) (r : List UInt8) :
    (ByteArray.toList.loop b i r).length = r.length + (b.size - i) := by
  fun_induction ByteArray.toList.loop b i r with
  | case1 i r h ih =>
      simp only [List.length_cons] at ih
      omega
  | case2 i r h =>
      simp only [List.length_reverse]
      omega

@[simp] theorem length_encode (s : String) : (encode s).length = s.utf8ByteSize := by
  have h := length_toListFrom s.toUTF8 0 []
  simpa [encode, ByteArray.toList] using h

end Utf8
end Text
end SeriesCatalog
