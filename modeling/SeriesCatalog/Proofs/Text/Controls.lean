import SeriesCatalog.Proofs.Text.Numerals
import SeriesCatalog.Proofs.Text.Octets
import SeriesCatalog.Text.Lines
import SeriesCatalog.Text.Quoted

/-!
# Control characters and lines

Control characters stand before the space.  Two of them break lines, the line feed and the
carriage return.  Numbers have none, and quoting replaces them by escapes.

* `IsControl`: the control characters.
* `FreeOfControls`: texts without any.

Results:
* `freeOfControls_quoted`: no control character stands in a quoted text.
* `length_lines_encode`: a text that ends with a line feed has as many lines as line feeds.
-/

namespace SeriesCatalog
namespace Text

def IsControl (c : Char) : Prop :=
  c.toNat < 0x20

instance (c : Char) : Decidable (IsControl c) :=
  inferInstanceAs (Decidable (c.toNat < 0x20))

def FreeOfControls (l : List Char) : Prop :=
  ∀ c ∈ l, ¬ IsControl c

instance (l : List Char) : Decidable (FreeOfControls l) :=
  List.decidableBAll (fun c => ¬ IsControl c) l

variable {a b l : List Char} {c : Char}

theorem FreeOfControls.not_mem (h : FreeOfControls l) (hc : IsControl c) : c ∉ l :=
  fun hmem => h c hmem hc

@[simp] theorem freeOfControls_nil : FreeOfControls [] :=
  List.forall_mem_nil _

@[simp] theorem freeOfControls_cons :
    FreeOfControls (c :: l) ↔ ¬ IsControl c ∧ FreeOfControls l :=
  List.forall_mem_cons

@[simp] theorem freeOfControls_append :
    FreeOfControls (a ++ b) ↔ FreeOfControls a ∧ FreeOfControls b :=
  List.forall_mem_append

theorem freeOfControls_flatMap {α : Type} {f : α → List Char} {l : List α}
    (h : ∀ x ∈ l, FreeOfControls (f x)) : FreeOfControls (l.flatMap f) := by
  intro c hc
  obtain ⟨x, hx, hc⟩ := List.mem_flatMap.mp hc
  exact h x hx c hc

/-! ## Numbers -/

theorem not_isControl_of_isDigit (h : c.isDigit = true) : ¬ IsControl c := by
  have hzero : 48 ≤ c.toNat := by
    simp only [Char.isDigit, Bool.and_eq_true, decide_eq_true_eq] at h
    exact h.1
  simp only [IsControl]
  omega

theorem freeOfControls_toDigits (n : Nat) : FreeOfControls (Nat.toDigits 10 n) :=
  fun _ hc => not_isControl_of_isDigit (isDigit_of_mem_toDigits hc)

theorem freeOfControls_toString_nat (n : Nat) : FreeOfControls (toString n).toList := by
  rw [Nat.toString_eq_ofList_toDigits, String.toList_ofList]
  exact freeOfControls_toDigits n

theorem freeOfControls_toString (n : Int) : FreeOfControls (toString n).toList := by
  intro c hc
  rcases isDigit_or_minus_of_mem hc with hdigit | rfl
  · exact not_isControl_of_isDigit hdigit
  · decide

theorem freeOfControls_toDigits_sixteen (n : Nat) : FreeOfControls (Nat.toDigits 16 n) := by
  have hdigit : ∀ d < 16, ¬ IsControl (Nat.digitChar d) := by decide
  induction n using Nat.strong_induction_on with
  | _ n ih =>
      rcases Nat.lt_or_ge n 16 with hn | hn
      · simpa [Nat.toDigits_of_lt_base hn] using hdigit n hn
      · rw [Nat.toDigits_of_base_le (by decide) hn, freeOfControls_append]
        exact ⟨ih (n / 16) (by omega), by simpa using hdigit (n % 16) (by omega)⟩

theorem freeOfControls_hexText (width n : Nat) : FreeOfControls (hexText width n) := by
  rw [hexText, freeOfControls_append]
  refine ⟨fun c hc => ?_, freeOfControls_toDigits_sixteen n⟩
  rw [List.eq_of_mem_replicate hc]
  decide

/-! ## Quoting -/

theorem isUnprintable_of_isControl (hc : IsControl c) : isUnprintable c = true := by
  refine List.any_eq_true.mpr ⟨(0x0, 0x1f), List.mem_cons_self, ?_⟩
  simp only [IsControl] at hc
  simp only [Bool.and_eq_true, decide_eq_true_eq]
  omega

theorem freeOfControls_showChar (c : Char) : FreeOfControls (showChar c) := by
  unfold showChar
  split
  case h_7 =>
    split
    · have hdigits := freeOfControls_hexText 1 c.toNat
      simp only [codePointEscape, List.cons_append, freeOfControls_cons, freeOfControls_append,
        hdigits]
      decide
    · rename_i hprintable
      have hc : ¬ IsControl c := fun hc => hprintable (isUnprintable_of_isControl hc)
      simpa using hc
  all_goals decide

theorem freeOfControls_quoted (s : String) : FreeOfControls (quoted s).toList := by
  have hinside := freeOfControls_flatMap (fun c (_ : c ∈ s.toList) => freeOfControls_showChar c)
  simp only [quoted, String.toList_ofList, List.cons_append, freeOfControls_cons,
    freeOfControls_append, hinside, true_and]
  decide

/-! ## Lines -/

theorem length_linesFrom (octets held : List UInt8) :
    (linesFrom held (octets ++ [lineFeed])).length = octets.count lineFeed + 1 := by
  induction octets generalizing held with
  | nil => simp [linesFrom]
  | cons b l ih =>
      by_cases hb : b = lineFeed
      · simp [linesFrom, hb, ih]
      · simp [linesFrom, hb, ih]

theorem lineFeed_not_mem_utf8EncodeChar (hc : c ≠ '\n') : lineFeed ∉ String.utf8EncodeChar c := by
  have hne : c.val.toNat ≠ 10 := fun h => hc (Char.ext (UInt32.toNat_inj.mp h))
  simp only [String.utf8EncodeChar]
  generalize c.val.toNat = v at *
  -- one case for each number of octets
  repeat' split
  all_goals
    simp only [lineFeed, List.mem_cons, List.not_mem_nil, or_false, not_or, ← UInt8.toNat_inj,
      UInt8.toNat_ofNat', UInt8.toNat_ofNat]
    omega

/-- The line feed is the only character that is spelled with the octet of that number. -/
theorem count_utf8EncodeChar (c : Char) :
    (String.utf8EncodeChar c).count lineFeed = if c = '\n' then 1 else 0 := by
  split
  · rename_i hc
    rw [hc]
    rfl
  · rename_i hc
    exact List.count_eq_zero.mpr (lineFeed_not_mem_utf8EncodeChar hc)

theorem count_encode (s : String) :
    (Utf8.encode s).count lineFeed = s.toList.count '\n' := by
  rw [Utf8.encode_eq_flatMap]
  induction s.toList with
  | nil => rfl
  | cons c l ih =>
      rw [List.flatMap_cons, List.count_append, ih, count_utf8EncodeChar, List.count_cons,
        Nat.add_comm]
      simp

/-- **A text that ends with a line feed has as many lines as line feeds.** -/
theorem length_lines_encode (s : String) :
    (lines (Utf8.encode (s ++ "\n"))).length = s.toList.count '\n' + 1 := by
  have hend : Utf8.encode (s ++ "\n") = Utf8.encode s ++ [lineFeed] := by
    simp only [Utf8.encode_eq_flatMap, String.toList_append, List.flatMap_append]
    rfl
  rw [lines, hend, length_linesFrom, count_encode]

end Text
end SeriesCatalog
