import SeriesCatalog.Json.Writer
import SeriesCatalog.Proofs.Decimal.Notation
import SeriesCatalog.Proofs.Text.Controls

/-!
# JSON text has no control characters

Strings are escaped, numbers have none, and no space is written between the parts of a value.

* `Decimal.Double.freeOfControls_jsonText`: numbers in JSON notation.
* `Json.freeOfControls_text`: the text of a value.
-/

namespace SeriesCatalog

open Text

namespace Decimal

theorem not_isControl_of_isNumeric {c : Char} (h : isNumeric c = true) : ¬ IsControl c := by
  simp only [isNumeric, Bool.or_eq_true, decide_eq_true_eq] at h
  rcases h with (((hdigit | rfl) | rfl) | rfl) | rfl
  · exact not_isControl_of_isDigit hdigit
  all_goals decide

theorem Double.freeOfControls_jsonText (d : Double) : FreeOfControls d.jsonText.toList := by
  have hnull : FreeOfControls "null".toList := by decide
  cases d with
  | finite negative rank =>
      exact fun c hc => not_isControl_of_isNumeric (isNumeric_jsonText_finite c hc)
  | infinite negative => exact hnull
  | nan => exact hnull

end Decimal

namespace Json

theorem freeOfControls_escape (c : Char) : FreeOfControls (escape c) := by
  unfold escape
  split
  case h_8 =>
    split
    · have hdigits := freeOfControls_hexText 4 c.toNat
      simp only [freeOfControls_cons, hdigits]
      decide
    · rename_i hc
      simpa [IsControl] using hc
  all_goals decide

theorem freeOfControls_quote (s : String) : FreeOfControls (quote s) := by
  have hinside := freeOfControls_flatMap (fun c (_ : c ∈ s.toList) => freeOfControls_escape c)
  simp only [quote, List.cons_append, freeOfControls_cons, freeOfControls_append, hinside]
  decide

mutual

theorem freeOfControls_compact : ∀ v : Json, FreeOfControls (compact v)
  | .null => by decide
  | .bool true => by decide
  | .bool false => by decide
  | .whole n => freeOfControls_toString n
  | .double d => d.freeOfControls_jsonText
  | .string s => freeOfControls_quote s
  | .list [] => by decide
  | .list (v :: l) => by
      have hitems := freeOfControls_compactItems l
      have hv := freeOfControls_compact v
      simp only [compact, List.cons_append, freeOfControls_cons, freeOfControls_append, hv, hitems]
      decide
  | .object [] => by decide
  | .object ((k, v) :: l) => by
      have hmembers := freeOfControls_compactMembers l
      have hv := freeOfControls_compact v
      simp only [compact, List.cons_append, freeOfControls_cons, freeOfControls_append, hv,
        hmembers, freeOfControls_quote]
      decide

theorem freeOfControls_compactItems : ∀ l : List Json, FreeOfControls (compactItems l)
  | [] => freeOfControls_nil
  | v :: l => by
      have hitems := freeOfControls_compactItems l
      have hv := freeOfControls_compact v
      simp only [compactItems, List.cons_append, freeOfControls_cons, freeOfControls_append, hv,
        hitems]
      decide

theorem freeOfControls_compactMembers :
    ∀ l : List (String × Json), FreeOfControls (compactMembers l)
  | [] => freeOfControls_nil
  | (k, v) :: l => by
      have hmembers := freeOfControls_compactMembers l
      have hv := freeOfControls_compact v
      simp only [compactMembers, List.cons_append, freeOfControls_cons, freeOfControls_append, hv,
        hmembers, freeOfControls_quote]
      decide

end

theorem freeOfControls_text (v : Json) : FreeOfControls v.text.toList := by
  rw [text, String.toList_ofList]
  exact freeOfControls_compact v

end Json
end SeriesCatalog
