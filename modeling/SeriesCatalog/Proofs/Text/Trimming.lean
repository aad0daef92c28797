import Mathlib.Data.List.TakeWhile
import SeriesCatalog.Text.Blank

/-!
# What trimming leaves of a text

* `isEmpty_trimBlanks`: nothing is left exactly if the text holds nothing but blanks.
* `trimBlanks_surrounded`: blanks around a text that neither begins nor ends with one are all
  that is taken off.
-/

namespace SeriesCatalog
namespace Text

theorem dropBlanks_eq_nil_iff {l : List Char} :
    dropBlanks l = [] ↔ ∀ c ∈ l, isBlank c = true :=
  List.dropWhile_eq_nil_iff

/-- What is left of a text holds nothing but blanks only if there is nothing else in it. -/
theorem all_blank_dropBlanks_iff {l : List Char} :
    (∀ c ∈ dropBlanks l, isBlank c = true) ↔ ∀ c ∈ l, isBlank c = true := by
  constructor
  · intro h c hc
    have hsplit : l.takeWhile isBlank ++ l.dropWhile isBlank = l :=
      List.takeWhile_append_dropWhile
    rw [← hsplit] at hc
    rcases List.mem_append.mp hc with hc | hc
    · exact List.mem_takeWhile_imp hc
    · exact h c hc
  · intro h c hc
    exact h c ((List.dropWhile_sublist isBlank).mem hc)

theorem isEmpty_trimBlanks (s : String) : (trimBlanks s).isEmpty = isBlankText s := by
  rw [Bool.eq_iff_iff, isBlankText, List.all_eq_true, trimBlanks, String.isEmpty_iff,
    ← String.toList_eq_nil_iff, String.toList_ofList, List.reverse_eq_nil_iff,
    dropBlanks_eq_nil_iff]
  simp only [List.mem_reverse, all_blank_dropBlanks_iff]

theorem dropBlanks_append {w : List Char} (hw : ∀ c ∈ w, isBlank c = true) (l : List Char) :
    dropBlanks (w ++ l) = dropBlanks l :=
  List.dropWhile_append_of_pos hw

theorem dropBlanks_eq_self {l : List Char} (h : ∀ c ∈ l.head?, isBlank c = false) :
    dropBlanks l = l := by
  cases l with
  | nil => rfl
  | cons c l => simp [dropBlanks, h c rfl]

theorem trimBlanks_surrounded {before text after : String} (hbefore : isBlankText before = true)
    (hafter : isBlankText after = true) (htext : text ≠ "")
    (hfirst : ∀ c ∈ text.toList.head?, isBlank c = false)
    (hlast : ∀ c ∈ text.toList.getLast?, isBlank c = false) :
    trimBlanks (before ++ text ++ after) = text := by
  have hb : ∀ c ∈ before.toList, isBlank c = true := List.all_eq_true.mp hbefore
  have ha : ∀ c ∈ after.toList.reverse, isBlank c = true := by
    simpa using List.all_eq_true.mp hafter
  have hne : text.toList ≠ [] := mt String.toList_eq_nil_iff.mp htext
  have hhead : ∀ c ∈ (text.toList ++ after.toList).head?, isBlank c = false := by
    intro c hc
    rw [List.head?_append, List.head?_eq_some_head hne, Option.some_or] at hc
    exact hfirst c (by rwa [List.head?_eq_some_head hne])
  have hreverse : ∀ c ∈ text.toList.reverse.head?, isBlank c = false := by
    simpa using hlast
  rw [trimBlanks, String.toList_append, String.toList_append, List.append_assoc,
    dropBlanks_append hb, dropBlanks_eq_self hhead, List.reverse_append, dropBlanks_append ha,
    dropBlanks_eq_self hreverse, List.reverse_reverse, String.ofList_toList]

end Text
end SeriesCatalog
