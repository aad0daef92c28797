/-!
# First occurrences

Identities, specifiers and values are listed in the order in which they came first.  The
library function `List.eraseDups` says which elements those are; here is how the list grows
when one more element comes.

* `eraseDups_concat`: an element that has come before adds nothing, a new one goes to the
  end.
-/

namespace SeriesCatalog
namespace FirstOccurrences

variable {α : Type} [BEq α] [LawfulBEq α]

theorem eraseDups_concat (l : List α) (a : α) :
    (l ++ [a]).eraseDups = l.eraseDups ++ if l.contains a then [] else [a] := by
  rw [List.eraseDups_append]
  by_cases h : a ∈ l <;> simp [List.removeAll, List.eraseDups_cons, h]

theorem nodup_eraseDups : ∀ l : List α, l.eraseDups.Nodup
  | [] => List.nodup_nil
  | a :: l => by
      have hlength : (l.filter fun b => !b == a).length < (a :: l).length :=
        Nat.lt_succ_of_le (List.length_filter_le _ _)
      rw [List.eraseDups_cons]
      refine List.nodup_cons.mpr ⟨by simp, nodup_eraseDups _⟩
termination_by l => l.length
decreasing_by exact hlength

end FirstOccurrences
end SeriesCatalog
