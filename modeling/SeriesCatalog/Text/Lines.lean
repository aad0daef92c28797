/-!
# Lines of octets

A line ends with a line feed, which belongs to it.  What follows the last line feed is a
line of its own if it is not empty.

* `lines`: the lines of octets.
* `LinesOf`: what lines are, without how they are found.
* `withoutBreak`: a line without its line feed and the carriage return before it.
-/

namespace SeriesCatalog
namespace Text

/-- The octet that ends a line. -/
def lineFeed : UInt8 := 10

/-- The lines of octets, where `held` are the octets of the line begun, last first. -/
def linesFrom (held : List UInt8) : List UInt8 → List (List UInt8)
  | [] => if held.isEmpty then [] else [held.reverse]
  | b :: l =>
      if b = lineFeed then (b :: held).reverse :: linesFrom [] l
      else linesFrom (b :: held) l

def lines (octets : List UInt8) : List (List UInt8) :=
  linesFrom [] octets

theorem flatten_linesFrom (octets held : List UInt8) :
    (linesFrom held octets).flatten = held.reverse ++ octets := by
  induction octets generalizing held with
  | nil => cases held <;> simp [linesFrom]
  | cons b l ih => by_cases h : b = lineFeed <;> simp [linesFrom, h, ih]

/-- Only the last octet of a line may be a line feed. -/
theorem exists_body_of_mem_linesFrom {octets held line : List UInt8} (hheld : lineFeed ∉ held)
    (h : line ∈ linesFrom held octets) : ∃ body last, line = body ++ [last] ∧ lineFeed ∉ body := by
  induction octets generalizing held with
  | nil =>
      cases held with
      | nil => cases h
      | cons b held =>
          obtain rfl := List.mem_singleton.mp h
          exact ⟨held.reverse, b, List.reverse_cons, by simp_all⟩
  | cons b l ih =>
      by_cases hb : b = lineFeed
      · simp only [linesFrom, if_pos hb] at h
        rcases List.mem_cons.mp h with rfl | h
        · exact ⟨held.reverse, b, List.reverse_cons, by simpa using hheld⟩
        · exact ih List.not_mem_nil h
      · simp only [linesFrom, if_neg hb] at h
        exact ih (by simp [hheld, Ne.symm hb]) h

theorem getLast?_of_mem_dropLast_linesFrom {octets held line : List UInt8}
    (h : line ∈ (linesFrom held octets).dropLast) : line.getLast? = some lineFeed := by
  induction octets generalizing held with
  | nil => cases held <;> simp [linesFrom] at h
  | cons b l ih =>
      by_cases hb : b = lineFeed
      · simp only [linesFrom, if_pos hb] at h
        cases hrest : linesFrom [] l with
        | nil => simp [hrest] at h
        | cons next rest =>
            rw [hrest, List.dropLast_cons_cons] at h
            rcases List.mem_cons.mp h with rfl | h
            · simp [hb]
            · exact ih (hrest ▸ h)
      · simp only [linesFrom, if_neg hb] at h
        exact ih h

/-- Octets are divided into lines behind each of their line feeds. -/
structure LinesOf (octets : List UInt8) (lines : List (List UInt8)) : Prop where
  flatten_eq : lines.flatten = octets
  /-- A line has an octet at its end, and no line feed before that. -/
  exists_body : ∀ line ∈ lines, ∃ body last, line = body ++ [last] ∧ (10 : UInt8) ∉ body
  /-- A line that another one follows ends with a line feed. -/
  getLast?_eq : ∀ line ∈ lines.dropLast, line.getLast? = some 10

theorem linesOf_lines (octets : List UInt8) : LinesOf octets (lines octets) where
  flatten_eq := flatten_linesFrom octets []
  exists_body _ h := exists_body_of_mem_linesFrom List.not_mem_nil h
  getLast?_eq _ h := getLast?_of_mem_dropLast_linesFrom h

/-- The octet that may stand before a line feed. -/
def carriageReturn : UInt8 := 13

/-- A line without its end, where the last octet is first. -/
def dropBreak : List UInt8 → List UInt8
  | [] => []
  | b :: l =>
      if b ≠ lineFeed then b :: l
      else match l with
        | [] => []
        | c :: before => if c = carriageReturn then before else l

/-- A line without its line feed and the carriage return before it. -/
def withoutBreak (line : List UInt8) : List UInt8 :=
  (dropBreak line.reverse).reverse

end Text
end SeriesCatalog
