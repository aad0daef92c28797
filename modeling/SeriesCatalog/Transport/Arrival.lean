import SeriesCatalog.Text.Blank
import SeriesCatalog.Text.Lines
import SeriesCatalog.Text.Utf8

/-!
# Lines that arrive

The octets of a session are its lines, read one after the other.  A line is a text without
its end, or it is no text at all, which ends the reading.
-/

namespace SeriesCatalog
namespace Transport

/-- What reading the next line gives. -/
inductive Arrival
  | line (text : String)
  /-- The complaint about a line that cannot be read. -/
  | unreadable (complaint : String)
deriving DecidableEq, Repr

/-- What reading a line of octets gives.  The end of the line is no part of the text, so
that a character that it cuts short is incomplete. -/
def arrivalOfLine (octets : List UInt8) : Arrival :=
  match Text.Utf8.decode (Text.withoutBreak octets) with
  | .ok text => .line text
  | .error flaw => .unreadable flaw.message

/-- What reading the lines of octets gives. -/
def arrivals (octets : List UInt8) : List Arrival :=
  (Text.lines octets).map arrivalOfLine

/-- The requests among lines: those that are not blank, up to the first line that cannot be
read. -/
def requestLines : List Arrival → List String
  | [] => []
  | .line t :: l => if Text.isBlankText t then requestLines l else t :: requestLines l
  | .unreadable _ :: _ => []

end Transport
end SeriesCatalog
