import SeriesCatalog.Text.Blank

/-!
# Tokens of a query text

Input: a query text.

Device: a scan that takes one character at a time and is between two tokens, in a token
outside quotes, or in a token inside quotes.

Results:
* `tokens`: the texts of the tokens without the quotes around their runs, or the run that
  is still open at the end.

A quote opens a run where nothing of the token has been kept yet, and where what has been
kept ends with its only equals sign.  Everywhere else it is a character like any other.
-/

namespace SeriesCatalog
namespace Query

/-- Whether a character may open a run. -/
def isQuote (c : Char) : Bool :=
  c = '"' || c = '\'' || c = '`'

/-- What the scan is in the middle of.  The characters kept of a token are last first. -/
inductive Scan
  | between
  /-- In a token, outside quotes. -/
  | plain (kept : List Char)
  /-- In a token, inside a run that ends at a quote. -/
  | quoted (quote : Char) (kept : List Char)
deriving DecidableEq, Repr

/-- A run that the text does not close. -/
structure OpenRun where
  quote : Char
  kept : String
deriving DecidableEq, Repr

/-- Whether a quote opens a run after the characters kept, of which the last is first. -/
def opensRun : List Char → Bool
  | [] => true
  | c :: l => c = '=' && !l.contains '='

def tokenText (kept : List Char) : String :=
  String.ofList kept.reverse

def scan : Scan → List Char → Except OpenRun (List String)
  | .between, [] => .ok []
  | .plain kept, [] => .ok [tokenText kept]
  | .quoted q kept, [] => .error ⟨q, tokenText kept⟩
  | .between, c :: l =>
      if isQuote c then scan (.quoted c []) l
      else if Text.isBlank c then scan .between l
      else scan (.plain [c]) l
  | .plain kept, c :: l =>
      if isQuote c && opensRun kept then scan (.quoted c kept) l
      else if Text.isBlank c then (tokenText kept :: ·) <$> scan .between l
      else scan (.plain (c :: kept)) l
  | .quoted q kept, c :: l =>
      if c = q then scan (.plain kept) l else scan (.quoted q (c :: kept)) l

/-- The tokens of a query text. -/
def tokens (text : String) : Except OpenRun (List String) :=
  scan .between text.toList

end Query
end SeriesCatalog
