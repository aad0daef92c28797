import SeriesCatalog.Text.Hex
import SeriesCatalog.Text.Unprintable

/-!
# Quoted texts in messages

A message shows a text in double quotes, with an escape for each character that could not
be told apart from its surroundings.
-/

namespace SeriesCatalog
namespace Text

/-- The code point of a character in braces. -/
def codePointEscape (c : Char) : List Char :=
  '\\' :: 'u' :: '{' :: hexText 1 c.toNat ++ ['}']

/-- A character of a quoted text. -/
def showChar (c : Char) : List Char :=
  match c with
  | '\x00' => ['\\', '0']
  | '\t' => ['\\', 't']
  | '\n' => ['\\', 'n']
  | '\r' => ['\\', 'r']
  | '"' => ['\\', '"']
  | '\\' => ['\\', '\\']
  | c => if isUnprintable c then codePointEscape c else [c]

def quoted (s : String) : String :=
  String.ofList ('"' :: s.toList.flatMap showChar ++ ['"'])

end Text
end SeriesCatalog
