import SeriesCatalog.Text.Hex

/-!
# Tokens of TOML text

Input: the characters of a TOML text.

Device: a scan that takes one character at a time (`Mode`).

Result: `tokens`, the tokens of the text without its comments, if every string is closed
and every character is allowed where it stands.
-/

namespace SeriesCatalog
namespace Toml

inductive Token
  /-- Characters of keys, numbers, dates and words. -/
  | bare (text : List Char)
  | dot
  /-- A string, on one line or between tripled quotes. -/
  | string (text : String) (oneLine : Bool)
  | equals
  | comma
  | openBracket
  | closeBracket
  | openBrace
  | closeBrace
  /-- The end of a line. -/
  | newLine
  /-- A space or a tab. -/
  | blank (char : Char)
deriving DecidableEq, Repr

/-- The two kinds of quotes, of which one knows escapes. -/
inductive Quote
  | basic
  | literal
deriving DecidableEq, Repr

def Quote.char : Quote → Char
  | .basic => '"'
  | .literal => '\''

/-- What the scan is in the middle of.  Characters held are last first. -/
inductive Mode
  | between
  | bare (held : List Char)
  | comment
  /-- After a carriage return outside strings. -/
  | returned
  | openedOnce (q : Quote)
  | openedTwice (q : Quote)
  /-- In a string on one line. -/
  | single (q : Quote) (held : List Char)
  | openedThrice (q : Quote)
  /-- After three quotes and a carriage return. -/
  | openedReturned (q : Quote)
  /-- In a string between tripled quotes, after some quotes. -/
  | multi (q : Quote) (quotes : Nat) (held : List Char)
  /-- In such a string, after a carriage return. -/
  | multiReturned (q : Quote) (held : List Char)
  | escape (oneLine : Bool) (held : List Char)
  /-- After a backslash and blanks, at the end of a line or before it. -/
  | joining (ended : Bool) (held : List Char)
  /-- After a backslash, blanks and a carriage return. -/
  | joiningReturned (held : List Char)
  /-- In the digits of an escape. -/
  | digits (oneLine : Bool) (left value : Nat) (held : List Char)

def isBare (c : Char) : Bool :=
  c.isAlphanum || c = '_' || c = '-' || c = '+' || c = ':'

/-- Whether a character may stand in a comment or a string. -/
def isAllowed (c : Char) : Bool :=
  c = '\t' || (0x20 ≤ c.toNat && c.toNat ≠ 0x7F)

def sign? : Char → Option Token
  | '.' => some .dot
  | '=' => some .equals
  | ',' => some .comma
  | '[' => some .openBracket
  | ']' => some .closeBracket
  | '{' => some .openBrace
  | '}' => some .closeBrace
  | '\n' => some .newLine
  | ' ' => some (.blank ' ')
  | '\t' => some (.blank '\t')
  | _ => none

/-- The character that a one-letter escape stands for. -/
def escaped? : Char → Option Char
  | '"' => some '"'
  | '\\' => some '\\'
  | 'b' => some '\x08'
  | 'e' => some '\x1b'
  | 'f' => some '\x0c'
  | 'n' => some '\n'
  | 'r' => some '\r'
  | 't' => some '\t'
  | _ => none

/-- The mode inside a string, with its characters. -/
def inside (oneLine : Bool) (held : List Char) : Mode :=
  if oneLine then .single .basic held else .multi .basic 0 held

/-- The character of a code point, if it has one. -/
def charOfCode? (n : Nat) : Option Char :=
  if n.isValidChar then some (Char.ofNat n) else none

/-- The mode after a character between tokens, with the token that it makes. -/
def begin? (c : Char) : Option (Option Token × Mode) :=
  match sign? c with
  | some t => some (some t, .between)
  | none =>
      if isBare c then some (none, .bare [c])
      else if c = '#' then some (none, .comment)
      else if c = '\r' then some (none, .returned)
      else if c = '"' then some (none, .openedOnce .basic)
      else if c = '\'' then some (none, .openedOnce .literal)
      else none

/-- The mode after a character of a string between tripled quotes. -/
def continueMulti? (q : Quote) (held : List Char) (c : Char) : Option Mode :=
  if c = '\\' && q = .basic then some (.escape false held)
  else if c = '\r' then some (.multiReturned q held)
  else if c = '\n' || isAllowed c then some (.multi q 0 (c :: held))
  else none

def withQuotes (q : Quote) (n : Nat) (held : List Char) : List Char :=
  List.replicate n q.char ++ held

def stringToken (oneLine : Bool) (held : List Char) : Token :=
  .string (String.ofList held.reverse) oneLine

/-- The mode after a character, with the tokens that it completes. -/
def advance? : Mode → Char → Option (List Token × Mode)
  | .between, c => (begin? c).map fun (t?, m) => (t?.toList, m)
  | .bare held, c =>
      if isBare c then some ([], .bare (c :: held))
      else (begin? c).map fun (t?, m) => (.bare held.reverse :: t?.toList, m)
  | .comment, c =>
      if c = '\n' then some ([.newLine], .between)
      else if c = '\r' then some ([], .returned)
      else if isAllowed c then some ([], .comment)
      else none
  | .returned, c => if c = '\n' then some ([.newLine], .between) else none
  | .openedOnce q, c =>
      if c = q.char then some ([], .openedTwice q)
      else if c = '\\' && q = .basic then some ([], .escape true [])
      else if isAllowed c then some ([], .single q [c])
      else none
  | .openedTwice q, c =>
      if c = q.char then some ([], .openedThrice q)
      else (begin? c).map fun (t?, m) => (stringToken true [] :: t?.toList, m)
  | .single q held, c =>
      if c = q.char then some ([stringToken true held], .between)
      else if c = '\\' && q = .basic then some ([], .escape true held)
      else if isAllowed c then some ([], .single q (c :: held))
      else none
  | .openedThrice q, c =>
      if c = q.char then some ([], .multi q 1 [])
      else if c = '\n' then some ([], .multi q 0 [])
      else if c = '\r' then some ([], .openedReturned q)
      else (continueMulti? q [] c).map fun m => ([], m)
  | .openedReturned q, c => if c = '\n' then some ([], .multi q 0 []) else none
  | .multi q n held, c =>
      if c = q.char then
        if n = 4 then some ([stringToken false (withQuotes q 2 held)], .between)
        else some ([], .multi q (n + 1) held)
      else if n < 3 then (continueMulti? q (withQuotes q n held) c).map fun m => ([], m)
      else
        (begin? c).map fun (t?, m) =>
          (stringToken false (withQuotes q (n - 3) held) :: t?.toList, m)
  | .multiReturned q held, c =>
      if c = '\n' then some ([], .multi q 0 ('\n' :: '\r' :: held)) else none
  | .escape oneLine held, c =>
      match escaped? c with
      | some d => some ([], inside oneLine (d :: held))
      | none =>
          if c = 'x' then some ([], .digits oneLine 2 0 held)
          else if c = 'u' then some ([], .digits oneLine 4 0 held)
          else if c = 'U' then some ([], .digits oneLine 8 0 held)
          else if oneLine then none
          else if c = '\n' then some ([], .joining true held)
          else if c = '\r' then some ([], .joiningReturned held)
          else if c = ' ' || c = '\t' then some ([], .joining false held)
          else none
  | .joining ended held, c =>
      if c = '\n' then some ([], .joining true held)
      else if c = '\r' then some ([], .joiningReturned held)
      else if c = ' ' || c = '\t' then some ([], .joining ended held)
      else if !ended then none
      else if c = '"' then some ([], .multi .basic 1 held)
      else (continueMulti? .basic held c).map fun m => ([], m)
  | .joiningReturned held, c => if c = '\n' then some ([], .joining true held) else none
  | .digits oneLine left value held, c =>
      match Text.hexValue? c with
      | none => none
      | some d =>
          let value := 16 * value + d
          if left = 1 then
            (charOfCode? value).map fun d => ([], inside oneLine (d :: held))
          else some ([], .digits oneLine (left - 1) value held)

/-- The tokens that the end of the text completes. -/
def complete? : Mode → Option (List Token)
  | .between => some []
  | .bare held => some [.bare held.reverse]
  | .comment => some []
  | .openedTwice _ => some [stringToken true []]
  | .multi q n held =>
      if n < 3 then none else some [stringToken false (withQuotes q (n - 3) held)]
  | _ => none

def scan? : Mode → List Char → Option (List Token)
  | m, [] => complete? m
  | m, c :: l =>
      match advance? m c with
      | none => none
      | some (before, m) => (scan? m l).map (before ++ ·)

/-- The mark that a text may begin with. -/
def byteOrderMark : Char := '\uFEFF'

def tokens? (text : String) : Option (List Token) :=
  match text.toList with
  | [] => some []
  | c :: l => scan? .between (if c = byteOrderMark then l else c :: l)

end Toml
end SeriesCatalog
