import SeriesCatalog.Json.Error
import SeriesCatalog.Json.Numeral
import SeriesCatalog.Text.Hex

/-!
# Reading JSON text

Input: the characters of a text.

Device: a machine that takes one character at a time.  Its state says where the value
being read will stand (`Place`) and what the machine is in the middle of (`State`).

Results:
* `read`: the value of a text, or the first fault with its line and column.

The number of containers inside one another may be bounded.  A repeated key has the last
value given for it at the place of the first.
-/

namespace SeriesCatalog
namespace Json

/-- Where a value stands once it is read. -/
inductive Place
  /-- It is the whole text. -/
  | whole
  /-- It is an item of a list, after the items given, of which the last comes first. -/
  | item (before : List Json) (outer : Place)
  /-- It is a member of an object, after the members given. -/
  | member (before : List (String × Json)) (key : String) (outer : Place)
deriving Repr

/-- The number of containers around a place. -/
def Place.depth : Place → Nat
  | .whole => 0
  | .item _ outer => outer.depth + 1
  | .member _ _ outer => outer.depth + 1

/-- What a string is once it is read. -/
inductive Role
  | value (place : Place)
  /-- The key of a member of an object. -/
  | key (before : List (String × Json)) (outer : Place)
deriving Repr

/-- The next part of a number. -/
inductive NumberPart
  /-- The first digit, after a minus sign. -/
  | sign
  /-- What follows a first digit zero. -/
  | zero
  /-- More digits before the point. -/
  | whole
  /-- The first digit after the point. -/
  | point
  /-- More digits after the point. -/
  | fraction
  /-- The sign or the first digit of the exponent. -/
  | mark
  /-- The first digit of the exponent. -/
  | markSign
  /-- More digits of the exponent. -/
  | exponent
deriving DecidableEq, Repr

/-- The next part of a string. -/
inductive StringPart
  /-- A character of the string. -/
  | plain
  /-- The character after a backslash. -/
  | escape
  /-- The hexadecimal digits of an escape: the octets read, their value if all are digits,
  and the first half of a pair. -/
  | hex (octets : Nat) (value? : Option Nat) (first? : Option Nat)
  /-- The backslash of the second half of a pair. -/
  | secondSlash (first : Nat)
  /-- The letter of the second half of a pair. -/
  | secondLetter (first : Nat)
deriving Repr

/-- What the reader is in the middle of. -/
inductive State
  | value (place : Place)
  /-- The first item or the end of a list. -/
  | firstItem (outer : Place)
  /-- The next item of a list, after a comma. -/
  | nextItem (before : List Json) (outer : Place)
  /-- The comma or the end after an item. -/
  | afterItem (before : List Json) (outer : Place)
  /-- The first key or the end of an object. -/
  | firstKey (outer : Place)
  /-- The next key of an object, after a comma. -/
  | nextKey (before : List (String × Json)) (outer : Place)
  /-- The colon after a key. -/
  | colon (before : List (String × Json)) (key : String) (outer : Place)
  /-- The comma or the end after a member. -/
  | afterMember (before : List (String × Json)) (outer : Place)
  /-- The next letter of a word, and the letters after it. -/
  | word (next : Char) (rest : List Char) (value : Json) (place : Place)
  /-- A number, whose digits are last first. -/
  | number (part : NumberPart) (numeral : Numeral) (place : Place)
  /-- A string, whose characters are last first. -/
  | string (part : StringPart) (read : List Char) (role : Role)
  | done (value : Json)
deriving Repr

/-- A fault and the number of octets up to it. -/
abbrev Located := Fault × Nat

/-- Whether a character may stand between the parts of a text. -/
def isSpace (c : Char) : Bool :=
  c = ' ' || c = '\t' || c = '\n' || c = '\r'

/-- Puts a value that is complete into its place. -/
def Place.fill (v : Json) : Place → State
  | .whole => .done v
  | .item before outer => .afterItem (v :: before) outer
  | .member before key outer => .afterMember (Entries.put key v before) outer

/-- Opens a container, which may stand inside fewer than `limit` others. -/
def openContainer (limit? : Option Nat) (outer : Place) (opened : State) (offset : Nat) :
    Except Located State :=
  match limit? with
  | none => .ok opened
  | some limit => if limit ≤ outer.depth then .error (.tooDeep, offset + 1) else .ok opened

/-- A number of which nothing but its sign is read. -/
def Numeral.start (negative : Bool) : Numeral :=
  ⟨negative, [], [], none⟩

/-- Reads the first character of a value. -/
def beginValue (limit? : Option Nat) (offset : Nat) (place : Place) (c : Char) :
    Except Located State :=
  match c with
  | 'n' => .ok (.word 'u' ['l', 'l'] .null place)
  | 't' => .ok (.word 'r' ['u', 'e'] (.bool true) place)
  | 'f' => .ok (.word 'a' ['l', 's', 'e'] (.bool false) place)
  | '"' => .ok (.string .plain [] (.value place))
  | '[' => openContainer limit? place (.firstItem place) offset
  | '{' => openContainer limit? place (.firstKey place) offset
  | '-' => .ok (.number .sign (.start true) place)
  | '0' => .ok (.number .zero { Numeral.start false with whole := ['0'] } place)
  | c =>
      if c.isDigit then .ok (.number .whole { Numeral.start false with whole := [c] } place)
      else .error (.noValue, offset + 1)

/-- Reads a character in a state outside words, numbers and strings. -/
def stepBetween (limit? : Option Nat) (offset : Nat) (s : State) (c : Char) :
    Except Located State :=
  if isSpace c then .ok s
  else match s with
    | .value place => beginValue limit? offset place c
    | .firstItem outer =>
        if c = ']' then .ok (outer.fill (.list []))
        else beginValue limit? offset (.item [] outer) c
    | .nextItem before outer =>
        if c = ']' then .error (.trailingComma, offset + 1)
        else beginValue limit? offset (.item before outer) c
    | .afterItem before outer =>
        if c = ']' then .ok (outer.fill (.list before.reverse))
        else if c = ',' then .ok (.nextItem before outer)
        else .error (.noListEnd, offset + 1)
    | .firstKey outer =>
        if c = '}' then .ok (outer.fill (.object []))
        else if c = '"' then .ok (.string .plain [] (.key [] outer))
        else .error (.noKey, offset + 1)
    | .nextKey before outer =>
        if c = '}' then .error (.trailingComma, offset + 1)
        else if c = '"' then .ok (.string .plain [] (.key before outer))
        else .error (.noKey, offset + 1)
    | .colon before key outer =>
        if c = ':' then .ok (.value (.member before key outer))
        else .error (.noColon, offset + 1)
    | .afterMember before outer =>
        if c = '}' then .ok (outer.fill (.object before))
        else if c = ',' then .ok (.nextKey before outer)
        else .error (.noObjectEnd, offset + 1)
    | s => .error (match s with | .done _ => .trailingText | _ => .noValue, offset + 1)

/-- Appends a digit or a mark to a number, or says that the number has ended. -/
def continueNumber (part : NumberPart) (n : Numeral) (c : Char) :
    Except Fault (Option (NumberPart × Numeral)) :=
  let moreWhole := { n with whole := c :: n.whole }
  let moreFraction := { n with fraction := c :: n.fraction }
  let moreExponent (e : Exponent) := { n with exponent? := some { e with digits := c :: e.digits } }
  let exponent := n.exponent?.getD ⟨false, []⟩
  let ended : Except Fault (Option (NumberPart × Numeral)) :=
    if c = 'e' || c = 'E' then .ok (some (.mark, { n with exponent? := some ⟨false, []⟩ }))
    else .ok none
  match part with
  | .sign =>
      if c = '0' then .ok (some (.zero, moreWhole))
      else if c.isDigit then .ok (some (.whole, moreWhole))
      else .error .noNumber
  | .zero =>
      if c.isDigit then .error .noNumber
      else if c = '.' then .ok (some (.point, n))
      else ended
  | .whole =>
      if c.isDigit then .ok (some (.whole, moreWhole))
      else if c = '.' then .ok (some (.point, n))
      else ended
  | .point =>
      if c.isDigit then .ok (some (.fraction, moreFraction)) else .error .noNumber
  | .fraction =>
      if c.isDigit then .ok (some (.fraction, moreFraction)) else ended
  | .mark =>
      if c = '+' then .ok (some (.markSign, n))
      else if c = '-' then
        .ok (some (.markSign, { n with exponent? := some ⟨true, []⟩ }))
      else if c.isDigit then .ok (some (.exponent, moreExponent exponent))
      else .error .noNumber
  | .markSign =>
      if c.isDigit then .ok (some (.exponent, moreExponent exponent)) else .error .noNumber
  | .exponent =>
      if c.isDigit then .ok (some (.exponent, moreExponent exponent)) else .ok none

/-- The value of a number whose digits are last first. -/
def finishNumber (offset : Nat) (n : Numeral) : Except Located Json :=
  let ordered : Numeral :=
    { n with
      whole := n.whole.reverse
      fraction := n.fraction.reverse
      exponent? := n.exponent?.map fun e => { e with digits := e.digits.reverse } }
  match ordered.value with
  | .ok v => .ok v
  | .error left => .error (.outOfRange, offset - left)

/-- The state after the closing quote of a string whose characters are last first. -/
def finishString (read : List Char) : Role → State
  | .value place => place.fill (.string (String.ofList read.reverse))
  | .key before outer => .colon before (String.ofList read.reverse) outer

/-- Whether a code unit is the first half of a pair. -/
def isFirstHalf (n : Nat) : Bool :=
  0xD800 ≤ n && n ≤ 0xDBFF

/-- Whether a code unit is the second half of a pair. -/
def isSecondHalf (n : Nat) : Bool :=
  0xDC00 ≤ n && n ≤ 0xDFFF

/-- Reads the code unit of an escape, after the first half of a pair if there is one. -/
def finishEscape (offset : Nat) (read : List Char) (role : Role) (first? : Option Nat)
    (unit : Nat) : Except Located State :=
  match first? with
  | none =>
      if isSecondHalf unit then .error (.wrongHalf, offset)
      else if isFirstHalf unit then .ok (.string (.secondSlash unit) read role)
      else .ok (.string .plain (Char.ofNat unit :: read) role)
  | some first =>
      if isSecondHalf unit then
        let code := 0x10000 + (first - 0xD800) * 0x400 + (unit - 0xDC00)
        .ok (.string .plain (Char.ofNat code :: read) role)
      else .error (.wrongHalf, offset)

/-- The character that a one-letter escape stands for. -/
def escaped? : Char → Option Char
  | '"' => some '"'
  | '\\' => some '\\'
  | '/' => some '/'
  | 'b' => some '\x08'
  | 'f' => some '\x0c'
  | 'n' => some '\n'
  | 'r' => some '\r'
  | 't' => some '\t'
  | _ => none

/-- The number of octets of the digits of an escape. -/
def hexOctets : Nat := 4

/-- Reads a character of a string. -/
def stepString (offset : Nat) (part : StringPart) (read : List Char) (role : Role) (c : Char) :
    Except Located State :=
  match part with
  | .plain =>
      if c = '"' then .ok (finishString read role)
      else if c = '\\' then .ok (.string .escape read role)
      else if c.toNat < 0x20 then .error (.control, offset + 1)
      else .ok (.string .plain (c :: read) role)
  | .escape =>
      if c = 'u' then .ok (.string (.hex 0 (some 0) none) read role)
      else match escaped? c with
        | some d => .ok (.string .plain (d :: read) role)
        | none => .error (.noEscape, offset + 1)
  | .hex octets value? first? =>
      let total := octets + c.utf8Size
      let value? := do pure (16 * (← value?) + (← Text.hexValue? c))
      if total < hexOctets then .ok (.string (.hex total value? first?) read role)
      else match value? with
        | some unit => finishEscape (offset + 1) read role first? unit
        | none => .error (.noEscape, offset + hexOctets - octets)
  | .secondSlash first =>
      if c = '\\' then .ok (.string (.secondLetter first) read role)
      else .error (.halfPair, offset + 1)
  | .secondLetter first =>
      if c = 'u' then .ok (.string (.hex 0 (some 0) (some first)) read role)
      else .error (.halfPair, offset + 1)

/-- Reads a character that stands after `offset` octets. -/
def step (limit? : Option Nat) (offset : Nat) (s : State) (c : Char) : Except Located State :=
  match s with
  | .word next rest v place =>
      if c = next then
        match rest with
        | [] => .ok (place.fill v)
        | d :: rest => .ok (.word d rest v place)
      else .error (.noWord, offset + 1)
  | .number part n place =>
      match continueNumber part n c with
      | .error fault => .error (fault, offset + 1)
      | .ok (some (part, n)) => .ok (.number part n place)
      | .ok none =>
          match finishNumber offset n with
          | .error e => .error e
          | .ok v => stepBetween limit? offset (place.fill v) c
  | .string part read role => stepString offset part read role c
  | s => stepBetween limit? offset s c

/-- Whether a number may end after a part. -/
def NumberPart.isEnd : NumberPart → Bool
  | .zero | .whole | .fraction | .exponent => true
  | .sign | .point | .mark | .markSign => false

/-- What is missing where the text ends. -/
def State.missing : State → Fault
  | .firstItem _ => .endInList
  | .afterItem _ _ => .endInList
  | .firstKey _ => .endInObject
  | .colon _ _ _ => .endInObject
  | .afterMember _ _ => .endInObject
  | .string _ _ _ => .endInString
  | _ => .endInValue

/-- The value of a text that ends after `offset` octets. -/
def finish (offset : Nat) : State → Except Located Json
  | .done v => .ok v
  | .number part n place =>
      if part.isEnd then
        match finishNumber offset n with
        | .error e => .error e
        | .ok v =>
            match place.fill v with
            | .done v => .ok v
            | s => .error (s.missing, offset)
      else .error (.endInValue, offset)
  | s => .error (s.missing, offset)

/-- Reads characters, of which the first stands after `offset` octets. -/
def run (limit? : Option Nat) (offset : Nat) (s : State) : List Char → Except Located Json
  | [] => finish offset s
  | c :: l =>
      match step limit? offset s c with
      | .error e => .error e
      | .ok s => run limit? (offset + c.utf8Size) s l

/-- The greatest number of containers inside one another that a request or a record may
have. -/
def defaultLimit : Nat := 127

/-- The value of a text with at most `limit?` containers inside one another. -/
def readWith (limit? : Option Nat) (text : String) : Except ReadError Json :=
  match run limit? 0 (.value .whole) text.toList with
  | .ok v => .ok v
  | .error (fault, octets) =>
      let (line, column) := placeAfter octets text.toList (1, 0)
      .error ⟨fault, line, column⟩

def read (text : String) : Except ReadError Json :=
  readWith (some defaultLimit) text

end Json
end SeriesCatalog
