import Standby.Document.Basic
import Standby.Text.Hex
import Standby.Text.Numeral

/-!
# Scalars of TOML

Texts, numbers, dates and times. A reader takes a value from the front of the characters and gives
the rest. Integers are words of 64 bits; a fraction is foreign to every record, and one that is
too large for any float is refused.
-/
namespace Standby.Toml

open Standby.Text

/-- A reader of one thing from the front of the characters. -/
abbrev Reader (α : Type) : Type := List Char → Option (α × List Char)

/-- A blank within a line. -/
def isGap (c : Char) : Bool := c == ' ' || c == '\t'

/-- What follows the blanks of a line. -/
def skipGaps (chars : List Char) : List Char := chars.dropWhile isGap

/-- A character that can stand in a comment or, unescaped, in a text: no control but the tab. -/
def isPlain (c : Char) : Bool := c == '\t' || (0x20 ≤ c.toNat && c.toNat != 0x7F)

/-- A character of a name without quotes. -/
def isBare (c : Char) : Bool := c.isAlphanum || c == '-' || c == '_'

/-- What follows a line break, if one is in front. -/
def lineBreak? : List Char → Option (List Char)
  | '\n' :: rest => some rest
  | '\r' :: '\n' :: rest => some rest
  | _ => none

/-- A text with one more character in front. -/
def push (c : Char) (found : List Char × List Char) : List Char × List Char :=
  (c :: found.1, found.2)

/-- The character of a code that hexadecimal digits write. -/
def codeChar? (digits : List Char) : Option Char := do
  let values ← digits.mapM hexValue?
  let code := values.foldl (fun code value => code * 16 + value) 0
  if code.isValidChar then some (Char.ofNat code) else none

/-- The character of an escape of one letter. -/
def shortEscape? (letter : Char) : Option Char :=
  [('"', '"'), ('\\', '\\'), ('b', '\x08'), ('f', '\x0c'), ('n', '\n'), ('r', '\r'),
    ('t', '\t')].lookup letter

/-- The character of an escape after its backslash. -/
def readEscape : Reader Char
  | 'u' :: a :: b :: c :: d :: rest => (codeChar? [a, b, c, d]).map fun meant => (meant, rest)
  | 'U' :: a :: b :: c :: d :: e :: f :: g :: h :: rest =>
    (codeChar? [a, b, c, d, e, f, g, h]).map fun meant => (meant, rest)
  | letter :: rest => (shortEscape? letter).map fun meant => (meant, rest)
  | [] => none

/-- The number of characters that an escape takes after its backslash. -/
def escapeLength : List Char → Nat
  | 'u' :: _ => 5
  | 'U' :: _ => 9
  | _ => 1

/-- A text on one line after its opening quote. The number counts the characters in front that
belong to an escape already read. -/
def readBasic : Nat → Reader (List Char)
  | _, [] => none
  | skip + 1, _ :: rest => readBasic skip rest
  | 0, c :: rest =>
    if c = '"' then some ([], rest)
    else if c = '\\' then
      (readEscape rest).bind fun (meant, _) =>
        (readBasic (escapeLength rest) rest).map (push meant)
    else if isPlain c then (readBasic 0 rest).map (push c)
    else none

/-- A text on one line without escapes, after its opening quote. -/
def readLiteral : Reader (List Char)
  | [] => none
  | c :: rest =>
    if c = '\'' then some ([], rest)
    else if isPlain c then (readLiteral rest).map (push c)
    else none

/-- The quotes before the three that close a text, and what follows those, if no more quotes than
can be before them are in front. -/
def closing? (quote : Char) (chars : List Char) : Option (List Char × List Char) :=
  let quotes := (chars.takeWhile (· == quote)).length
  if 3 ≤ quotes then
    some (List.replicate (min quotes 5 - 3) quote, chars.drop (min quotes 5))
  else none

/-- Where a text of several lines is read. -/
inductive LineMode where
  /-- Between two characters. -/
  | plain
  /-- Within an escape already read, of which so many characters are left. -/
  | escape (left : Nat)
  /-- After an escaped line break, where blanks and line breaks do not count. -/
  | margin

/-- A text of several lines after its opening quotes. -/
def readBlock : LineMode → Reader (List Char)
  | _, [] => none
  | .escape (left + 1), _ :: rest => readBlock (.escape left) rest
  | .escape 0, chars => readPlain chars
  | .plain, chars => readPlain chars
  | .margin, c :: rest =>
    if isGap c ∨ c = '\n' then readBlock .margin rest
    else if c = '\r' ∧ rest.head? = some '\n' then readBlock .margin rest
    else readPlain (c :: rest)
where
  /-- The text from a character on that is no part of what was read. -/
  readPlain : Reader (List Char)
    | [] => none
    | c :: rest =>
      if c = '"' then
        match closing? '"' (c :: rest) with
        | some found => some found
        | none => (readBlock .plain rest).map (push c)
      else if c = '\\' then
        if (lineBreak? (skipGaps rest)).isSome then readBlock .margin rest
        else
          (readEscape rest).bind fun (meant, _) =>
            (readBlock (.escape (escapeLength rest)) rest).map (push meant)
      else if c = '\n' then (readBlock .plain rest).map (push c)
      else if c = '\r' then
        if rest.head? = some '\n' then readBlock .plain rest else none
      else if isPlain c then (readBlock .plain rest).map (push c)
      else none

/-- A text of several lines without escapes, after its opening quotes. -/
def readLiteralBlock : Reader (List Char)
  | [] => none
  | c :: rest =>
    if c = '\'' then
      match closing? '\'' (c :: rest) with
      | some found => some found
      | none => (readLiteralBlock rest).map (push c)
    else if c = '\n' then (readLiteralBlock rest).map (push c)
    else if c = '\r' then
      if rest.head? = some '\n' then readLiteralBlock rest else none
    else if isPlain c then (readLiteralBlock rest).map (push c)
    else none

/-- What follows a line break right after opening quotes, which does not count. -/
def skipFirstBreak (chars : List Char) : List Char := (lineBreak? chars).getD chars

/-- A text in quotes of any kind. -/
def readText : Reader (List Char)
  | '"' :: '"' :: '"' :: rest => readBlock .plain (skipFirstBreak rest)
  | '"' :: rest => readBasic 0 rest
  | '\'' :: '\'' :: '\'' :: rest => readLiteralBlock (skipFirstBreak rest)
  | '\'' :: rest => readLiteral rest
  | _ => none

/-- Digits between which single underscores may stand; the first character is a digit. -/
def readRun (isDigit : Char → Bool) : Reader (List Char)
  | [] => none
  | c :: rest => if isDigit c then (go rest).map (push c) else none
where
  /-- What follows a digit. -/
  go : Reader (List Char)
    | [] => some ([], [])
    | c :: rest =>
      if isDigit c then (go rest).map (push c)
      else if c = '_' then
        match rest with
        | [] => none
        | next :: _ => if isDigit next then go rest else none
      else some ([], c :: rest)

/-- A whole number without leading zeros. -/
def readWhole : Reader (List Char)
  | '0' :: rest => some (['0'], rest)
  | chars => readRun Char.isDigit chars

/-- An optional sign; the flag says that it is a minus. -/
def readSign : List Char → Bool × List Char
  | '-' :: rest => (true, rest)
  | '+' :: rest => (false, rest)
  | rest => (false, rest)

/-- An optional exponent. -/
def readExponent : Reader (Option Int)
  | [] => some (none, [])
  | c :: rest =>
    if c = 'e' ∨ c = 'E' then
      let (negative, rest) := readSign rest
      (readRun Char.isDigit rest).map fun (digits, rest) =>
        let value : Int := decimalValue digits
        (some (if negative then -value else value), rest)
    else some (none, c :: rest)

/-- The number `digits * 10 ^ scale` is nearer to the first power of two beyond all floats than to
the largest float, or halfway between. -/
def isTooLarge (digits : List Char) (scale : Int) : Bool :=
  let digits := digits.dropWhile (· == '0')
  let bound := Nat.pow 2 1024 - Nat.pow 2 970
  if digits.isEmpty then false
  else
    let size := digits.length + scale
    if 310 < size then true
    else if size < 300 then false
    else if 0 ≤ scale then bound ≤ decimalValue digits * Nat.pow 10 scale.toNat
    else bound * Nat.pow 10 scale.natAbs ≤ decimalValue digits

/-- An integer that fits into a word. -/
def isWord (value : Int) : Bool :=
  Int64.minValue.toInt ≤ value && value ≤ Int64.maxValue.toInt

/-- An integer as a document, if it fits into a word. -/
def wordDocument? (value : Int) : Option Document :=
  if isWord value then some (.integer value) else none

/-- A number in another base, whose digits have the given values. -/
def readBased (base : Nat) (chars : List Char) : Option (Document × List Char) :=
  let isDigit (c : Char) : Bool := (hexValue? c).any (· < base)
  (readRun isDigit chars).bind fun (digits, rest) =>
    let value := digits.foldl (fun value c => value * base + (hexValue? c).getD 0) 0
    (wordDocument? value).map fun document => (document, rest)

/-- A fraction as a document, if some float is near it. -/
def fractionDocument? (negative : Bool) (digits : List Char) (scale : Int) : Option Document :=
  if !negative && isTooLarge digits scale then none else some .foreign

/-- A number after its sign. -/
def readMagnitude (negative : Bool) (chars : List Char) : Option (Document × List Char) :=
  match chars with
  | 'i' :: 'n' :: 'f' :: rest => some (.foreign, rest)
  | 'n' :: 'a' :: 'n' :: rest => some (.foreign, rest)
  | _ =>
    (readWhole chars).bind fun (whole, rest) =>
      match rest with
      | '.' :: rest =>
        (readRun Char.isDigit rest).bind fun (fraction, rest) =>
          (readExponent rest).bind fun (exponent, rest) =>
            (fractionDocument? negative (whole ++ fraction)
              (exponent.getD 0 - fraction.length)).map fun document => (document, rest)
      | _ =>
        (readExponent rest).bind fun (exponent, rest) =>
          match exponent with
          | some scale =>
            (fractionDocument? negative whole scale).map fun document => (document, rest)
          | none =>
            let value : Int := decimalValue whole
            (wordDocument? (if negative then -value else value)).map fun document =>
              (document, rest)

/-- A number of exactly so many digits. -/
def readFixed (count : Nat) (chars : List Char) : Option (Nat × List Char) :=
  let digits := chars.take count
  if digits.length = count ∧ digits.all Char.isDigit then
    some (decimalValue digits, chars.drop count)
  else none

/-- A number of two digits within bounds. -/
def readPart (low high : Nat) (chars : List Char) : Option (Nat × List Char) :=
  (readFixed 2 chars).filter fun found => low ≤ found.1 && found.1 ≤ high

/-- What follows a character, if it is in front. -/
def skipChar (c : Char) : List Char → Option (List Char)
  | [] => none
  | first :: rest => if first = c then some rest else none

/-- A year that has a leap day. -/
def isLeapYear (year : Nat) : Bool := year % 4 == 0 && (year % 100 != 0 || year % 400 == 0)

/-- The days of a month. -/
def daysIn (year month : Nat) : Nat :=
  if month = 2 then if isLeapYear year then 29 else 28
  else if [4, 6, 9, 11].contains month then 30
  else 31

/-- What follows a date. -/
def skipDate (chars : List Char) : Option (List Char) := do
  let (year, rest) ← readFixed 4 chars
  let (month, rest) ← readPart 1 12 (← skipChar '-' rest)
  let (_, rest) ← readPart 1 (daysIn year month) (← skipChar '-' rest)
  some rest

/-- What follows an optional fraction of a second. -/
def skipSecondFraction (chars : List Char) : List Char :=
  match chars with
  | '.' :: rest =>
    if (rest.head?.map Char.isDigit).getD false then rest.dropWhile Char.isDigit else chars
  | _ => chars

/-- What follows a time of day. -/
def skipTime (chars : List Char) : Option (List Char) := do
  let (_, rest) ← readPart 0 23 chars
  let (_, rest) ← readPart 0 59 (← skipChar ':' rest)
  let (_, rest) ← readPart 0 60 (← skipChar ':' rest)
  some (skipSecondFraction rest)

/-- What follows an optional distance from universal time. -/
def skipOffset (chars : List Char) : Option (List Char) :=
  match chars with
  | [] => some []
  | c :: rest =>
    if c = 'Z' ∨ c = 'z' then some rest
    else if c = '+' ∨ c = '-' then do
      let (_, rest) ← readPart 0 23 rest
      let (_, rest) ← readPart 0 59 (← skipChar ':' rest)
      some rest
    else some chars

/-- What follows a date, a time, or a date with a time. -/
def skipInstant (chars : List Char) : Option (List Char) :=
  match skipDate chars with
  | none => skipTime chars
  | some rest =>
    match rest with
    | [] => some []
    | c :: later =>
      if c = 'T' ∨ c = 't' ∨ c = ' ' then
        match skipTime later with
        | some later => skipOffset later
        | none => some rest
      else some rest

/-- A date or a time is a table that no record has an entry of. -/
def instantDocument : Document := .table [("$instant", .foreign)]

/-- A number, a date or a time. -/
def readNumeric (chars : List Char) : Option (Document × List Char) :=
  match skipInstant chars with
  | some rest => some (instantDocument, rest)
  | none =>
    match chars with
    | '0' :: 'x' :: rest => readBased 16 rest
    | '0' :: 'o' :: rest => readBased 8 rest
    | '0' :: 'b' :: rest => readBased 2 rest
    | _ =>
      let (negative, rest) := readSign chars
      readMagnitude negative rest

end Standby.Toml
