import Standby.Document.Basic
import Standby.Json.Symbol
import Standby.Text.Hex
import Standby.Text.Numeral

/-!
# Reading JSON

The reader accepts the JSON grammar strictly: blanks are the four of JSON, controls stand in no
text, and nothing follows the value. A text that names half a surrogate pair or holds bytes of
no character, and a number with a fraction or an exponent, are well formed but foreign to every
record: skipping them is allowed and decoding them is not.
-/
namespace Standby.Json

open Standby.Text

/-- A blank between the tokens of JSON. -/
def isGap : Symbol → Bool
  | .char c => c == ' ' || c == '\n' || c == '\t' || c == '\r'
  | .stray _ => false

/-- What follows the blanks. -/
def skipGaps (symbols : List Symbol) : List Symbol := symbols.dropWhile isGap

/-- The value of a hexadecimal digit. -/
def digit? : Symbol → Option Nat
  | .char c => hexValue? c
  | .stray _ => none

/-- The code unit that four hexadecimal digits write. -/
def codeUnit? (a b c d : Symbol) : Option Nat := do
  let a ← digit? a
  let b ← digit? b
  let c ← digit? c
  let d ← digit? d
  some (((a * 16 + b) * 16 + c) * 16 + d)

/-- The first half of a surrogate pair. -/
def isHighSurrogate (unit : Nat) : Bool := 0xD800 ≤ unit && unit ≤ 0xDBFF

/-- The second half of a surrogate pair. -/
def isLowSurrogate (unit : Nat) : Bool := 0xDC00 ≤ unit && unit ≤ 0xDFFF

/-- The character of a surrogate pair. -/
def pairChar (high low : Nat) : Char :=
  Char.ofNat (0x10000 + (high - 0xD800) * 0x400 + (low - 0xDC00))

/-- The character of an escape of one letter. -/
def shortEscape? (letter : Char) : Option Char :=
  [('"', '"'), ('\\', '\\'), ('/', '/'), ('b', '\x08'), ('f', '\x0c'), ('n', '\n'), ('r', '\r'),
    ('t', '\t')].lookup letter

/-- The content of a text, `none` when it is no sequence of characters, and what follows it. -/
abbrev TextRest : Type := Option (List Char) × List Symbol

/-- A text with one more character in front. -/
def TextRest.push (c : Char) (found : TextRest) : TextRest := (found.1.map (c :: ·), found.2)

/-- A text that is no sequence of characters. -/
def TextRest.broken (found : TextRest) : TextRest := (none, found.2)

/-- The second half of a surrogate pair, if an escape of it is in front. -/
def lowHalf? : List Symbol → Option Nat
  | .char '\\' :: .char 'u' :: d1 :: d2 :: d3 :: d4 :: _ =>
    (codeUnit? d1 d2 d3 d4).filter isLowSurrogate
  | _ => none

/-- The text after an opening quote. -/
def readText : List Symbol → Option TextRest
  | [] => none
  | .stray _ :: rest => (readText rest).map .broken
  | .char c :: rest =>
    if c = '"' then some (some [], rest)
    else if c = '\\' then
      match rest with
      | .char 'u' :: d1 :: d2 :: d3 :: d4 :: rest =>
        match codeUnit? d1 d2 d3 d4 with
        | none => none
        | some unit =>
          if isLowSurrogate unit then (readText rest).map .broken
          else if isHighSurrogate unit then
            match lowHalf? rest, rest with
            | some low, _ :: _ :: _ :: _ :: _ :: _ :: later =>
              (readText later).map (.push (pairChar unit low))
            | _, rest => (readText rest).map .broken
          else (readText rest).map (.push (Char.ofNat unit))
      | .char letter :: rest =>
        match shortEscape? letter with
        | some meant => (readText rest).map (.push meant)
        | none => none
      | _ => none
    else if c.toNat < 0x20 then none
    else (readText rest).map (.push c)

/-- The decimal digits in front and what follows them. -/
def readDigits : List Symbol → List Char × List Symbol
  | .char c :: rest =>
    if c.isDigit then
      let found := readDigits rest
      (c :: found.1, found.2)
    else ([], .char c :: rest)
  | rest => ([], rest)

/-- What follows an optional fraction, and whether there was one. -/
def readFraction : List Symbol → Option (Bool × List Symbol)
  | .char '.' :: rest =>
    match readDigits rest with
    | ([], _) => none
    | (_, later) => some (true, later)
  | rest => some (false, rest)

/-- What follows an optional sign of an exponent. -/
def skipSign : List Symbol → List Symbol
  | .char '+' :: rest => rest
  | .char '-' :: rest => rest
  | rest => rest

/-- What follows an optional exponent, and whether there was one. -/
def readExponent : List Symbol → Option (Bool × List Symbol)
  | .char c :: rest =>
    if c = 'e' ∨ c = 'E' then
      match readDigits (skipSign rest) with
      | ([], _) => none
      | (_, later) => some (true, later)
    else some (false, .char c :: rest)
  | rest => some (false, rest)

/-- A number without its sign: digits without a leading zero, a fraction and an exponent. -/
def readMagnitude (negative : Bool) (symbols : List Symbol) :
    Option (Document × List Symbol) := do
  let (digits, rest) := readDigits symbols
  if digits.isEmpty then none
  else if digits.head? = some '0' ∧ 1 < digits.length then none
  else
    let (fraction, rest) ← readFraction rest
    let (exponent, rest) ← readExponent rest
    if fraction || exponent then some (.foreign, rest)
    else
      let value := decimalValue digits
      if negative then
        if value = 0 then some (.foreign, rest) else some (.integer (-(value : Int)), rest)
      else some (.integer value, rest)

/-- What follows a word, if the word is in front. -/
def readWord : List Char → List Symbol → Option (List Symbol)
  | [], rest => some rest
  | c :: word, .char found :: rest => if c = found then readWord word rest else none
  | _ :: _, _ => none

/-- The document of a text. -/
def textDocument : Option (List Char) → Document
  | some chars => .text (String.ofList chars)
  | none => .foreign

/-- The document of named values; a name that is no sequence of characters makes it foreign. -/
def tableDocument (entries : List (Option (List Char) × Document)) : Document :=
  match entries.mapM fun entry => entry.1.map fun name => (String.ofList name, entry.2) with
  | some entries => .table entries
  | none => .foreign

/-- A name, its colon and what follows them. -/
def readName (symbols : List Symbol) : Option (Option (List Char) × List Symbol) := do
  match skipGaps symbols with
  | .char '"' :: rest =>
    let (name, rest) ← readText rest
    match skipGaps rest with
    | .char ':' :: rest => some (name, rest)
    | _ => none
  | _ => none

mutual

/-- A value and what follows it. The number bounds the depth and the length of the value. -/
def readValue : Nat → List Symbol → Option (Document × List Symbol)
  | 0, _ => none
  | fuel + 1, symbols =>
    match skipGaps symbols with
    | .char c :: rest =>
      if c = '"' then (readText rest).map fun found => (textDocument found.1, found.2)
      else if c = '[' then
        match skipGaps rest with
        | .char ']' :: rest => some (.list [], rest)
        | rest =>
          (readValue fuel rest).bind fun found =>
            (readItems fuel found.2).map fun others => (.list (found.1 :: others.1), others.2)
      else if c = '\x7b' then
        match skipGaps rest with
        | .char '\x7d' :: rest => some (.table [], rest)
        | rest => (readEntries fuel rest).map fun found => (tableDocument found.1, found.2)
      else if c = 't' then (readWord ['r', 'u', 'e'] rest).map fun rest => (.bool true, rest)
      else if c = 'f' then
        (readWord ['a', 'l', 's', 'e'] rest).map fun rest => (.bool false, rest)
      else if c = 'n' then (readWord ['u', 'l', 'l'] rest).map fun rest => (.null, rest)
      else if c = '-' then readMagnitude true rest
      else readMagnitude false (.char c :: rest)
    | _ => none

/-- The values after the first one of a list, to the closing bracket. -/
def readItems : Nat → List Symbol → Option (List Document × List Symbol)
  | 0, _ => none
  | fuel + 1, symbols =>
    match skipGaps symbols with
    | .char c :: rest =>
      if c = ']' then some ([], rest)
      else if c = ',' then
        (readValue fuel rest).bind fun found =>
          (readItems fuel found.2).map fun others => (found.1 :: others.1, others.2)
      else none
    | _ => none

/-- Named values up to the closing brace. -/
def readEntries : Nat → List Symbol →
    Option (List (Option (List Char) × Document) × List Symbol)
  | 0, _ => none
  | fuel + 1, symbols =>
    (readName symbols).bind fun named =>
      (readValue fuel named.2).bind fun found =>
        match skipGaps found.2 with
        | .char c :: rest =>
          if c = '\x7d' then some ([(named.1, found.1)], rest)
          else if c = ',' then
            (readEntries fuel rest).map fun others =>
              ((named.1, found.1) :: others.1, others.2)
          else none
        | _ => none

end

/-- The document of a whole text. -/
def read (symbols : List Symbol) : Option Document := do
  let (document, rest) ← readValue (symbols.length + 1) symbols
  if (skipGaps rest).isEmpty then some document else none

/-- The document of a text. -/
def ofText (text : String) : Option Document := read (symbolsOf text)

/-- The document of the bytes of a file. -/
def ofBytes (bytes : ByteArray) : Option Document := read (symbols bytes)

end Standby.Json
