import Standby.Toml.Scalar
import Standby.Toml.Tree

/-!
# Reading TOML

The reader splits a text into statements and assembles their document. Lists and tables between
brackets and braces nest to a bounded depth, and so do dotted names.
-/
namespace Standby.Toml

/-- The depth that nothing in a text reaches. -/
def depthBound : Nat := 80

/-- What follows a comment, if one is in front. -/
def skipComment : List Char → List Char
  | '#' :: rest => rest.dropWhile isPlain
  | rest => rest

/-- What follows the end of a line, which blanks and a comment may precede. -/
def endLine? (chars : List Char) : Option (List Char) :=
  match skipComment (skipGaps chars) with
  | [] => some []
  | rest => lineBreak? rest

/-- What follows blanks, comments and line breaks. The flag says that a comment has begun. -/
def skipSpace : Bool → List Char → Option (List Char)
  | _, [] => some []
  | inComment, c :: rest =>
    if c = '\n' then skipSpace false rest
    else if c = '\r' then
      if rest.head? = some '\n' then skipSpace inComment rest else none
    else if inComment then if isPlain c then skipSpace true rest else none
    else if isGap c then skipSpace false rest
    else if c = '#' then skipSpace true rest
    else some (c :: rest)

/-- One name. -/
def readName : Reader String
  | [] => none
  | c :: rest =>
    if c = '"' then (readBasic 0 rest).map fun found => (String.ofList found.1, found.2)
    else if c = '\'' then (readLiteral rest).map fun found => (String.ofList found.1, found.2)
    else
      let name := (c :: rest).takeWhile isBare
      if name.isEmpty then none else some (String.ofList name, (c :: rest).dropWhile isBare)

/-- Names between dots; the first number bounds how many there are. -/
def readNames : Nat → Reader (List String)
  | 0, _ => none
  | fuel + 1, chars =>
    (readName (skipGaps chars)).bind fun (name, rest) =>
      match skipGaps rest with
      | '.' :: rest => (readNames fuel rest).map fun (names, rest) => (name :: names, rest)
      | rest => some ([name], rest)

/-- A dotted name: the names before the last one, and the last. -/
def readPath (chars : List Char) : Option ((List String × String) × List Char) :=
  (readNames (depthBound - 1) chars).bind fun (names, rest) =>
    names.getLast?.map fun last => ((names.dropLast, last), rest)

/-- What follows a word, if the word is in front. -/
def skipWord : List Char → List Char → Option (List Char)
  | [], rest => some rest
  | c :: word, found :: rest => if c = found then skipWord word rest else none
  | _ :: _, [] => none

mutual

/-- A value at a depth. The first number bounds its length. -/
def readValue : Nat → Nat → Reader Document
  | 0, _, _ => none
  | _, _, [] => none
  | fuel + 1, depth, c :: rest =>
    if c = '"' ∨ c = '\'' then
      (readText (c :: rest)).map fun found => (.text (String.ofList found.1), found.2)
    else if c = '[' then
      if depth + 1 < depthBound then
        (readItems fuel (depth + 1) rest).map fun found => (.list found.1, found.2)
      else none
    else if c = '\x7b' then
      if depth + 1 < depthBound then
        match skipGaps rest with
        | '\x7d' :: rest => some (.table [], rest)
        | rest =>
          (readPairs fuel (depth + 1) rest).bind fun (pairs, rest) =>
            (inlineDocument pairs).map fun document => (document, rest)
      else none
    else if c = 't' then (skipWord ['r', 'u', 'e'] rest).map fun rest => (.bool true, rest)
    else if c = 'f' then
      (skipWord ['a', 'l', 's', 'e'] rest).map fun rest => (.bool false, rest)
    else readNumeric (c :: rest)

/-- Values between commas up to the closing bracket; a comma may follow the last one. -/
def readItems : Nat → Nat → Reader (List Document)
  | 0, _, _ => none
  | fuel + 1, depth, chars =>
    (skipSpace false chars).bind fun chars =>
      match chars with
      | ']' :: rest => some ([], rest)
      | chars =>
        (readValue fuel depth chars).bind fun (item, rest) =>
          (skipSpace false rest).bind fun rest =>
            match rest with
            | ']' :: rest => some ([item], rest)
            | ',' :: rest =>
              (readItems fuel depth rest).map fun (items, rest) => (item :: items, rest)
            | _ => none

/-- Named values between commas up to the closing brace. -/
def readPairs : Nat → Nat → Reader (List (List String × String × Document))
  | 0, _, _ => none
  | fuel + 1, depth, chars =>
    (readPath chars).bind fun ((path, name), rest) =>
      match rest with
      | '=' :: rest =>
        (readValue fuel depth (skipGaps rest)).bind fun (value, rest) =>
          match skipGaps rest with
          | '\x7d' :: rest => some ([(path, name, value)], rest)
          | ',' :: rest =>
            (readPairs fuel depth rest).map fun (pairs, rest) =>
              ((path, name, value) :: pairs, rest)
          | _ => none
      | _ => none

end

/-- A header after its opening brackets. -/
def readHeader (isEach : Bool) (chars : List Char) : Option (Statement × List Char) := do
  let ((path, name), rest) ← readPath chars
  let rest ← skipChar ']' rest
  let rest ← if isEach then skipChar ']' rest else some rest
  let rest ← endLine? rest
  some (.header isEach (path ++ [name]), rest)

/-- An assignment on a line. The number bounds its length. -/
def readAssignment (fuel : Nat) (chars : List Char) : Option (Statement × List Char) := do
  let ((path, name), rest) ← readPath chars
  let rest ← skipChar '=' rest
  let (value, rest) ← readValue fuel 0 (skipGaps rest)
  let rest ← endLine? rest
  some (.assign path name value, rest)

/-- A line: a statement, or nothing that counts. The number bounds the length of the text. -/
def readLine (fuel : Nat) (chars : List Char) : Option (Option Statement × List Char) :=
  match skipGaps chars with
  | '[' :: '[' :: rest => (readHeader true rest).map fun (statement, rest) => (statement, rest)
  | '[' :: rest => (readHeader false rest).map fun (statement, rest) => (statement, rest)
  | rest =>
    match endLine? rest with
    | some rest => some (none, rest)
    | none => (readAssignment fuel rest).map fun (statement, rest) => (statement, rest)

/-- The statements of lines. The number bounds the length of the text, of which each line has some
characters. -/
def readLines : Nat → List Char → Option (List Statement)
  | _, [] => some []
  | 0, _ :: _ => none
  | fuel + 1, chars =>
    (readLine (fuel + 1) chars).bind fun (statement, rest) =>
      (readLines fuel rest).map fun statements => statement.toList ++ statements

/-- The statements of a text, which a byte order mark may precede. -/
def statements? (chars : List Char) : Option (List Statement) :=
  match chars with
  | '\ufeff' :: rest => readLines rest.length rest
  | chars => readLines chars.length chars

/-- The document of a text. -/
def ofText (text : String) : Option Document := (statements? text.toList).bind assemble

end Standby.Toml
