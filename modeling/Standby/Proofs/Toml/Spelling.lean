import Mathlib.Data.List.Basic
import Standby.Proofs.Text.Numeral
import Standby.Toml.Reader
import Standby.Toml.Writer

/-!
# What is written reads back

The reader takes from the front of a text what the writer put there and leaves what follows. This
is shown of texts, names, integers and values one after the other, each for whatever may follow it
in a written text, and so every sequence of statements is read back from its text.
-/
namespace Standby.Toml

open Standby.Text

variable {c : Char} {chars rest : List Char}

/-- A character of a text that is written as its code is the character of this code. -/
theorem codeChar?_hexDigits (small : c.toNat < 256) :
    codeChar? ['0', '0', hexDigit (c.toNat / 16), hexDigit (c.toNat % 16)] = some c := by
  have zero : hexValue? '0' = some 0 := rfl
  have high := hexValue?_hexDigit (c.toNat / 16) (by omega)
  have low := hexValue?_hexDigit (c.toNat % 16) (by omega)
  have code : c.toNat / 16 * 16 + c.toNat % 16 = c.toNat := by omega
  have valid : c.toNat.isValidChar := c.valid
  simp [codeChar?, zero, high, low, code, valid, Char.ofNat_toNat]

/-- What the writer puts for a character is read back as the character. -/
theorem readBasic_escapeChar (c : Char) (chars : List Char) :
    readBasic 0 (escapeChar c ++ chars) = (readBasic 0 chars).map (push c) := by
  unfold escapeChar
  split_ifs with quote backslash newline ret tab backspace feed control
  · rw [quote]; rfl
  · rw [backslash]; rfl
  · rw [newline]; rfl
  · rw [ret]; rfl
  · rw [tab]; rfl
  · rw [backspace]; rfl
  · rw [feed]; rfl
  · have code := codeChar?_hexDigits (c := c) (by omega)
    simp [readBasic, readEscape, escapeLength, code]
  · have plain : isPlain c = true := by
      rw [not_or] at control
      simp only [isPlain, Bool.or_eq_true, Bool.and_eq_true, decide_eq_true_eq, bne_iff_ne]
      exact .inr ⟨by omega, control.2⟩
    simp [readBasic, quote, backslash, plain]

/-- A written text is read back up to its closing quote. -/
theorem readBasic_flatMap_escapeChar (text rest : List Char) :
    readBasic 0 (text.flatMap escapeChar ++ '"' :: rest) = some (text, rest) := by
  induction text with
  | nil => rfl
  | cons c text ih =>
    rw [List.flatMap_cons, List.append_assoc, readBasic_escapeChar, ih]
    rfl

/-- What the writer puts for a character never begins with a quote. -/
theorem head?_escapeChar (c : Char) (chars : List Char) :
    (escapeChar c ++ chars).head? ≠ some '"' := by
  unfold escapeChar
  split_ifs <;> simp_all

/-- A written text is read back, unless a quote follows it. -/
theorem readText_writeText (text : String) (follows : rest.head? ≠ some '"') :
    readText (writeText text ++ rest) = some (text.toList, rest) := by
  have read := readBasic_flatMap_escapeChar text.toList rest
  have shape : writeText text ++ rest = '"' :: (text.toList.flatMap escapeChar ++ '"' :: rest) := by
    simp [writeText]
  rw [shape]
  cases chars : text.toList with
  | nil =>
    rw [chars] at read
    cases rest with
    | nil => rfl
    | cons c rest =>
      have differs : c ≠ '"' := fun same => follows (by rw [same]; rfl)
      simp only [List.flatMap_nil, List.nil_append]
      rw [readText]
      · exact read
      · simp [differs]
  | cons c others =>
    rw [chars] at read
    have differs := head?_escapeChar c (others.flatMap escapeChar ++ '"' :: rest)
    rw [← List.append_assoc, ← List.flatMap_cons] at differs
    rw [readText]
    · exact read
    · intro tail same
      rw [same] at differs
      exact differs rfl

/-- A written name begins with a character of a bare name or with a quote. -/
theorem head_writeName (name : String) :
    ∃ c tail, writeName name = c :: tail ∧ (isBare c = true ∨ c = '"') := by
  unfold writeName
  split
  · rename_i bare
    rw [Bool.and_eq_true, Bool.not_eq_true', List.all_eq_true] at bare
    cases letters : name.toList with
    | nil =>
      rw [String.toList_eq_nil_iff.mp letters] at bare
      exact absurd bare.1 (by decide)
    | cons c tail => exact ⟨c, tail, rfl, .inl (bare.2 c (letters ▸ List.mem_cons_self))⟩
  · exact ⟨'"', _, rfl, .inr rfl⟩

/-- A character that may follow a name ends it. -/
theorem takeWhile_isBare (bare : chars.all isBare = true)
    (follows : ∀ c ∈ rest.head?, isBare c = false) :
    (chars ++ rest).takeWhile isBare = chars ∧ (chars ++ rest).dropWhile isBare = rest := by
  have all : ∀ c ∈ chars, isBare c = true := List.all_eq_true.mp bare
  rw [List.takeWhile_append_of_pos all, List.dropWhile_append_of_pos all]
  cases rest with
  | nil => simp
  | cons c rest =>
    have ends := follows c rfl
    simp [ends]

/-- A written name is read back, unless it goes on. -/
theorem readName_writeName (name : String) (follows : ∀ c ∈ rest.head?, isBare c = false) :
    readName (writeName name ++ rest) = some (name, rest) := by
  unfold writeName
  split
  · rename_i bare
    rw [Bool.and_eq_true, Bool.not_eq_true'] at bare
    obtain ⟨taken, dropped⟩ := takeWhile_isBare bare.2 follows
    cases letters : name.toList with
    | nil =>
      rw [String.toList_eq_nil_iff.mp letters] at bare
      exact absurd bare.1 (by decide)
    | cons c tail =>
      rw [letters] at taken dropped
      have begins : isBare c = true :=
        List.all_eq_true.mp bare.2 c (letters ▸ List.mem_cons_self)
      have noQuote : c ≠ '"' := fun same => by rw [same] at begins; exact absurd begins (by decide)
      have noTick : c ≠ '\'' := fun same => by rw [same] at begins; exact absurd begins (by decide)
      have back : String.ofList (c :: tail) = name := by rw [← letters, String.ofList_toList]
      rw [List.cons_append] at taken dropped ⊢
      simp [readName, noQuote, noTick, taken, dropped, back]
  · have read := readBasic_flatMap_escapeChar name.toList rest
    simp [writeText, readName, read]

/-- A written name is no blank. -/
theorem skipGaps_writeName (name : String) (chars : List Char) :
    skipGaps (writeName name ++ chars) = writeName name ++ chars := by
  obtain ⟨c, tail, shape, begins⟩ := head_writeName name
  have visible : isGap c = false := by
    rcases begins with bare | rfl
    · cases gap : isGap c with
      | false => rfl
      | true =>
        rw [isGap, Bool.or_eq_true, beq_iff_eq, beq_iff_eq] at gap
        rcases gap with rfl | rfl
        · exact absurd bare (by decide)
        · exact absurd bare (by decide)
    · rfl
  rw [shape, skipGaps, List.cons_append, List.dropWhile_cons_of_neg (by simp [visible])]

/-- What may follow a written path: no character that a name goes on with, and no dot behind
blanks. -/
def EndsPath (rest : List Char) : Prop :=
  (∀ c ∈ rest.head?, isBare c = false) ∧ (skipGaps rest).head? ≠ some '.'

/-- A name that ends a path is the last of its names. -/
theorem readNames_last {name : String} {fuel : Nat} {chars : List Char}
    (read : readName (skipGaps chars) = some (name, rest))
    (last : (skipGaps rest).head? ≠ some '.') :
    readNames (fuel + 1) chars = some ([name], skipGaps rest) := by
  rw [readNames, read, Option.bind_some]
  dsimp only
  split
  · rename_i tail dotted
    exact absurd (by rw [dotted]; rfl) last
  · rfl

/-- A name before a dot is followed by the other names. -/
theorem readNames_dot {name : String} {fuel : Nat} {chars : List Char}
    (read : readName (skipGaps chars) = some (name, '.' :: rest)) :
    readNames (fuel + 1) chars =
      (readNames fuel rest).map fun (names, rest) => (name :: names, rest) := by
  rw [readNames, read, Option.bind_some]
  rfl

/-- Written names between dots are read back. -/
theorem readNames_writePath {name : String} {path : List String} {fuel : Nat}
    (short : path.length < fuel) (follows : EndsPath rest) :
    readNames fuel (writePath (name :: path) ++ rest) = some (name :: path, skipGaps rest) := by
  obtain ⟨fuel, rfl⟩ := Nat.exists_eq_succ_of_ne_zero (Nat.ne_of_gt (Nat.zero_lt_of_lt short))
  induction path generalizing name fuel with
  | nil =>
    have alone : writePath [name] ++ rest = writeName name ++ rest := by
      simp [writePath, List.intercalate]
    rw [alone]
    refine readNames_last ?_ follows.2
    rw [skipGaps_writeName, readName_writeName name follows.1]
  | cons next path ih =>
    have split : writePath (name :: next :: path) ++ rest =
        writeName name ++ '.' :: (writePath (next :: path) ++ rest) := by
      simp [writePath, List.intercalate]
    have read : readName (skipGaps (writeName name ++
        '.' :: (writePath (next :: path) ++ rest))) =
          some (name, '.' :: (writePath (next :: path) ++ rest)) := by
      rw [skipGaps_writeName, readName_writeName]
      simp [isBare]
    rw [List.length_cons] at short
    obtain ⟨fuel, rfl⟩ := Nat.exists_eq_succ_of_ne_zero (show fuel ≠ 0 by omega)
    rw [split, readNames_dot read, ih fuel (by omega)]
    rfl

/-- A written path is read back. -/
theorem readPath_writePath (path : List String) (name : String)
    (short : path.length + 1 < depthBound) (follows : EndsPath rest) :
    readPath (writePath (path ++ [name]) ++ rest) = some ((path, name), skipGaps rest) := by
  cases path with
  | nil =>
    rw [readPath, List.nil_append, readNames_writePath (by decide) follows]
    rfl
  | cons first path =>
    have bound : (path ++ [name]).length < depthBound - 1 := by
      rw [List.length_cons] at short
      rw [List.length_append, List.length_singleton]
      omega
    rw [readPath, List.cons_append, readNames_writePath bound follows, Option.bind_some,
      ← List.cons_append]
    simp only [List.getLast?_concat, List.dropLast_concat, Option.map_some]

/-- What may follow a value. -/
def EndsValue (rest : List Char) : Prop := ∀ c ∈ rest.head?, c = '\n' ∨ c = ',' ∨ c = ']'

/-- A character of which a number, a date or a time consists does not follow a value. -/
theorem EndsValue.head_ne (follows : EndsValue (c :: rest)) (other : Char)
    (inside : other ≠ '\n' ∧ other ≠ ',' ∧ other ≠ ']') : c ≠ other := by
  rintro rfl
  rcases follows c rfl with same | same | same
  · exact inside.1 same
  · exact inside.2.1 same
  · exact inside.2.2 same

/-- No digit follows a value. -/
theorem EndsValue.isDigit (follows : EndsValue (c :: rest)) : c.isDigit = false := by
  rcases follows c rfl with rfl | rfl | rfl <;> decide

/-- Digits are read up to the end of a value. -/
theorem readRun_go_append {digits : List Char} (all : ∀ c ∈ digits, c.isDigit = true)
    (follows : EndsValue rest) :
    readRun.go Char.isDigit (digits ++ rest) = some (digits, rest) := by
  induction digits with
  | nil =>
    cases rest with
    | nil => rfl
    | cons c rest =>
      have under := follows.head_ne '_' (by decide)
      simp [readRun.go, follows.isDigit, under]
  | cons c digits ih =>
    have tail : ∀ c ∈ digits, c.isDigit = true :=
      fun other member => all other (List.mem_cons_of_mem _ member)
    simp [readRun.go, all c List.mem_cons_self, ih tail, push]

/-- The digits of a number are read up to the end of a value. -/
theorem readWhole_toDigits (number : Nat) (follows : EndsValue rest) :
    readWhole (Nat.toDigits 10 number ++ rest) = some (Nat.toDigits 10 number, rest) := by
  rcases Nat.eq_zero_or_pos number with rfl | positive
  · rfl
  · have first := head?_toDigits positive
    have all (c : Char) : c ∈ Nat.toDigits 10 number → c.isDigit = true := isDigit_of_mem_toDigits
    cases digits : Nat.toDigits 10 number with
    | nil => exact absurd digits Nat.toDigits_ne_nil
    | cons c tail =>
      rw [digits] at first all
      have nonzero : c ≠ '0' := fun same => first (by rw [same]; rfl)
      have read := readRun_go_append
        (fun other member => all other (List.mem_cons_of_mem _ member)) follows
      rw [List.cons_append, readWhole]
      · simp [readRun, all c List.mem_cons_self, read, push]
      · simp [nonzero]

/-- A magnitude is read up to the end of a value. -/
theorem readMagnitude_toDigits (negative : Bool) (number : Nat) (follows : EndsValue rest) :
    readMagnitude negative (Nat.toDigits 10 number ++ rest) =
      (wordDocument? (if negative then -number else number)).map (·, rest) := by
  have whole := readWhole_toDigits number follows
  have value := decimalValue_toDigits number
  have all (c : Char) : c ∈ Nat.toDigits 10 number → c.isDigit = true := isDigit_of_mem_toDigits
  cases digits : Nat.toDigits 10 number with
  | nil => exact absurd digits Nat.toDigits_ne_nil
  | cons c tail =>
    rw [digits] at whole value all
    have digit := all c List.mem_cons_self
    have noWord : c ≠ 'i' ∧ c ≠ 'n' := by
      constructor
      · rintro rfl
        exact absurd digit (by decide)
      · rintro rfl
        exact absurd digit (by decide)
    rw [List.cons_append] at whole ⊢
    rw [readMagnitude]
    · rw [whole, Option.bind_some]
      cases rest with
      | nil => simp [readExponent, value]
      | cons next rest =>
        have noPoint := follows.head_ne '.' (by decide)
        have noSmall := follows.head_ne 'e' (by decide)
        have noLarge := follows.head_ne 'E' (by decide)
        simp [readExponent, noPoint, noSmall, noLarge, value]
    · simp [noWord.1]
    · simp [noWord.2]

/-- So many digits are read only where there are so many. -/
theorem readFixed_append {digits later : List Char} {count value : Nat}
    (all : ∀ c ∈ digits, c.isDigit = true) (follows : EndsValue rest)
    (read : readFixed count (digits ++ rest) = some (value, later)) :
    ∃ more, (∀ c ∈ more, c.isDigit = true) ∧ later = more ++ rest := by
  simp only [readFixed] at read
  split at read
  · rename_i taken
    simp only [Option.some.injEq, Prod.mk.injEq] at read
    have enough : count ≤ digits.length := by
      by_contra short
      rw [Nat.not_le] at short
      cases rest with
      | nil =>
        have size := taken.1
        rw [List.append_nil, List.length_take] at size
        omega
      | cons c rest =>
        -- The character behind the digits would be taken too.
        have member : c ∈ (digits ++ c :: rest).take count := by
          rw [List.take_append, List.mem_append]
          refine .inr ?_
          obtain ⟨more, excess⟩ := Nat.exists_eq_succ_of_ne_zero (Nat.sub_ne_zero_of_lt short)
          rw [excess, List.take_succ_cons]
          exact List.mem_cons_self
        have digit := List.all_eq_true.mp taken.2 c member
        rw [follows.isDigit] at digit
        contradiction
    refine ⟨digits.drop count, fun c member => all c (List.mem_of_mem_drop member), ?_⟩
    rw [← read.2, List.drop_append_of_le_length enough]
  · contradiction

/-- A separator follows neither digits nor a value. -/
theorem skipChar_append {digits : List Char} (all : ∀ c ∈ digits, c.isDigit = true)
    (follows : EndsValue rest) (separator : Char)
    (outside : separator.isDigit = false ∧ separator ≠ '\n' ∧ separator ≠ ',' ∧ separator ≠ ']') :
    skipChar separator (digits ++ rest) = none := by
  cases digits with
  | nil =>
    cases rest with
    | nil => rfl
    | cons c rest => simp [skipChar, follows.head_ne separator outside.2]
  | cons c digits =>
    have differs : c ≠ separator := by
      rintro rfl
      rw [all c List.mem_cons_self] at outside
      exact absurd outside.1 (by decide)
    simp [skipChar, differs]

/-- Digits alone are neither a date nor a time. -/
theorem skipInstant_append {digits : List Char} (all : ∀ c ∈ digits, c.isDigit = true)
    (follows : EndsValue rest) : skipInstant (digits ++ rest) = none := by
  have date : skipDate (digits ++ rest) = none := by
    unfold skipDate
    cases read : readFixed 4 (digits ++ rest) with
    | none => rfl
    | some found =>
      obtain ⟨more, digits, tail⟩ := readFixed_append all follows read
      simp [tail, skipChar_append digits follows '-' (by decide)]
  have time : skipTime (digits ++ rest) = none := by
    unfold skipTime
    cases read : readPart 0 23 (digits ++ rest) with
    | none => rfl
    | some found =>
      have fixed := (Option.filter_eq_some_iff.mp read).1
      obtain ⟨more, digits, tail⟩ := readFixed_append all follows fixed
      simp [tail, skipChar_append digits follows ':' (by decide)]
  simp only [skipInstant, date, time]

/-- A minus begins neither a date nor a time. -/
theorem skipInstant_minus (chars : List Char) : skipInstant ('-' :: chars) = none := by
  have fixed (count : Nat) : readFixed (count + 1) ('-' :: chars) = none := by
    simp [readFixed]
  have date : skipDate ('-' :: chars) = none := by
    simp [skipDate, fixed]
  have time : skipTime ('-' :: chars) = none := by
    simp [skipTime, readPart, fixed]
  simp only [skipInstant, date, time]

/-- No sign stands before a digit. -/
theorem readSign_of_isDigit (digit : c.isDigit = true) (chars : List Char) :
    readSign (c :: chars) = (false, c :: chars) := by
  have differs (sign : Char) (isSign : sign.isDigit = false) : c ≠ sign := by
    rintro rfl
    rw [digit] at isSign
    contradiction
  rw [readSign]
  · simp [differs '-' (by decide)]
  · simp [differs '+' (by decide)]

/-- A number does not begin like one in another base. -/
theorem toDigits_append_ne_based {number : Nat} (follows : EndsValue rest) {letter : Char}
    (base : letter ≠ '\n' ∧ letter ≠ ',' ∧ letter ≠ ']') (tail : List Char) :
    Nat.toDigits 10 number ++ rest ≠ '0' :: letter :: tail := by
  intro shape
  rcases Nat.eq_zero_or_pos number with rfl | positive
  · have ends : rest = letter :: tail := List.tail_eq_of_cons_eq shape
    rw [ends] at follows
    exact follows.head_ne letter base rfl
  · have first := head?_toDigits positive
    rw [← List.head?_append_of_ne_nil _ Nat.toDigits_ne_nil, shape] at first
    exact first rfl

/-- A written integer is read back. -/
theorem readNumeric_decimalText {value : Int} (word : isWord value = true)
    (follows : EndsValue rest) :
    readNumeric (decimalText value ++ rest) = some (.integer value, rest) := by
  cases value with
  | ofNat number =>
    have all (c : Char) : c ∈ Nat.toDigits 10 number → c.isDigit = true := isDigit_of_mem_toDigits
    have instant := skipInstant_append all follows
    have read := readMagnitude_toDigits false number follows
    have same : ((number : Nat) : Int) = Int.ofNat number := rfl
    simp only [Bool.false_eq_true, ↓reduceIte, same, wordDocument?, word, Option.map_some] at read
    have sign : readSign (Nat.toDigits 10 number ++ rest) =
        (false, Nat.toDigits 10 number ++ rest) := by
      cases digits : Nat.toDigits 10 number with
      | nil => exact absurd digits Nat.toDigits_ne_nil
      | cons c tail => exact readSign_of_isDigit (all c (digits ▸ List.mem_cons_self)) _
    rw [decimalText, readNumeric, instant]
    · dsimp only
      rw [sign]
      exact read
    · exact toDigits_append_ne_based follows (by decide)
    · exact toDigits_append_ne_based follows (by decide)
    · exact toDigits_append_ne_based follows (by decide)
  | negSucc number =>
    have read := readMagnitude_toDigits true (number + 1) follows
    have same : -((number + 1 : Nat) : Int) = Int.negSucc number := rfl
    simp only [↓reduceIte, same, wordDocument?, word, Option.map_some] at read
    rw [decimalText, List.cons_append, readNumeric, skipInstant_minus]
    · exact read
    · simp
    · simp
    · simp

mutual

/-- How deep lists stand in lists. -/
def listDepth : Document → Nat
  | .list items => itemsDepth items + 1
  | _ => 0

/-- How deep lists stand in some values. -/
def itemsDepth : List Document → Nat
  | [] => 0
  | item :: rest => max (listDepth item) (itemsDepth rest)

end

/-- A character with which a value may begin. -/
def BeginsValue (c : Char) : Prop :=
  c = 't' ∨ c = 'f' ∨ c = '"' ∨ c = '[' ∨ c = '-' ∨ c.isDigit = true

/-- A value begins with no character of a kind in which none of its first characters is. -/
theorem BeginsValue.ne (begins : BeginsValue c) (other : Char)
    (outside : other ≠ 't' ∧ other ≠ 'f' ∧ other ≠ '"' ∧ other ≠ '[' ∧ other ≠ '-' ∧
      other.isDigit = false) : c ≠ other := by
  rintro rfl
  obtain ⟨noTrue, noFalse, noQuote, noBracket, noMinus, noDigit⟩ := outside
  rcases begins with same | same | same | same | same | digit
  · exact noTrue same
  · exact noFalse same
  · exact noQuote same
  · exact noBracket same
  · exact noMinus same
  · rw [digit] at noDigit
    contradiction

/-- A written value begins with one of few characters. -/
theorem head_writeValue {value : Document} (written : writeValue value = some chars) :
    ∃ c tail, chars = c :: tail ∧ BeginsValue c := by
  cases value with
  | bool flag =>
    cases flag with
    | true =>
      cases written
      exact ⟨_, _, rfl, .inl rfl⟩
    | false =>
      cases written
      exact ⟨_, _, rfl, .inr (.inl rfl)⟩
  | integer number =>
    simp only [writeValue] at written
    split at written
    · cases written
      obtain ⟨c, tail, shape, begins⟩ := head_decimalText number
      exact ⟨c, tail, shape, .inr (.inr (.inr (.inr begins)))⟩
    · contradiction
  | text text =>
    cases written
    exact ⟨_, _, rfl, .inr (.inr (.inl rfl))⟩
  | list items =>
    obtain ⟨texts, -, rfl⟩ := Option.map_eq_some_iff.mp written
    exact ⟨_, _, rfl, .inr (.inr (.inr (.inl rfl)))⟩
  | _ => contradiction

/-- No blank stands before a value on its line. -/
theorem skipGaps_of_beginsValue (begins : BeginsValue c) (chars : List Char) :
    skipGaps (c :: chars) = c :: chars := by
  have blank := begins.ne ' ' (by decide)
  have tab := begins.ne '\t' (by decide)
  simp [skipGaps, isGap, blank, tab]

/-- No blank, comment or line break stands before a value. -/
theorem skipSpace_of_beginsValue (begins : BeginsValue c) (chars : List Char) :
    skipSpace false (c :: chars) = some (c :: chars) := by
  have newline := begins.ne '\n' (by decide)
  have ret := begins.ne '\r' (by decide)
  have comment := begins.ne '#' (by decide)
  have blank := begins.ne ' ' (by decide)
  have tab := begins.ne '\t' (by decide)
  simp [skipSpace, isGap, newline, ret, comment, blank, tab]

/-- What begins like a number is read as one. -/
theorem readValue_of_numeric {fuel depth : Nat} (begins : c = '-' ∨ c.isDigit = true)
    (chars : List Char) : readValue (fuel + 1) depth (c :: chars) = readNumeric (c :: chars) := by
  have differs (other : Char) (outside : other ≠ '-' ∧ other.isDigit = false) : c ≠ other := by
    rintro rfl
    rcases begins with minus | digit
    · exact outside.1 minus
    · rw [digit] at outside
      exact absurd outside.2 (by decide)
  simp [readValue, differs '"' (by decide), differs '\'' (by decide), differs '[' (by decide),
    differs '\x7b' (by decide), differs 't' (by decide), differs 'f' (by decide)]

/-- A written list without values is read back. -/
theorem readItems_nil (fuel depth : Nat) (rest : List Char) :
    readItems (fuel + 1) depth (']' :: rest) = some ([], rest) := by
  simp [readItems, skipSpace, isGap]

/-- The last value of a list is read before the closing bracket. -/
theorem readItems_last {fuel depth : Nat} {item : Document} {chars : List Char}
    (begins : ∃ c tail, chars = c :: tail ∧ BeginsValue c)
    (read : readValue fuel depth (chars ++ ']' :: rest) = some (item, ']' :: rest)) :
    readItems (fuel + 1) depth (chars ++ ']' :: rest) = some ([item], rest) := by
  obtain ⟨c, tail, rfl, begins⟩ := begins
  have space := skipSpace_of_beginsValue begins (tail ++ ']' :: rest)
  have closes := begins.ne ']' (by decide)
  rw [List.cons_append] at read ⊢
  rw [readItems, space, Option.bind_some]
  simp [closes, read, skipSpace, isGap]

/-- A value before a comma is followed by the other values of a list. -/
theorem readItems_comma {fuel depth : Nat} {item : Document} {chars : List Char}
    (begins : ∃ c tail, chars = c :: tail ∧ BeginsValue c)
    (read : readValue fuel depth (chars ++ ',' :: rest) = some (item, ',' :: rest)) :
    readItems (fuel + 1) depth (chars ++ ',' :: rest) =
      (readItems fuel depth rest).map fun (items, rest) => (item :: items, rest) := by
  obtain ⟨c, tail, rfl, begins⟩ := begins
  have space := skipSpace_of_beginsValue begins (tail ++ ',' :: rest)
  have closes := begins.ne ']' (by decide)
  rw [List.cons_append] at read ⊢
  rw [readItems, space, Option.bind_some]
  simp [closes, read, skipSpace, isGap]

/-- A blank before a value of a list does not count. -/
theorem readItems_blank (fuel depth : Nat) (chars : List Char) :
    readItems fuel depth (' ' :: chars) = readItems fuel depth chars := by
  cases fuel with
  | zero => rfl
  | succ fuel =>
    have blank : skipSpace false (' ' :: chars) = skipSpace false chars := by
      rw [skipSpace]
      simp [isGap]
    simp only [readItems, blank]

/-- The values of a list as they are written. -/
abbrev joinItems (texts : List (List Char)) : List Char := [',', ' '].intercalate texts

/-- A list with texts for its values begins with the text of its first value. -/
theorem writeItems_cons {item : Document} {rest : List Document} {texts : List (List Char)}
    (written : writeItems (item :: rest) = some texts) :
    ∃ text more, writeValue item = some text ∧ writeItems rest = some more ∧
      texts = text :: more := by
  rw [writeItems, Option.bind_eq_bind, Option.bind_eq_some_iff] at written
  obtain ⟨text, first, written⟩ := written
  rw [Option.bind_eq_bind, Option.bind_eq_some_iff] at written
  obtain ⟨more, others, same⟩ := written
  cases same
  exact ⟨text, more, first, others, rfl⟩

mutual

/-- A written value is read back. The fuel suffices if it is not less than what is written. -/
theorem readValue_writeValue (value : Document) {chars rest : List Char} {fuel depth : Nat}
    (written : writeValue value = some chars) (enough : chars.length ≤ fuel)
    (shallow : listDepth value + depth < depthBound) (follows : EndsValue rest) :
    readValue fuel depth (chars ++ rest) = some (value, rest) := by
  obtain ⟨c, tail, shape, begins⟩ := head_writeValue written
  have positive : fuel ≠ 0 := by
    rw [shape, List.length_cons] at enough
    omega
  obtain ⟨fuel, rfl⟩ := Nat.exists_eq_succ_of_ne_zero positive
  match value with
  | .bool true =>
    cases written
    simp [readValue, skipWord]
  | .bool false =>
    cases written
    simp [readValue, skipWord]
  | .integer number =>
    simp only [writeValue] at written
    split at written
    · rename_i word
      cases written
      obtain ⟨first, others, digits, begins⟩ := head_decimalText number
      have read := readNumeric_decimalText word follows
      rw [digits] at read ⊢
      exact (readValue_of_numeric begins _).trans read
    · contradiction
  | .text text =>
    cases written
    have noQuote : rest.head? ≠ some '"' := by
      intro same
      obtain ⟨others, rfl⟩ : ∃ others, rest = '"' :: others := List.head?_eq_some_iff.mp same
      exact follows.head_ne '"' (by decide) rfl
    have read := readText_writeText text noQuote
    simp only [writeText, List.cons_append, List.append_assoc, List.nil_append] at read ⊢
    simp [readValue, read]
  | .list items =>
    obtain ⟨texts, texted, rfl⟩ := Option.map_eq_some_iff.mp written
    rw [listDepth] at shallow
    have room : (joinItems texts).length < fuel := by
      rw [List.length_append, List.length_cons, List.length_singleton] at enough
      exact Nat.lt_of_succ_le (Nat.le_of_succ_le_succ enough)
    have deep : depth + 1 < depthBound := by omega
    have read : readItems fuel (depth + 1) (joinItems texts ++ ']' :: rest) = some (items, rest) :=
      readItems_writeItems items texted room (by omega)
    simp only [List.cons_append, List.append_assoc, List.nil_append]
    simp [readValue, deep, read]
  | .null => contradiction
  | .table _ => contradiction
  | .foreign => contradiction

/-- The written values of a list are read back. -/
theorem readItems_writeItems (items : List Document) {texts : List (List Char)}
    {rest : List Char} {fuel depth : Nat} (written : writeItems items = some texts)
    (enough : (joinItems texts).length < fuel) (shallow : itemsDepth items + depth < depthBound) :
    readItems fuel depth (joinItems texts ++ ']' :: rest) = some (items, rest) := by
  obtain ⟨fuel, rfl⟩ := Nat.exists_eq_succ_of_ne_zero (Nat.ne_of_gt (Nat.zero_lt_of_lt enough))
  match items with
  | [] =>
    cases written
    exact readItems_nil fuel depth rest
  | item :: others =>
    obtain ⟨chars, more, text, texted, rfl⟩ := writeItems_cons written
    rw [itemsDepth] at shallow
    match others with
    | [] =>
      cases texted
      have alone : joinItems [chars] = chars := by simp [joinItems, List.intercalate]
      rw [alone] at enough ⊢
      refine readItems_last (head_writeValue text) ?_
      exact readValue_writeValue item text (by omega) (by omega) fun c member => by
        cases member
        exact .inr (.inr rfl)
    | next :: others =>
      obtain ⟨second, texts, -, -, rfl⟩ := writeItems_cons texted
      have split : joinItems (chars :: second :: texts) =
          chars ++ ',' :: ' ' :: joinItems (second :: texts) := by
        simp [joinItems, List.intercalate]
      rw [split, List.length_append, List.length_cons, List.length_cons] at enough
      have read : readItems fuel depth (joinItems (second :: texts) ++ ']' :: rest) =
          some (next :: others, rest) :=
        readItems_writeItems (next :: others) texted (by omega) (by omega)
      rw [split, List.append_assoc, List.cons_append, readItems_comma (head_writeValue text),
        List.cons_append, readItems_blank, read]
      · rfl
      · exact readValue_writeValue item text (by omega) (by omega) fun c member => by
          cases member
          exact .inr (.inl rfl)

end

namespace Statement

/-- A statement whose names and lists are not too deep for the reader. -/
def IsShallow : Statement → Prop
  | header _ path => path ≠ [] ∧ path.length < depthBound
  | assign path _ value => path.length + 1 < depthBound ∧ listDepth value < depthBound

end Statement

/-- A written path begins with a character of a bare name or with a quote. -/
theorem head_writePath {path : List String} (some : path ≠ []) :
    ∃ c tail, writePath path = c :: tail ∧ (isBare c = true ∨ c = '"') := by
  match path with
  | [] => exact absurd rfl some
  | [name] =>
    obtain ⟨c, tail, shape, begins⟩ := head_writeName name
    exact ⟨c, tail, by simp [writePath, List.intercalate, shape], begins⟩
  | name :: next :: path =>
    obtain ⟨c, tail, shape, begins⟩ := head_writeName name
    exact ⟨c, _, by simp [writePath, List.intercalate, shape]; rfl, begins⟩

/-- The end of a line is read. -/
theorem endLine?_newline (rest : List Char) : endLine? ('\n' :: rest) = some rest := by
  simp [endLine?, skipGaps, isGap, skipComment, lineBreak?]

/-- A bracket or an equals sign behind a path ends it. -/
theorem endsPath_bracket (rest : List Char) : EndsPath (']' :: rest) := by
  constructor
  · intro c member
    cases member
    rfl
  · simp [skipGaps, isGap]

/-- An equals sign between blanks ends a path. -/
theorem endsPath_equals (rest : List Char) :
    EndsPath (' ' :: '=' :: rest) ∧ skipGaps (' ' :: '=' :: rest) = '=' :: rest := by
  have skipped : skipGaps (' ' :: '=' :: rest) = '=' :: rest := by simp [skipGaps, isGap]
  refine ⟨⟨?_, ?_⟩, skipped⟩
  · intro c member
    cases member
    rfl
  · rw [skipped]
    simp

/-- A written header is read back after its opening brackets. -/
theorem readHeader_writePath (isEach : Bool) {path : List String} (some : path ≠ [])
    (short : path.length < depthBound) (rest : List Char) :
    readHeader isEach (writePath path ++ ((if isEach then [']', ']'] else [']']) ++ '\n' :: rest)) =
      Option.some (.header isEach path, rest) := by
  rcases List.eq_nil_or_concat path with rfl | ⟨before, last, rfl⟩
  · exact absurd rfl some
  · rw [List.concat_eq_append] at short ⊢
    rw [List.length_append, List.length_singleton] at short
    cases isEach with
    | true =>
      have read := readPath_writePath before last short (endsPath_bracket (']' :: '\n' :: rest))
      simp [readHeader, read, skipGaps, isGap, skipChar, endLine?_newline]
    | false =>
      have read := readPath_writePath before last short (endsPath_bracket ('\n' :: rest))
      simp [readHeader, read, skipGaps, isGap, skipChar, endLine?_newline]

/-- A written assignment is read back. -/
theorem readAssignment_writeStatement {path : List String} {name : String} {value : Document}
    {fuel : Nat} (written : writeValue value = some chars) (enough : chars.length ≤ fuel)
    (shallow : Statement.IsShallow (.assign path name value)) (rest : List Char) :
    readAssignment fuel
        (writePath (path ++ [name]) ++ ' ' :: '=' :: ' ' :: (chars ++ '\n' :: rest)) =
      some (.assign path name value, rest) := by
  obtain ⟨ends, equals⟩ := endsPath_equals (' ' :: (chars ++ '\n' :: rest))
  have names := readPath_writePath path name shallow.1 ends
  obtain ⟨c, tail, shape, begins⟩ := head_writeValue written
  have read : readValue fuel 0 (chars ++ '\n' :: rest) = some (value, '\n' :: rest) :=
    readValue_writeValue value written enough shallow.2 fun c member => by
      cases member
      exact .inl rfl
  have gap : skipGaps (' ' :: (chars ++ '\n' :: rest)) = chars ++ '\n' :: rest := by
    have first := skipGaps_of_beginsValue begins (tail ++ '\n' :: rest)
    rw [shape, List.cons_append]
    simpa [skipGaps, isGap] using first
  simp [readAssignment, names, equals, skipChar, gap, read, endLine?_newline]

/-- A line that begins with a path is an assignment. -/
theorem readLine_of_path (fuel : Nat) (begins : isBare c = true ∨ c = '"') (chars : List Char) :
    readLine fuel (c :: chars) =
      (readAssignment fuel (c :: chars)).map fun (statement, rest) => (some statement, rest) := by
  have differs (other : Char) (outside : isBare other = false ∧ other ≠ '"') : c ≠ other := by
    rintro rfl
    rcases begins with bare | quote
    · rw [outside.1] at bare
      contradiction
    · exact outside.2 quote
  have gap : skipGaps (c :: chars) = c :: chars := by
    simp [skipGaps, isGap, differs ' ' (by decide), differs '\t' (by decide)]
  have comment : skipComment (c :: chars) = c :: chars := by
    rw [skipComment]
    simp [differs '#' (by decide)]
  have noBreak : lineBreak? (c :: chars) = none := by
    rw [lineBreak?]
    · simp [differs '\n' (by decide)]
    · simp [differs '\r' (by decide)]
  have noEnd : endLine? (c :: chars) = none := by
    simp only [endLine?, gap, comment, noBreak]
  have bracket := differs '[' (by decide)
  rw [readLine, gap]
  split
  · rename_i tail shape
    exact absurd (List.head_eq_of_cons_eq shape) bracket
  · rename_i tail other shape
    exact absurd (List.head_eq_of_cons_eq shape) bracket
  · rw [noEnd]

/-- A line that begins with one bracket is a header. -/
theorem readLine_of_bracket {fuel : Nat} {c : Char} {tail : List Char} (bracket : c ≠ '[') :
    readLine fuel ('[' :: c :: tail) =
      (readHeader false (c :: tail)).map fun (statement, rest) => (some statement, rest) := by
  have gap : skipGaps ('[' :: c :: tail) = '[' :: c :: tail := rfl
  rw [readLine, gap]
  split
  · rename_i shape
    exact absurd (List.cons.inj (List.cons.inj shape).2).1 bracket
  · rename_i shape
    rw [(List.cons.inj shape).2]
  · rename_i single
    exact absurd rfl (single (c :: tail))

/-- A written statement is read back as a line. -/
theorem readLine_writeStatement {statement : Statement} {fuel : Nat}
    (written : writeStatement statement = some chars) (enough : chars.length ≤ fuel)
    (shallow : statement.IsShallow) (rest : List Char) :
    readLine fuel (chars ++ rest) = some (some statement, rest) := by
  match statement with
  | .header true path =>
    cases written
    have read := readHeader_writePath true shallow.1 shallow.2 rest
    simp only [↓reduceIte, List.cons_append, List.nil_append] at read
    simp [readLine, skipGaps, isGap, read]
  | .header false path =>
    cases written
    have read := readHeader_writePath false shallow.1 shallow.2 rest
    obtain ⟨c, tail, shape, begins⟩ := head_writePath shallow.1
    have bracket : c ≠ '[' := by
      rintro rfl
      exact absurd begins (by decide)
    simp only [Bool.false_eq_true, ↓reduceIte, List.cons_append, List.nil_append] at read
    simp only [List.cons_append, List.nil_append, List.append_assoc]
    rw [shape, List.cons_append] at read ⊢
    rw [readLine_of_bracket bracket, read]
    rfl
  | .assign path name value =>
    simp only [writeStatement] at written
    obtain ⟨text, valueText, rfl⟩ := Option.map_eq_some_iff.mp written
    have room : text.length ≤ fuel := by
      simp only [List.length_append] at enough
      omega
    have read := readAssignment_writeStatement valueText room shallow rest
    obtain ⟨c, tail, shape, begins⟩ :=
      head_writePath (List.append_ne_nil_of_right_ne_nil path (List.cons_ne_nil name []))
    simp only [List.append_assoc, List.cons_append, List.nil_append]
    rw [shape, List.cons_append] at read ⊢
    rw [readLine_of_path fuel begins, read]
    rfl

/-- An empty line says nothing. -/
theorem readLine_newline (fuel : Nat) (rest : List Char) :
    readLine fuel ('\n' :: rest) = some (none, rest) := by
  simp [readLine, skipGaps, isGap, endLine?, skipComment, lineBreak?]

/-- A written statement is not empty. -/
theorem length_writeStatement {statement : Statement}
    (written : writeStatement statement = some chars) : 0 < chars.length := by
  cases statement with
  | header isEach path =>
    cases isEach <;> cases written <;> simp
  | assign path name value =>
    obtain ⟨text, -, rfl⟩ := Option.map_eq_some_iff.mp written
    exact List.length_pos_iff.mpr (by simp)

/-- A line is read before the others. -/
theorem readLines_of_line {statement : Option Statement} {fuel : Nat} (some : chars ≠ [])
    (line : readLine (fuel + 1) chars = Option.some (statement, rest)) :
    readLines (fuel + 1) chars =
      (readLines fuel rest).map fun statements => statement.toList ++ statements := by
  rw [readLines, line]
  · rfl
  · exact some

/-- A line of one statement is read before the others. -/
theorem readLines_cons {statement : Statement} {statements : List Statement} {fuel : Nat}
    (written : writeStatement statement = some chars) (shallow : statement.IsShallow)
    (enough : (chars ++ rest).length ≤ fuel)
    (others : ∀ fuel, rest.length ≤ fuel → readLines fuel rest = some statements) :
    readLines fuel (chars ++ rest) = some (statement :: statements) := by
  have visible := length_writeStatement written
  rw [List.length_append] at enough
  obtain ⟨fuel, rfl⟩ := Nat.exists_eq_succ_of_ne_zero (show fuel ≠ 0 by omega)
  have line := readLine_writeStatement written (show chars.length ≤ fuel + 1 by omega) shallow rest
  have some : chars ++ rest ≠ [] := List.append_ne_nil_of_left_ne_nil
    (List.ne_nil_of_length_pos visible) rest
  rw [readLines_of_line some line, others fuel (by omega)]
  rfl

/-- Written statements are read back behind others. -/
theorem readLines_writeRest {statements : List Statement}
    (written : writeRest statements = some chars)
    (shallow : ∀ statement ∈ statements, statement.IsShallow) (fuel : Nat)
    (enough : chars.length ≤ fuel) : readLines fuel chars = some statements := by
  induction statements generalizing chars fuel with
  | nil =>
    cases written
    cases fuel <;> rfl
  | cons statement rest ih =>
    rw [writeRest, Option.bind_eq_bind, Option.bind_eq_some_iff] at written
    obtain ⟨text, first, written⟩ := written
    obtain ⟨texts, others, same⟩ := Option.bind_eq_some_iff.mp written
    have own := shallow statement List.mem_cons_self
    have tail := ih others fun other member => shallow other (List.mem_cons_of_mem _ member)
    cases statement with
    | header isEach path =>
      -- The empty line before a header is a line of its own.
      cases same
      rw [List.cons_append, List.length_cons] at enough
      obtain ⟨fuel, rfl⟩ := Nat.exists_eq_succ_of_ne_zero (show fuel ≠ 0 by omega)
      rw [List.cons_append, readLines_of_line (List.cons_ne_nil _ _) (readLine_newline _ _),
        readLines_cons first own (Nat.le_of_succ_le_succ enough) tail]
      rfl
    | assign path name value =>
      cases same
      exact readLines_cons first own enough tail

/-- The text of statements begins with that of the first one. -/
theorem writeStatements_cons {statement : Statement} {rest : List Statement}
    (written : writeStatements (statement :: rest) = some chars) :
    ∃ text texts, writeStatement statement = some text ∧ writeRest rest = some texts ∧
      chars = text ++ texts := by
  rw [writeStatements, Option.bind_eq_bind, Option.bind_eq_some_iff] at written
  obtain ⟨text, first, written⟩ := written
  obtain ⟨texts, others, same⟩ := Option.bind_eq_some_iff.mp written
  cases same
  exact ⟨text, texts, first, others, rfl⟩

/-- Written statements are read back. -/
theorem readLines_writeStatements {statements : List Statement}
    (written : writeStatements statements = some chars)
    (shallow : ∀ statement ∈ statements, statement.IsShallow) (fuel : Nat)
    (enough : chars.length ≤ fuel) : readLines fuel chars = some statements := by
  cases statements with
  | nil =>
    cases written
    cases fuel <;> rfl
  | cons statement rest =>
    obtain ⟨text, texts, first, others, rfl⟩ := writeStatements_cons written
    exact readLines_cons first (shallow statement List.mem_cons_self) enough
      (readLines_writeRest others fun other member =>
        shallow other (List.mem_cons_of_mem _ member))

/-- A written statement begins with no byte order mark. -/
theorem head_writeStatement {statement : Statement} (shallow : statement.IsShallow)
    (written : writeStatement statement = some chars) (rest : List Char) :
    ∀ tail, chars ++ rest ≠ '\ufeff' :: tail := by
  intro tail marked
  have bare : isBare '\ufeff' = false := by decide
  cases statement with
  | header isEach path => cases isEach <;> cases written <;> simp at marked
  | assign path name value =>
    obtain ⟨text, -, rfl⟩ := Option.map_eq_some_iff.mp written
    obtain ⟨c, others, shape, begins⟩ :=
      head_writePath (List.append_ne_nil_of_right_ne_nil path (List.cons_ne_nil name []))
    rw [shape] at marked
    simp only [List.cons_append, List.cons.injEq] at marked
    rw [marked.1, bare] at begins
    exact absurd begins (by decide)

/-- The text of statements is read as these statements. -/
theorem statements?_of_writeStatements {statements : List Statement}
    (written : writeStatements statements = some chars)
    (shallow : ∀ statement ∈ statements, statement.IsShallow) :
    statements? chars = some statements := by
  have read := readLines_writeStatements written shallow chars.length (Nat.le_refl _)
  cases statements with
  | nil =>
    cases written
    rfl
  | cons statement rest =>
    obtain ⟨text, texts, first, others, rfl⟩ := writeStatements_cons written
    have unmarked := head_writeStatement (shallow statement List.mem_cons_self) first texts
    rw [statements?]
    · exact read
    · exact unmarked

/-- The text of a document is read as what the statements of the document build. -/
theorem ofText_of_render? {document : Document} {text : String}
    (rendered : render? document = some text)
    (shallow : ∀ statement ∈ statementsOf document, statement.IsShallow) :
    ofText text = assemble (statementsOf document) := by
  obtain ⟨chars, written, rfl⟩ := Option.map_eq_some_iff.mp rendered
  rw [ofText, String.toList_ofList, statements?_of_writeStatements written shallow]
  rfl

end Standby.Toml
