import Mathlib.Data.List.Basic
import Standby.Json.Reader
import Standby.Json.Writer
import Standby.Proofs.Document.Fields
import Standby.Proofs.Text.Numeral

/-!
# Written JSON is read back

The reader takes from the front of a text what the writer put there and leaves what follows. This is
shown of texts, numbers and values one after the other, each for whatever may follow it in a written
text and in any layout that adds nothing but blanks (`readValue_write`). So a document without
foreign data is read back from its text, on one line or on many.
-/
namespace Standby.Json

open Standby.Text

variable {c : Char} {chars : List Char} {rest : List Symbol}

section Texts

/-- A control that is written as its code is the character of this code. -/
theorem codeUnit?_hexDigits (small : c.toNat < 0x20) :
    codeUnit? (.char '0') (.char '0') (.char (hexDigit (c.toNat / 16)))
      (.char (hexDigit (c.toNat % 16))) = some c.toNat := by
  have zero : hexValue? '0' = some 0 := rfl
  have high := hexValue?_hexDigit (c.toNat / 16) (by omega)
  have low := hexValue?_hexDigit (c.toNat % 16) (by omega)
  have code : c.toNat / 16 * 16 + c.toNat % 16 = c.toNat := by omega
  simp [codeUnit?, digit?, zero, high, low, code]

/-- The closing quote ends a text. -/
theorem readText_quote (rest : List Symbol) :
    readText (.char '"' :: rest) = some (some [], rest) := by
  rw [readText.eq_def]
  rfl

/-- A character that needs no escape is read as it is. -/
theorem readText_of_plain (quote : c ≠ '"') (backslash : c ≠ '\\') (visible : ¬ c.toNat < 0x20)
    (rest : List Symbol) : readText (.char c :: rest) = (readText rest).map (.push c) := by
  rw [readText.eq_def]
  dsimp only
  rw [if_neg quote, if_neg backslash, if_neg visible]

/-- What the writer puts for a character is read back as the character. -/
theorem readText_escapeChar (c : Char) (rest : List Symbol) :
    readText ((escapeChar c).map .char ++ rest) = (readText rest).map (.push c) := by
  unfold escapeChar
  split_ifs with quote backslash newline ret tab backspace feed control
  · simp [quote, readText, shortEscape?]
  · simp [backslash, readText, shortEscape?, List.lookup_cons]
  · simp [newline, readText, shortEscape?, List.lookup_cons]
  · simp [ret, readText, shortEscape?, List.lookup_cons]
  · simp [tab, readText, shortEscape?, List.lookup_cons]
  · simp [backspace, readText, shortEscape?, List.lookup_cons]
  · simp [feed, readText, shortEscape?, List.lookup_cons]
  · have code := codeUnit?_hexDigits control
    have noLow : isLowSurrogate c.toNat = false := by
      simp only [isLowSurrogate, Bool.and_eq_false_iff, decide_eq_false_iff_not]
      omega
    have noHigh : isHighSurrogate c.toNat = false := by
      simp only [isHighSurrogate, Bool.and_eq_false_iff, decide_eq_false_iff_not]
      omega
    simp [readText, code, noLow, noHigh, Char.ofNat_toNat]
  · exact readText_of_plain quote backslash control rest

/-- A written text is read back up to its closing quote. -/
theorem readText_flatMap_escapeChar (text : List Char) (rest : List Symbol) :
    readText ((text.flatMap escapeChar).map .char ++ .char '"' :: rest) =
      some (some text, rest) := by
  induction text with
  | nil => exact readText_quote rest
  | cons c text ih =>
    rw [List.flatMap_cons, List.map_append, List.append_assoc, readText_escapeChar, ih]
    rfl

end Texts

section Numbers

/-- What may follow a value. -/
def EndsValue (rest : List Symbol) : Prop :=
  ∀ symbol ∈ rest.head?,
    isGap symbol = true ∨ symbol = .char ',' ∨ symbol = .char ']' ∨ symbol = .char '\x7d'

/-- What follows a value is no character of which a number consists. -/
theorem EndsValue.isDigit (ends : EndsValue (.char c :: rest)) :
    c.isDigit = false ∧ c ≠ '.' ∧ c ≠ 'e' ∧ c ≠ 'E' := by
  have follows := ends (.char c) rfl
  simp only [isGap, Bool.or_eq_true, beq_iff_eq, Symbol.char.injEq] at follows
  rcases follows with ((((rfl | rfl) | rfl) | rfl) | rfl | rfl | rfl) <;> decide

/-- Digits are read up to the end of a value. -/
theorem readDigits_append {digits : List Char} (all : ∀ c ∈ digits, c.isDigit = true)
    (ends : EndsValue rest) : readDigits (digits.map .char ++ rest) = (digits, rest) := by
  induction digits with
  | nil =>
    match rest with
    | [] => rfl
    | .char c :: rest => simp [readDigits, ends.isDigit.1]
    | .stray byte :: rest => rfl
  | cons c digits ih =>
    have first := all c List.mem_cons_self
    have others := ih fun other member => all other (List.mem_cons_of_mem _ member)
    simp [readDigits, first, others]

/-- Neither a fraction nor an exponent stands at the end of a value. -/
theorem readFraction_of_ends (ends : EndsValue rest) :
    readFraction rest = some (false, rest) ∧ readExponent rest = some (false, rest) := by
  match rest with
  | [] => exact ⟨rfl, rfl⟩
  | .char c :: rest =>
    obtain ⟨-, point, small, large⟩ := ends.isDigit
    constructor
    · rw [readFraction]
      simp [point]
    · simp [readExponent, small, large]
  | .stray byte :: rest => exact ⟨rfl, rfl⟩

/-- A magnitude is read up to the end of a value. -/
theorem readMagnitude_toDigits (negative : Bool) (number : Nat) (ends : EndsValue rest) :
    readMagnitude negative ((Nat.toDigits 10 number).map .char ++ rest) =
      some (if negative then
        if number = 0 then .foreign else .integer (-(number : Int))
      else .integer number, rest) := by
  have all (c : Char) : c ∈ Nat.toDigits 10 number → c.isDigit = true := isDigit_of_mem_toDigits
  have read := readDigits_append all ends
  have some_digit : (Nat.toDigits 10 number).isEmpty = false :=
    List.isEmpty_eq_false_iff.mpr Nat.toDigits_ne_nil
  have leading : ¬ ((Nat.toDigits 10 number).head? = some '0' ∧
      1 < (Nat.toDigits 10 number).length) := by
    rintro ⟨zero, long⟩
    rcases Nat.eq_zero_or_pos number with rfl | positive
    · exact absurd long (by decide)
    · exact head?_toDigits positive zero
  obtain ⟨fraction, exponent⟩ := readFraction_of_ends ends
  rw [readMagnitude, read]
  dsimp only
  rw [some_digit, if_neg Bool.false_ne_true, if_neg leading]
  simp only [fraction, exponent, decimalValue_toDigits, Option.bind_eq_bind, Option.bind_some,
    Bool.or_self, Bool.false_eq_true, ↓reduceIte]
  cases negative
  · rfl
  · simp only [↓reduceIte]
    split <;> rfl

end Numbers

section Values

mutual

/-- A document without foreign data. -/
def isPlain : Document → Bool
  | .foreign => false
  | .list items => arePlain items
  | .table entries => areEntriesPlain entries
  | _ => true

/-- Documents without foreign data. -/
def arePlain : List Document → Bool
  | [] => true
  | item :: items => isPlain item && arePlain items

/-- Named documents without foreign data. -/
def areEntriesPlain : List (String × Document) → Bool
  | [] => true
  | (_, value) :: entries => isPlain value && areEntriesPlain entries

end

/-- Characters that are blanks between tokens. -/
def AreGaps (chars : List Char) : Prop := ∀ c ∈ chars, isGap (.char c) = true

/-- A layout that adds nothing but blanks to the signs. -/
structure Layout.IsBlank (layout : Layout) : Prop where
  /-- Before an element there are blanks. -/
  lineBreak : ∀ depth, AreGaps (layout.lineBreak depth)
  /-- A colon stands between a name and its value. -/
  colon : ∃ blanks, layout.colon = ':' :: blanks ∧ AreGaps blanks

/-- The compact layout puts nothing between values. -/
theorem isBlank_compact : compact.IsBlank :=
  ⟨fun _ => nofun, [], rfl, nofun⟩

/-- The pretty layout puts nothing but gaps between values. -/
theorem isBlank_pretty : pretty.IsBlank := by
  refine ⟨fun depth c member => ?_, [' '], rfl, fun c member => ?_⟩
  · rcases List.mem_cons.mp member with rfl | blank
    · rfl
    · rw [List.eq_of_mem_replicate blank]
      rfl
  · rw [List.mem_singleton.mp member]
    rfl

/-- Blanks are skipped. -/
theorem skipGaps_append (gaps : AreGaps chars) (rest : List Symbol) :
    skipGaps (chars.map .char ++ rest) = skipGaps rest := by
  refine List.dropWhile_append_of_pos fun symbol member => ?_
  obtain ⟨c, inside, rfl⟩ := List.mem_map.mp member
  exact gaps c inside

/-- A character that is no gap is not skipped. -/
theorem skipGaps_of_visible (visible : isGap (.char c) = false) (rest : List Symbol) :
    skipGaps (.char c :: rest) = .char c :: rest :=
  List.dropWhile_cons_of_neg (by simp [visible])

/-- A quotation mark is not skipped. -/
theorem skipGaps_quote (rest : List Symbol) :
    skipGaps (.char '"' :: rest) = .char '"' :: rest :=
  skipGaps_of_visible rfl rest

/-- Blanks in front of a value do not count. -/
theorem readValue_of_gaps (gaps : AreGaps chars) (fuel : Nat) (rest : List Symbol) :
    readValue fuel (chars.map .char ++ rest) = readValue fuel rest := by
  cases fuel with
  | zero => rfl
  | succ fuel => rw [readValue, readValue, skipGaps_append gaps]

/-- A name is read behind gaps as well. -/
theorem readName_of_gaps (gaps : AreGaps chars) (rest : List Symbol) :
    readName (chars.map .char ++ rest) = readName rest := by
  rw [readName, readName, skipGaps_append gaps]

/-- Entries are read behind gaps as well. -/
theorem readEntries_of_gaps (gaps : AreGaps chars) (fuel : Nat) (rest : List Symbol) :
    readEntries fuel (chars.map .char ++ rest) = readEntries fuel rest := by
  cases fuel with
  | zero => rfl
  | succ fuel => rw [readEntries, readEntries, readName_of_gaps gaps]

/-- A digit stands for no blank and begins neither a text, a list, a table nor a word. -/
theorem visible_of_isDigit (digit : c.isDigit = true) :
    isGap (.char c) = false ∧ c ≠ '"' ∧ c ≠ '[' ∧ c ≠ '\x7b' ∧ c ≠ 't' ∧ c ≠ 'f' ∧ c ≠ 'n' ∧
      c ≠ '-' ∧ c ≠ ']' := by
  have differs (other : Char) (no_digit : other.isDigit = false) : c ≠ other := by
    rintro rfl
    exact Bool.false_ne_true (no_digit.symm.trans digit)
  refine ⟨?_, differs _ rfl, differs _ rfl, differs _ rfl, differs _ rfl, differs _ rfl,
    differs _ rfl, differs _ rfl, differs _ rfl⟩
  simp [isGap, differs ' ' rfl, differs '\n' rfl, differs '\t' rfl, differs '\r' rfl]

/-- A value that begins with a digit is a number. -/
theorem readValue_of_isDigit (digit : c.isDigit = true) (fuel : Nat) :
    readValue (fuel + 1) (.char c :: rest) = readMagnitude false (.char c :: rest) := by
  obtain ⟨visible, quote, bracket, brace, yes, no, nothing, minus, -⟩ := visible_of_isDigit digit
  rw [readValue, skipGaps_of_visible visible]
  simp [quote, bracket, brace, yes, no, nothing, minus]

/-- A written number is read back. -/
theorem readValue_decimalText (value : Int) (fuel : Nat) (ends : EndsValue rest) :
    readValue (fuel + 1) ((decimalText value).map .char ++ rest) =
      some (.integer value, rest) := by
  cases value with
  | ofNat number =>
    have read := readMagnitude_toDigits false number ends
    cases digits : Nat.toDigits 10 number with
    | nil => exact absurd digits Nat.toDigits_ne_nil
    | cons c tail =>
      have digit : c.isDigit = true := isDigit_of_mem_toDigits (digits ▸ List.mem_cons_self)
      rw [digits] at read
      rw [decimalText, digits]
      exact (readValue_of_isDigit digit fuel).trans read
  | negSucc number =>
    have read := readMagnitude_toDigits true (number + 1) ends
    rw [decimalText]
    exact read

/-- A value begins with a character that is no blank and does not close a list. -/
theorem head_write (layout : Layout) (depth : Nat) (document : Document) :
    ∃ c tail, write layout depth document = c :: tail ∧ isGap (.char c) = false ∧ c ≠ ']' := by
  match document with
  | .null => exact ⟨_, _, rfl, rfl, by decide⟩
  | .bool true => exact ⟨_, _, rfl, rfl, by decide⟩
  | .bool false => exact ⟨_, _, rfl, rfl, by decide⟩
  | .integer value =>
    obtain ⟨c, tail, shape, rfl | digit⟩ := head_decimalText value
    · exact ⟨'-', tail, shape, rfl, by decide⟩
    · obtain ⟨visible, -, -, -, -, -, -, -, bracket⟩ := visible_of_isDigit digit
      exact ⟨c, tail, shape, visible, bracket⟩
  | .text value => exact ⟨'"', _, rfl, rfl, by decide⟩
  | .list [] => exact ⟨'[', _, rfl, rfl, by decide⟩
  | .list (item :: items) => exact ⟨'[', _, rfl, rfl, by decide⟩
  | .table [] => exact ⟨'\x7b', _, rfl, rfl, by decide⟩
  | .table ((name, value) :: entries) => exact ⟨'\x7b', _, rfl, rfl, by decide⟩
  | .foreign => exact ⟨_, _, rfl, rfl, by decide⟩

/-- A list whose first value follows is no empty list. -/
theorem readValue_open_list (layout : Layout) (depth fuel : Nat) (item : Document)
    (gaps : AreGaps chars) (rest : List Symbol) :
    readValue (fuel + 1)
        (.char '[' :: (chars.map .char ++ ((write layout depth item).map .char ++ rest))) =
      (readValue fuel ((write layout depth item).map .char ++ rest)).bind fun found =>
        (readItems fuel found.2).map fun others => (.list (found.1 :: others.1), others.2) := by
  obtain ⟨c, tail, shape, visible, bracket⟩ := head_write layout depth item
  rw [readValue, skipGaps_of_visible rfl]
  simp [skipGaps_append gaps, shape, skipGaps_of_visible visible, bracket]

/-- A table whose first name follows is no empty table. -/
theorem readValue_open_table (fuel : Nat) (name : String) (gaps : AreGaps chars)
    (rest : List Symbol) :
    readValue (fuel + 1)
        (.char '\x7b' :: (chars.map .char ++ ((writeText name).map .char ++ rest))) =
      (readEntries fuel ((writeText name).map .char ++ rest)).map fun found =>
        (tableDocument found.1, found.2) := by
  rw [readValue, skipGaps_of_visible rfl]
  simp [skipGaps_append gaps, writeText, skipGaps_quote]

/-- A written name is read back with its colon. -/
theorem readName_writeText {layout : Layout} (blank : layout.IsBlank) (name : String)
    (rest : List Symbol) :
    ∃ blanks, AreGaps blanks ∧
      readName ((writeText name).map .char ++ (layout.colon.map .char ++ rest)) =
        some (some name.toList, blanks.map .char ++ rest) := by
  obtain ⟨blanks, colon, gaps⟩ := blank.colon
  have text := readText_flatMap_escapeChar name.toList
    (.char ':' :: (blanks.map .char ++ rest))
  have visible := skipGaps_of_visible (c := ':') rfl (blanks.map .char ++ rest)
  refine ⟨blanks, gaps, ?_⟩
  rw [readName, writeText]
  simp [skipGaps_quote, text, colon, visible]

/-- The document of names that are texts is a table. -/
theorem tableDocument_texts (entries : List (String × Document)) :
    tableDocument (entries.map fun entry => (some entry.1.toList, entry.2)) =
      .table entries := by
  have named : (entries.map fun entry => (some entry.1.toList, entry.2)).mapM
      (fun entry => entry.1.map fun name => (String.ofList name, entry.2)) = some entries := by
    rw [List.mapM_map]
    refine (Document.mapM_eq_some_map fun entry _ => ?_).trans (by rw [List.map_id])
    simp [Function.comp]
  rw [tableDocument, named]

end Values

section Roundtrip

/-- Blanks in front of what may follow a value may follow the value. -/
theorem EndsValue.of_gaps (gaps : AreGaps chars) (ends : EndsValue rest) :
    EndsValue (chars.map .char ++ rest) := by
  cases chars with
  | nil => exact ends
  | cons c chars =>
    rintro symbol ⟨⟩
    exact .inl (gaps c List.mem_cons_self)

/-- A value ends before a comma and before a closing bracket. -/
theorem endsValue_of_sign (sign : c = ',' ∨ c = ']' ∨ c = '\x7d') :
    EndsValue (.char c :: rest) := by
  rintro symbol ⟨⟩
  rcases sign with rfl | rfl | rfl <;> simp

/-- The rest of a list may follow a value. -/
theorem endsValue_writeItems (layout : Layout) (depth : Nat) (items : List Document)
    (gaps : AreGaps chars) (rest : List Symbol) :
    EndsValue ((writeItems layout depth items).map .char ++
      (chars.map .char ++ .char ']' :: rest)) := by
  have closing : EndsValue (chars.map .char ++ .char ']' :: rest) :=
    .of_gaps gaps (endsValue_of_sign (by simp))
  cases items with
  | nil => exact closing
  | cons => exact endsValue_of_sign (by simp)

variable {layout : Layout}

/-- A text is written between two quotation marks. -/
theorem length_writeText (name : String) : 2 ≤ (writeText name).length := by
  simp [writeText]

/-- The last entry of a table is read with the brace after it. -/
theorem readEntries_last (blank : layout.IsBlank) {name : String} {value : Document} {fuel : Nat}
    {symbols : List Symbol} (gaps : AreGaps chars)
    (read : readValue fuel symbols = some (value, chars.map .char ++ .char '\x7d' :: rest)) :
    readEntries (fuel + 1) ((writeText name).map .char ++ (layout.colon.map .char ++ symbols)) =
      some ([(some name.toList, value)], rest) := by
  obtain ⟨blanks, between, named⟩ := readName_writeText blank name symbols
  have visible := skipGaps_of_visible (c := '\x7d') rfl rest
  rw [readEntries, named, Option.bind_some, readValue_of_gaps between, read, Option.bind_some,
    skipGaps_append gaps, visible]
  rfl

/-- An entry of a table is read before the entries after it. -/
theorem readEntries_next (blank : layout.IsBlank) {name : String} {value : Document} {fuel : Nat}
    {symbols : List Symbol} (read : readValue fuel symbols = some (value, .char ',' :: rest)) :
    readEntries (fuel + 1) ((writeText name).map .char ++ (layout.colon.map .char ++ symbols)) =
      (readEntries fuel rest).map fun others =>
        ((some name.toList, value) :: others.1, others.2) := by
  obtain ⟨blanks, between, named⟩ := readName_writeText blank name symbols
  have visible := skipGaps_of_visible (c := ',') rfl rest
  rw [readEntries, named, Option.bind_some, readValue_of_gaps between, read, Option.bind_some,
    visible]
  rfl

mutual

/-- A written value is read back from the front of a text. -/
theorem readValue_write (blank : layout.IsBlank) : ∀ (document : Document) (depth fuel : Nat)
    (rest : List Symbol), isPlain document = true →
    (write layout depth document).length ≤ fuel + 1 → EndsValue rest →
    readValue (fuel + 1) ((write layout depth document).map .char ++ rest) =
      some (document, rest)
  | .null, _, _, _, _, _, _ => rfl
  | .bool true, _, _, _, _, _, _ => rfl
  | .bool false, _, _, _, _, _, _ => rfl
  | .integer value, _, fuel, _, _, _, ends => by
    rw [write]
    exact readValue_decimalText value fuel ends
  | .text value, _, fuel, rest, _, _, _ => by
    have text := readText_flatMap_escapeChar value.toList rest
    rw [write, readValue, writeText]
    simp [skipGaps_quote, text, textDocument]
  | .list [], _, _, _, _, _, _ => rfl
  | .list (item :: items), depth, fuel, rest, plain, enough, _ => by
    rw [isPlain, arePlain, Bool.and_eq_true] at plain
    rw [write] at enough ⊢
    simp only [List.length_cons, List.length_append, List.length_nil] at enough
    obtain ⟨fuel, rfl⟩ : ∃ less, fuel = less + 1 := ⟨fuel - 1, by omega⟩
    have gaps := blank.lineBreak depth
    have first := readValue_write blank item (depth + 1) fuel _ plain.1 (by omega)
      (endsValue_writeItems layout (depth + 1) items gaps rest)
    have others := readItems_writeItems blank items (depth + 1) (fuel + 1) rest plain.2
      (by omega) gaps
    simp only [List.map_cons, List.map_append, List.map_nil, List.cons_append,
      List.append_assoc, List.nil_append]
    rw [readValue_open_list layout (depth + 1) (fuel + 1) item (blank.lineBreak (depth + 1)),
      first, Option.bind_some, others]
    rfl
  | .table [], _, _, _, _, _, _ => rfl
  | .table ((name, value) :: entries), depth, fuel, rest, plain, enough, _ => by
    rw [isPlain, areEntriesPlain, Bool.and_eq_true] at plain
    rw [write] at enough ⊢
    simp only [List.length_cons, List.length_append, List.length_nil] at enough
    have all := readEntries_writeEntries blank entries name value (depth + 1) fuel rest plain.1
      plain.2 (by omega) (blank.lineBreak depth)
    simp only [List.map_cons, List.map_append, List.map_nil, List.cons_append,
      List.append_assoc, List.nil_append]
    rw [readValue_open_table fuel name (blank.lineBreak (depth + 1)), all, Option.map_some,
      tableDocument_texts]
termination_by document => sizeOf document

/-- The written rest of a list is read back up to its closing bracket. -/
theorem readItems_writeItems (blank : layout.IsBlank) : ∀ (items : List Document)
    (depth fuel : Nat) (rest : List Symbol) {chars : List Char}, arePlain items = true →
    (writeItems layout depth items).length < fuel → AreGaps chars →
    readItems fuel ((writeItems layout depth items).map .char ++
      (chars.map .char ++ .char ']' :: rest)) = some (items, rest)
  | [], _, fuel, rest, chars, _, enough, gaps => by
    obtain ⟨fuel, rfl⟩ : ∃ less, fuel = less + 1 := ⟨fuel - 1, by omega⟩
    have visible := skipGaps_of_visible (c := ']') rfl rest
    rw [writeItems, readItems]
    simp [skipGaps_append gaps, visible]
  | item :: items, depth, fuel, rest, chars, plain, enough, gaps => by
    rw [arePlain, Bool.and_eq_true] at plain
    rw [writeItems] at enough ⊢
    simp only [List.length_cons, List.length_append] at enough
    obtain ⟨fuel, rfl⟩ : ∃ less, fuel = less + 2 := ⟨fuel - 2, by omega⟩
    have first := readValue_write blank item depth fuel _ plain.1 (by omega)
      (endsValue_writeItems layout depth items gaps rest)
    have others := readItems_writeItems blank items depth (fuel + 1) rest plain.2 (by omega)
      gaps
    simp only [List.map_cons, List.map_append, List.cons_append, List.append_assoc]
    rw [readItems, skipGaps_of_visible rfl]
    simp [readValue_of_gaps (blank.lineBreak depth), first, others]
termination_by items => sizeOf items

/-- The written entries of a table are read back up to its closing brace. -/
theorem readEntries_writeEntries (blank : layout.IsBlank) :
    ∀ (entries : List (String × Document)) (name : String) (value : Document)
    (depth fuel : Nat) (rest : List Symbol) {chars : List Char}, isPlain value = true →
    areEntriesPlain entries = true →
    (writeText name).length + layout.colon.length + (write layout depth value).length +
      (writeEntries layout depth entries).length ≤ fuel → AreGaps chars →
    readEntries fuel ((writeText name).map .char ++ (layout.colon.map .char ++
      ((write layout depth value).map .char ++ ((writeEntries layout depth entries).map .char ++
        (chars.map .char ++ .char '\x7d' :: rest))))) =
      some (((name, value) :: entries).map fun entry => (some entry.1.toList, entry.2), rest)
  | [], name, value, depth, fuel, rest, chars, plain, _, enough, gaps => by
    have long := length_writeText name
    obtain ⟨fuel, rfl⟩ : ∃ less, fuel = less + 2 := ⟨fuel - 2, by omega⟩
    have closing : EndsValue (chars.map .char ++ .char '\x7d' :: rest) :=
      .of_gaps gaps (endsValue_of_sign (by simp))
    exact readEntries_last blank gaps
      (readValue_write blank value depth fuel _ plain (by omega) closing)
  | (next, other) :: entries, name, value, depth, fuel, rest, chars, plain, others, enough,
      gaps => by
    have long := length_writeText name
    rw [areEntriesPlain, Bool.and_eq_true] at others
    rw [writeEntries] at enough ⊢
    simp only [List.length_cons, List.length_append] at enough
    obtain ⟨fuel, rfl⟩ : ∃ less, fuel = less + 2 := ⟨fuel - 2, by omega⟩
    have later := readEntries_writeEntries blank entries next other depth (fuel + 1) rest
      others.1 others.2 (by omega) gaps
    simp only [List.map_cons, List.map_append, List.cons_append, List.append_assoc] at later ⊢
    rw [readEntries_next blank (readValue_write blank value depth fuel _ plain (by omega)
      (endsValue_of_sign (by simp))), readEntries_of_gaps (blank.lineBreak depth), later]
    rfl
termination_by entries _ value => sizeOf entries + sizeOf value + 1

end

/-- A document without foreign data is read back from its text in any blank layout. -/
theorem ofText_write (blank : layout.IsBlank) {document : Document}
    (plain : isPlain document = true) :
    ofText (String.ofList (write layout 0 document)) = some document := by
  have enough : (write layout 0 document).length ≤
      ((write layout 0 document).map Symbol.char).length + 1 := by simp
  have back := readValue_write blank document 0 _ [] plain enough nofun
  rw [List.append_nil] at back
  rw [ofText, symbolsOf, String.toList_ofList, read, back]
  rfl

/-- A document without foreign data is read back from its indented text. -/
theorem ofText_prettyText {document : Document} (plain : isPlain document = true) :
    ofText (prettyText document) = some document :=
  ofText_write isBlank_pretty plain

/-- A document without foreign data is read back from its text on one line. -/
theorem ofText_compactText {document : Document} (plain : isPlain document = true) :
    ofText (compactText document) = some document :=
  ofText_write isBlank_compact plain

end Roundtrip

end Standby.Json
