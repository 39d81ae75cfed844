/-!
# Blank text

The blank characters are the Unicode property `White_Space`. Identifiers and settings are
trimmed of them at both ends, and a text of blanks alone stands for no text.
-/
namespace Standby.Text

/-- First and last code points of the runs of blank characters. -/
def blankRanges : List (Nat × Nat) :=
  [(0x9, 0xD), (0x20, 0x20), (0x85, 0x85), (0xA0, 0xA0), (0x1680, 0x1680), (0x2000, 0x200A),
    (0x2028, 0x2029), (0x202F, 0x202F), (0x205F, 0x205F), (0x3000, 0x3000)]

/-- A number lies in one of the listed closed ranges. -/
def inRanges (ranges : List (Nat × Nat)) (number : Nat) : Bool :=
  ranges.any fun (first, last) => first ≤ number && number ≤ last

/-- A blank character. -/
def isBlankChar (c : Char) : Bool := inRanges blankRanges c.toNat

/-- A text without any character that is not blank. -/
def isBlank (text : String) : Bool := text.toList.all isBlankChar

/-- The characters from the first that is not blank to the last that is not blank. -/
def trimChars (chars : List Char) : List Char :=
  ((chars.dropWhile isBlankChar).reverse.dropWhile isBlankChar).reverse

/-- A text without the blanks at its ends. -/
def trim (text : String) : String := String.ofList (trimChars text.toList)

/-- Dropping a leading run leaves nothing exactly when every element is in the run. -/
theorem dropWhile_eq_nil_iff_all {α : Type} (test : α → Bool) (items : List α) :
    items.dropWhile test = [] ↔ items.all test = true := by
  induction items with
  | nil => simp
  | cons head rest ih =>
    by_cases passes : test head <;> simp [passes, ih]

/-- Trimming leaves nothing exactly of blank characters. -/
theorem trimChars_eq_nil_iff (chars : List Char) :
    trimChars chars = [] ↔ chars.all isBlankChar = true := by
  unfold trimChars
  rw [List.reverse_eq_nil_iff, dropWhile_eq_nil_iff_all, List.all_reverse]
  constructor
  · intro blank
    rw [← List.takeWhile_append_dropWhile (p := isBlankChar) (l := chars), List.all_append, blank,
      Bool.and_true]
    exact List.all_takeWhile
  · intro blank
    rw [(dropWhile_eq_nil_iff_all _ _).2 blank]
    rfl

/-- Every ASCII blank is a blank character. -/
theorem isBlankChar_of_isWhitespace {c : Char} (ascii : c.isWhitespace = true) :
    isBlankChar c = true := by
  simp only [Char.isWhitespace, Bool.or_eq_true, decide_eq_true_eq] at ascii
  rcases ascii with ((rfl | rfl) | rfl) | rfl <;> decide

end Standby.Text
