import Standby.Text.Hex

/-!
# Universally unique identifiers

A UUID is a word of 128 bits. It is written as 32 lower-case hexadecimal digits in groups of
8, 4, 4, 4 and 12, and read in four forms: the digits alone, the hyphenated form, the hyphenated
form in braces, and the hyphenated form after `urn:uuid:`; letters may have either case.
-/
namespace Standby

/-- An identifier of 128 bits. -/
structure Uuid where
  /-- The bits, the first byte the most significant. -/
  value : BitVec 128
  deriving DecidableEq

namespace Uuid

open Standby.Text

instance : Inhabited Uuid := ⟨⟨0⟩⟩

/-- Identifiers are ordered by their bytes, the first byte first. -/
instance : Ord Uuid := ⟨compareOn (·.value.toNat)⟩

instance : Std.TransOrd Uuid := inferInstanceAs (Std.TransCmp (compareOn _))

instance : Std.LawfulEqOrd Uuid where
  compare_self := Std.ReflOrd.compare_self (α := Nat)
  eq_of_compare {left right} same := by
    have equal : left.value.toNat = right.value.toNat := Std.LawfulEqOrd.eq_of_compare same
    cases left; cases right
    simpa [BitVec.toNat_inj] using equal

/-- The sixteen bytes, the most significant first. -/
def bytes (id : Uuid) : List UInt8 :=
  (List.range 16).map fun index => UInt8.ofBitVec (id.value.extractLsb' (8 * (15 - index)) 8)

/-- The hexadecimal digits. -/
def digits (id : Uuid) : List Char :=
  (List.range 32).map fun index => hexDigit (id.value.extractLsb' (4 * (31 - index)) 4).toNat

/-- The lengths of the hyphenated groups. -/
def groups : List Nat := [8, 4, 4, 4, 12]

/-- Characters cut into groups with a hyphen between two groups. -/
def hyphenate : List Nat → List Char → List Char
  | [], rest => rest
  | [_], rest => rest
  | size :: sizes, rest => rest.take size ++ '-' :: hyphenate sizes (rest.drop size)

/-- The written form: hyphenated lower-case digits. -/
def text (id : Uuid) : String := String.ofList (hyphenate groups id.digits)

/-- The number that hexadecimal digits write, if all are digits. -/
def digitsValue? (digits : List Char) : Option Nat :=
  digits.foldlM (fun value digit => (hexValue? digit).map (value * 16 + ·)) 0

/-- An identifier from exactly 32 digits. -/
def ofDigits? (digits : List Char) : Option Uuid :=
  if digits.length = 32 then (digitsValue? digits).map fun value => ⟨BitVec.ofNat 128 value⟩
  else none

/-- The characters of hyphenated groups of the given lengths, without the hyphens. -/
def unhyphenate? : List Nat → List Char → Option (List Char)
  | [], rest => if rest.isEmpty then some [] else none
  | [size], rest => if rest.length = size then some rest else none
  | size :: sizes, rest =>
    match rest.drop size with
    | '-' :: later => (unhyphenate? sizes later).map (rest.take size ++ ·)
    | _ => none

/-- An identifier from its hyphenated form. -/
def ofHyphenated? (chars : List Char) : Option Uuid :=
  (unhyphenate? groups chars).bind ofDigits?

/-- The name space before a UUID in a uniform resource name. -/
def urnLead : List Char := ['u', 'r', 'n', ':', 'u', 'u', 'i', 'd', ':']

/-- An identifier from any of its four forms. -/
def parse? (text : String) : Option Uuid :=
  let chars := text.toList
  if chars.length = 32 then ofDigits? chars
  else if chars.length = 36 then ofHyphenated? chars
  else if chars.length = 38 then
    if chars.head? = some '\x7b' ∧ chars.getLast? = some '\x7d' then
      ofHyphenated? (chars.drop 1).dropLast
    else none
  else if chars.length = 45 then
    if (chars.take 9).map Char.toLower = urnLead then ofHyphenated? (chars.drop 9) else none
  else none

/-- The number of the scheme by which an identifier was made. -/
def version (id : Uuid) : Nat := (id.value.extractLsb' 76 4).toNat

/-- A randomly made identifier: 122 bits of noise under scheme 4 of the standard variant. -/
def ofNoise (noise : BitVec 128) : Uuid :=
  ⟨(noise &&& 0xFFFFFFFFFFFF0FFF3FFFFFFFFFFFFFFF#128) ||| 0x00000000000040008000000000000000#128⟩

/-- An identifier made from noise has scheme 4. -/
theorem version_ofNoise (noise : BitVec 128) : (ofNoise noise).version = 4 := by
  have bits : ((ofNoise noise).value.extractLsb' 76 4) = 4#4 := by
    unfold ofNoise
    ext index inside
    have cases : index = 0 ∨ index = 1 ∨ index = 2 ∨ index = 3 := by omega
    rcases cases with rfl | rfl | rfl | rfl <;> simp
  rw [version, bits]
  rfl

end Uuid
end Standby
