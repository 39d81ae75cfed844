/-!
# Hexadecimal text

Digits of base sixteen, read in either case and written in lower case.
-/
namespace Standby.Text

/-- The value of a hexadecimal digit of either case. -/
def hexValue? (c : Char) : Option Nat :=
  if '0' ≤ c && c ≤ '9' then some (c.toNat - 48)
  else if 'a' ≤ c && c ≤ 'f' then some (c.toNat - 87)
  else if 'A' ≤ c && c ≤ 'F' then some (c.toNat - 55)
  else none

/-- The lower-case digit of a number below sixteen. -/
def hexDigit (value : Nat) : Char :=
  if value < 10 then Char.ofNat (48 + value) else Char.ofNat (87 + value)

/-- The two digits of a byte, the high one first. -/
def hexByte (byte : UInt8) : List Char :=
  [hexDigit (byte.toNat / 16), hexDigit (byte.toNat % 16)]

/-- Bytes as pairs of digits. -/
def hexBytes (bytes : List UInt8) : String := String.ofList (bytes.flatMap hexByte)

/-- A number in hexadecimal without leading zeros. -/
def hexNat (value : Nat) : List Char := Nat.toDigits 16 value

/-- The bytes written by pairs of digits; an odd digit or another character refuses the text. -/
def unhexBytes? : List Char → Option (List UInt8)
  | [] => some []
  | high :: low :: rest => do
    let high ← hexValue? high
    let low ← hexValue? low
    let bytes ← unhexBytes? rest
    some (UInt8.ofNat (high * 16 + low) :: bytes)
  | [_] => none

/-- The written digit of a value below sixteen reads back as the value. -/
theorem hexValue?_hexDigit : ∀ value < 16, hexValue? (hexDigit value) = some value := by decide

/-- Written bytes read back. -/
theorem unhexBytes?_flatMap_hexByte (bytes : List UInt8) :
    unhexBytes? (bytes.flatMap hexByte) = some bytes := by
  induction bytes with
  | nil => rfl
  | cons byte rest ih =>
    have below : byte.toNat < 256 := byte.toNat_lt
    simp only [List.flatMap_cons, hexByte, List.cons_append, List.nil_append, unhexBytes?,
      hexValue?_hexDigit (byte.toNat / 16) (by omega),
      hexValue?_hexDigit (byte.toNat % 16) (by omega), ih, Option.bind_eq_bind,
      Option.bind_some, Nat.div_add_mod', UInt8.ofNat_toNat]

end Standby.Text
