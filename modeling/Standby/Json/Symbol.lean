/-!
# Symbols of a text file

A file holds bytes that need not be UTF-8. Its symbols are the characters that its bytes encode
and, one by one, the bytes that encode none.
-/
namespace Standby.Json

/-- A character of a file, or a byte that belongs to none. -/
inductive Symbol where
  /-- A character. -/
  | char (c : Char)
  /-- A byte outside every character. -/
  | stray (byte : UInt8)
  deriving DecidableEq, Repr

/-- The character that the first `size` bytes encode, if they encode exactly one. -/
def charOf? (bytes : List UInt8) (size : Nat) : Option (Char × Nat) :=
  match (String.fromUTF8? ⟨(bytes.take size).toArray⟩).map String.toList with
  | some [c] => some (c, size)
  | _ => none

/-- The first character of some bytes and the number of bytes that encode it. -/
def firstChar? (bytes : List UInt8) : Option (Char × Nat) :=
  [1, 2, 3, 4].findSome? (charOf? bytes)

/-- The symbols of bytes of which the first `skip` belong to the symbol before them. -/
def scatter : Nat → List UInt8 → List Symbol
  | _, [] => []
  | skip + 1, _ :: rest => scatter skip rest
  | 0, byte :: rest =>
    match firstChar? (byte :: rest) with
    | some (c, size) => .char c :: scatter (size - 1) rest
    | none => .stray byte :: scatter 0 rest

/-- The symbols of a text: its characters. -/
def symbolsOf (text : String) : List Symbol := text.toList.map .char

/-- The symbols of the bytes of a file. -/
def symbols (bytes : ByteArray) : List Symbol :=
  match String.fromUTF8? bytes with
  | some text => symbolsOf text
  | none => scatter 0 bytes.toList

/-- The symbols of a text's bytes are its characters. -/
theorem symbols_toUTF8 (text : String) : symbols text.toUTF8 = symbolsOf text := by
  have back : String.fromUTF8? text.toUTF8 = some text := dif_pos text.isValidUTF8
  simp only [symbols, back]

end Standby.Json
