import Mathlib.Data.List.Basic
import Mathlib.Algebra.GroupWithZero.Nat
import Mathlib.Algebra.Order.Group.Nat
import Standby.Identity.Record
import Standby.Proofs.Document.Fields

/-!
# Stored identifiers are read back

The written form of a UUID names this UUID (`Uuid.parse?_text`), so the identity of a stripe is read
back from where it is stored, as are groups, channels, connections and entities.
-/
namespace Standby

open Standby.Document Standby.Text

namespace Uuid

/-- Digits of numbers below sixteen write the number of which these are the digits. -/
theorem foldlM_hexDigit {nibbles : List Nat} (small : ∀ nibble ∈ nibbles, nibble < 16)
    (start : Nat) :
    (nibbles.map hexDigit).foldlM
        (fun value digit => (hexValue? digit).map (value * 16 + ·)) start =
      some (nibbles.foldl (fun value nibble => value * 16 + nibble) start) := by
  induction nibbles generalizing start with
  | nil => rfl
  | cons nibble nibbles ih =>
    have first := hexValue?_hexDigit nibble (small nibble List.mem_cons_self)
    have others := ih (fun other member => small other (List.mem_cons_of_mem _ member))
      (start * 16 + nibble)
    rw [List.map_cons, List.foldlM_cons, first]
    exact others

/-- The digits of an identifier as numbers. -/
def nibble (id : Uuid) (index : Nat) : Nat := (id.value.extractLsb' (4 * (31 - index)) 4).toNat

/-- A hexadecimal digit of an identifier is one of its number. -/
theorem nibble_eq (id : Uuid) (index : Nat) :
    id.nibble index = id.value.toNat / 16 ^ (31 - index) % 16 := by
  rw [nibble, BitVec.extractLsb'_toNat, Nat.shiftRight_eq_div_pow, Nat.pow_mul]

/-- The first digits of an identifier write its first bits. -/
theorem foldl_nibble (id : Uuid) (count : Nat) (inside : count ≤ 32) :
    ((List.range count).map id.nibble).foldl (fun value nibble => value * 16 + nibble) 0 =
      id.value.toNat / 16 ^ (32 - count) := by
  induction count with
  | zero => exact (Nat.div_eq_of_lt id.value.isLt).symm
  | succ count ih =>
    have place : 32 - count = 31 - count + 1 := by omega
    have next : 32 - (count + 1) = 31 - count := by omega
    rw [List.range_succ, List.map_append, List.foldl_append, ih (by omega), place, next,
      Nat.pow_succ, ← Nat.div_div_eq_div_mul]
    simp only [List.map_cons, List.map_nil, List.foldl_cons, List.foldl_nil, nibble_eq]
    omega

/-- The digits of an identifier name this identifier. -/
theorem ofDigits?_digits (id : Uuid) : ofDigits? id.digits = some id := by
  have shape : id.digits = ((List.range 32).map id.nibble).map hexDigit := by
    rw [List.map_map]
    rfl
  have small : ∀ nibble ∈ (List.range 32).map id.nibble, nibble < 16 := by
    intro nibble member
    obtain ⟨index, -, rfl⟩ := List.mem_map.mp member
    exact (id.value.extractLsb' (4 * (31 - index)) 4).isLt
  have value : digitsValue? id.digits = some id.value.toNat := by
    have whole := foldl_nibble id 32 (Nat.le_refl 32)
    rw [Nat.sub_self, Nat.pow_zero, Nat.div_one] at whole
    rw [digitsValue?, shape, foldlM_hexDigit small, whole]
  have long : id.digits.length = 32 := by
    rw [shape, List.length_map, List.length_map, List.length_range]
  rw [ofDigits?, if_pos long, value, Option.map_some, BitVec.ofNat_toNat, BitVec.setWidth_eq]

/-- Characters cut into groups of their number are joined again. -/
theorem unhyphenate?_hyphenate {sizes : List Nat} {chars : List Char} (groups : sizes ≠ [])
    (long : chars.length = sizes.sum) :
    unhyphenate? sizes (hyphenate sizes chars) = some chars := by
  induction sizes generalizing chars with
  | nil => exact absurd rfl groups
  | cons size sizes ih =>
    match sizes with
    | [] =>
      rw [List.sum_singleton] at long
      rw [hyphenate, unhyphenate?, if_pos long]
    | next :: sizes =>
      rw [List.sum_cons] at long
      have first : (chars.take size).length = size := by
        rw [List.length_take]
        omega
      have others : (chars.drop size).length = (next :: sizes).sum := by
        rw [List.length_drop]
        omega
      have joined := ih (List.cons_ne_nil _ _) others
      have cut :
          (chars.take size ++ '-' :: hyphenate (next :: sizes) (chars.drop size)).drop size =
            '-' :: hyphenate (next :: sizes) (chars.drop size) := List.drop_left' first
      have kept :
          (chars.take size ++ '-' :: hyphenate (next :: sizes) (chars.drop size)).take size =
            chars.take size := List.take_left' first
      rw [hyphenate, unhyphenate?, cut]
      · simp [joined, kept]
      · simp
      · simp

/-- Hyphens stand between the groups of characters alone. -/
theorem length_hyphenate (sizes : List Nat) (chars : List Char) :
    (hyphenate sizes chars).length = chars.length + (sizes.length - 1) := by
  fun_induction hyphenate sizes chars with
  | case1 | case2 => simp
  | case3 size sizes chars several ih =>
    have positive : 0 < sizes.length := List.length_pos_of_ne_nil several
    rw [List.length_append, List.length_cons, ih, List.length_take, List.length_drop,
      List.length_cons]
    omega

/-- The written form of an identifier names this identifier. -/
theorem parse?_text (id : Uuid) : parse? id.text = some id := by
  have digits : id.digits.length = 32 := by
    rw [Uuid.digits, List.length_map, List.length_range]
  have long : (hyphenate groups id.digits).length = 36 := by
    rw [length_hyphenate, digits]
    rfl
  have joined : unhyphenate? groups (hyphenate groups id.digits) = some id.digits :=
    unhyphenate?_hyphenate (List.cons_ne_nil _ _) digits
  rw [parse?, text, String.toList_ofList]
  simp [long, ofHyphenated?, joined, ofDigits?_digits]

end Uuid

/-- A stored stripe is read back. -/
theorem StripeId.ofDocument_toDocument (id : StripeId) : ofDocument id.toDocument = some id := by
  rw [ofDocument, toDocument, string, Option.bind_some, name, Uuid.parse?_text]
  rfl

/-- A stored group is read back. -/
theorem GroupId.ofDocument_toDocument (group : GroupId) :
    ofDocument group.toDocument = some group := by
  rw [ofDocument, toDocument, int32_toInt]
  rfl

/-- A stored server is read back. -/
theorem ServerId.ofDocument_toDocument (server : ServerId) :
    ofDocument server.toDocument = some server := by
  rw [ofDocument, toDocument, string, Option.bind_some, parse_name]
  rfl

/-- A stored channel is read back. -/
theorem ChannelId.ofDocument_toDocument (channel : ChannelId) :
    ofDocument channel.toDocument = some channel := by
  rw [ofDocument, toDocument, uint64_ofUInt64]
  rfl

/-- A stored connection is read back. -/
theorem ConnectionId.ofDocument_toDocument (connection : ConnectionId) :
    ofDocument connection.toDocument = some connection := by
  have parts : fields .whole ["jvm_id", "channel"] connection.toDocument =
      some [some (.text connection.machine), some connection.channel.toDocument] :=
    fields_table .whole (by simp)
  rw [ofDocument, parts]
  simp [required, string, ChannelId.ofDocument_toDocument]

/-- A stored entity is read back. -/
theorem EntityId.ofDocument_toDocument (id : EntityId) : ofDocument id.toDocument = some id := by
  have parts : fields .whole ["class_name", "name"] id.toDocument =
      some [some (.text id.className), some (.text id.name)] :=
    fields_table .whole (by simp)
  rw [ofDocument, parts]
  rfl

/-- A stored address is read back. -/
theorem EntityDescriptor.ofDocument_toDocument (descriptor : EntityDescriptor) :
    ofDocument descriptor.toDocument = some descriptor := by
  have parts : fields .whole ["id", "client_instance", "version"] descriptor.toDocument =
      some [some descriptor.id.toDocument, some descriptor.clientInstance.toDocument,
        some (ofUInt64 descriptor.version)] :=
    fields_table .whole (by simp)
  have view : ClientInstanceId.ofDocument descriptor.clientInstance.toDocument =
      some descriptor.clientInstance := by
    rw [ClientInstanceId.ofDocument, ClientInstanceId.toDocument, uint64_ofUInt64]
    rfl
  rw [ofDocument, parts]
  simp [required, EntityId.ofDocument_toDocument, view, uint64_ofUInt64]

end Standby
