import CompiledRules.Text.Basic

/-!
# Byte strings
-/

namespace CompiledRules

/-- A byte string. -/
abbrev Bytes := List UInt8

namespace Bytes

/-- The lowest `count` bytes of a number, the lowest first. -/
def littleEndian : Nat → Nat → Bytes
  | 0, _ => []
  | count + 1, n => n.toUInt8 :: littleEndian count (n / 256)

/-- The number whose bytes, the lowest first, are given. -/
def ofLittleEndian : Bytes → Nat
  | [] => 0
  | byte :: rest => byte.toNat + 256 * ofLittleEndian rest

/-- The UTF-8 encoding of a text. -/
def ofText (text : Text) : Bytes := text.flatMap String.utf8EncodeChar

/-- Two hexadecimal digits per byte. -/
def toHex (bytes : Bytes) : Text :=
  bytes.flatMap fun byte => [Nat.digitChar (byte.toNat / 16), Nat.digitChar (byte.toNat % 16)]

/-- The bytes cut into pieces of the given size, the last of which may be shorter. -/
def pieces (size : Nat) (bytes : Bytes) : List Bytes :=
  (List.range ((bytes.length + size - 1) / size)).map fun i => (bytes.drop (i * size)).take size

end Bytes

end CompiledRules
