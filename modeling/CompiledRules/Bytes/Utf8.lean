import CompiledRules.Bytes.Basic

/-!
# Reading UTF-8

A byte string that is no UTF-8 is reported by the first place where it goes wrong: how many bytes before it are
in order, and how many bytes the faulty beginning of a character takes, unless the bytes end inside it.
-/

namespace CompiledRules.Utf8

/-- Where a byte string stops being UTF-8. -/
structure Fault where
  validUpTo : Nat
  /-- None if the bytes end inside a character. -/
  faultLength : Option Nat
deriving DecidableEq

def isContinuation (byte : UInt8) : Bool := 0x80 ≤ byte && byte ≤ 0xBF

/-- Whether the second byte may follow the first of a character of three or four bytes. Overlong forms, surrogates and
numbers beyond the last character are excluded here. -/
def mayFollow (first second : UInt8) : Bool :=
  if first = 0xE0 then 0xA0 ≤ second && second ≤ 0xBF
  else if first = 0xED then 0x80 ≤ second && second ≤ 0x9F
  else if first = 0xF0 then 0x90 ≤ second && second ≤ 0xBF
  else if first = 0xF4 then 0x80 ≤ second && second ≤ 0x8F
  else isContinuation second

/-- The character with the given leading bits and continuation bytes. -/
def charOf (leading : Nat) (continuation : List UInt8) : Char :=
  Char.ofNat (continuation.foldl (fun n byte => 64 * n + byte.toNat % 64) leading)

/-- Reads bytes that stand behind `offset` others. -/
def decodeFrom (offset : Nat) : Bytes → Except Fault Text
  | [] => .ok []
  | b0 :: rest =>
      if b0 < 0x80 then do return charOf b0.toNat [] :: (← decodeFrom (offset + 1) rest)
      else if 0xC2 ≤ b0 && b0 ≤ 0xDF then
        match rest with
        | [] => .error ⟨offset, none⟩
        | b1 :: rest =>
            if isContinuation b1 then do
              return charOf (b0.toNat % 32) [b1] :: (← decodeFrom (offset + 2) rest)
            else .error ⟨offset, some 1⟩
      else if 0xE0 ≤ b0 && b0 ≤ 0xEF then
        match rest with
        | [] => .error ⟨offset, none⟩
        | b1 :: rest =>
            if !mayFollow b0 b1 then .error ⟨offset, some 1⟩
            else
              match rest with
              | [] => .error ⟨offset, none⟩
              | b2 :: rest =>
                  if isContinuation b2 then do
                    return charOf (b0.toNat % 16) [b1, b2] :: (← decodeFrom (offset + 3) rest)
                  else .error ⟨offset, some 2⟩
      else if 0xF0 ≤ b0 && b0 ≤ 0xF4 then
        match rest with
        | [] => .error ⟨offset, none⟩
        | b1 :: rest =>
            if !mayFollow b0 b1 then .error ⟨offset, some 1⟩
            else
              match rest with
              | [] => .error ⟨offset, none⟩
              | b2 :: rest =>
                  if !isContinuation b2 then .error ⟨offset, some 2⟩
                  else
                    match rest with
                    | [] => .error ⟨offset, none⟩
                    | b3 :: rest =>
                        if isContinuation b3 then do
                          return charOf (b0.toNat % 8) [b1, b2, b3] :: (← decodeFrom (offset + 4) rest)
                        else .error ⟨offset, some 3⟩
      else .error ⟨offset, some 1⟩

/-- The text that a byte string encodes. -/
def decode (bytes : Bytes) : Except Fault Text := decodeFrom 0 bytes

end CompiledRules.Utf8
