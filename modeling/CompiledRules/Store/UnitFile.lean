import CompiledRules.Bytes.Blake3
import CompiledRules.Bytes.Utf8

/-!
# Unit files

A unit on disk is a header of 32 bytes and a payload. The header holds a mark, two versions, unused flags, the
length of the payload and half of its digest; the payload holds the identifier and the unit text.
-/

namespace CompiledRules.UnitFile

/-- Why a payload cannot be read. -/
inductive PayloadError where
  /-- So many bytes are missing. -/
  | ended (missing : Nat)
  | invalidText (fault : Utf8.Fault)
  /-- The marker of a length is none of those in use. -/
  | invalidMarker (expected found : String)
deriving DecidableEq

/-- The error in words. -/
def PayloadError.message : PayloadError → String
  | .ended missing => "UnexpectedEnd \x7b additional: " ++ toString missing ++ " \x7d"
  | .invalidText fault =>
      let faultLength :=
        match fault.faultLength with
        | none => "None"
        | some n => "Some(" ++ toString n ++ ")"
      "Utf8 \x7b inner: Utf8Error \x7b valid_up_to: " ++ toString fault.validUpTo ++ ", error_len: " ++ faultLength ++
        " \x7d \x7d"
  | .invalidMarker expected found =>
      "InvalidIntegerType \x7b expected: " ++ expected ++ ", found: " ++ found ++ " \x7d"

/-- Why a file is not used. -/
inductive Corruption where
  | mark
  | version (format layout : Nat)
  | length (expected actual : Nat)
  | checksum
  | payload (error : PayloadError)
  | owner (identifier : String)
deriving DecidableEq

/-- The reason in words. -/
def Corruption.message : Corruption → String
  | .mark => "invalid magic bytes"
  | .version format layout => "version mismatch: file is v" ++ toString format ++ "/" ++ toString layout
  | .length expected actual =>
      "payload length mismatch: expected " ++ toString expected ++ " bytes, got " ++ toString actual
  | .checksum => "BLAKE3 checksum mismatch"
  | .payload error => "failed to decode payload: " ++ error.message
  | .owner identifier => "payload belongs to '" ++ identifier ++ "'"

/-- The bytes every file begins with. -/
def mark : Bytes := [0x52, 0x4B, 0x55, 0x4E]

/-- The version of the file format. -/
def formatVersion : Nat := 1

/-- The version of the unit text. -/
def layoutVersion : Nat := 1

/-- The number of bytes in front of the payload. -/
def headerSize : Nat := 32

/-- A length: one byte up to 250, else a marker and two, four or eight bytes. -/
def encodeLength (n : Nat) : Bytes :=
  if n < 251 then [n.toUInt8]
  else if n < 0x10000 then 251 :: Bytes.littleEndian 2 n
  else if n < 0x100000000 then 252 :: Bytes.littleEndian 4 n
  else 253 :: Bytes.littleEndian 8 n

/-- A text after the length of its encoding. -/
def encodeString (text : String) : Bytes :=
  let bytes := Bytes.ofText text.toList
  encodeLength bytes.length ++ bytes

/-- The identifier and the unit text. -/
def encodePayload (identifier source : String) : Bytes := encodeString identifier ++ encodeString source

/-- The part of the payload's digest that the header holds. -/
def checksum (payload : Bytes) : Bytes := (Blake3.digest payload).take 16

/-- The header in front of a payload. -/
def encodeHeader (payload : Bytes) : Bytes :=
  mark ++ Bytes.littleEndian 2 formatVersion ++ Bytes.littleEndian 2 layoutVersion ++ Bytes.littleEndian 4 0 ++
    Bytes.littleEndian 4 payload.length ++ checksum payload

/-- The file of a unit. -/
def encode (identifier source : String) : Bytes :=
  let payload := encodePayload identifier source
  encodeHeader payload ++ payload

/-- Takes exactly so many bytes from the front. -/
def takeBytes (count : Nat) (bytes : Bytes) : Except PayloadError (Bytes × Bytes) :=
  if count ≤ bytes.length then .ok (bytes.take count, bytes.drop count) else .error (.ended (count - bytes.length))

/-- Takes a number of so many bytes from the front. -/
def takeNumber (count : Nat) (bytes : Bytes) : Except PayloadError (Nat × Bytes) := do
  let (number, rest) ← takeBytes count bytes
  return (Bytes.ofLittleEndian number, rest)

/-- Takes a length from the front; any of its forms will do. -/
def takeLength : Bytes → Except PayloadError (Nat × Bytes)
  | [] => .error (.ended 1)
  | marker :: rest =>
      if marker < 251 then .ok (marker.toNat, rest)
      else if marker = 251 then takeNumber 2 rest
      else if marker = 252 then takeNumber 4 rest
      else if marker = 253 then takeNumber 8 rest
      else
        .error (.invalidMarker (if 8 ≤ rest.length then "U32" else "U64")
          (if marker = 254 then "U128" else "Reserved"))

/-- Takes a text from the front. -/
def takeString (bytes : Bytes) : Except PayloadError (String × Bytes) := do
  let (length, rest) ← takeLength bytes
  let (encoded, rest) ← takeBytes length rest
  match Utf8.decode encoded with
  | .ok text => return (String.ofList text, rest)
  | .error fault => .error (.invalidText fault)

/-- The identifier and the unit text of a payload. Bytes behind them do not matter. -/
def decodePayload (payload : Bytes) : Except PayloadError (String × String) := do
  let (identifier, rest) ← takeString payload
  let (source, _) ← takeString rest
  return (identifier, source)

/-- The part of a header from the given place on. -/
def slice (bytes : Bytes) (start count : Nat) : Bytes := (bytes.drop start).take count

/-- The length and the checksum that a header gives for its payload. -/
def decodeHeader (bytes : Bytes) : Except Corruption (Nat × Bytes) :=
  if bytes.length < headerSize then .error (.length headerSize bytes.length)
  else if slice bytes 0 4 ≠ mark then .error .mark
  else
    let format := Bytes.ofLittleEndian (slice bytes 4 2)
    let layout := Bytes.ofLittleEndian (slice bytes 6 2)
    if format ≠ formatVersion ∨ layout ≠ layoutVersion then .error (.version format layout)
    else .ok (Bytes.ofLittleEndian (slice bytes 12 4), slice bytes 16 16)

/-- The unit text that a file holds for an identifier. -/
def decode (bytes : Bytes) (identifier : String) : Except Corruption String := do
  let (length, stored) ← decodeHeader bytes
  let payload := bytes.drop headerSize
  if payload.length ≠ length then .error (.length length payload.length)
  else if checksum payload ≠ stored then .error .checksum
  else
    match decodePayload payload with
    | .error error => .error (.payload error)
    | .ok (owner, source) => if owner ≠ identifier then .error (.owner owner) else .ok source

end CompiledRules.UnitFile
