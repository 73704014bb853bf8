import CompiledRules.Proofs.Bytes.Utf8
import CompiledRules.Proofs.Except
import CompiledRules.Proofs.Identifier
import CompiledRules.Store.UnitFile

/-!
# Unit files that are read back

The unit text is read back from its file, if the header can hold the length of the payload.
-/

namespace CompiledRules.UnitFile

variable {bytes rest : Bytes}

/-! ## Lengths and texts -/

theorem takeBytes_append (bytes rest : Bytes) : takeBytes bytes.length (bytes ++ rest) = .ok (bytes, rest) := by
  simp [takeBytes]

theorem takeNumber_littleEndian (count : Nat) {n : Nat} (h : n < 256 ^ count) :
    takeNumber count (Bytes.littleEndian count n ++ rest) = .ok (n, rest) := by
  have htake := takeBytes_append (Bytes.littleEndian count n) rest
  rw [Bytes.length_littleEndian] at htake
  rw [takeNumber, htake]
  exact congrArg (fun m => Except.ok (m, rest)) (Bytes.ofLittleEndian_littleEndian h)

theorem takeLength_encodeLength {n : Nat} (h : n < 0x100000000) :
    takeLength (encodeLength n ++ rest) = .ok (n, rest) := by
  unfold encodeLength
  split
  · have hbyte : n.toUInt8.toNat = n := Utf8.toNat_ofNat (by omega)
    have hlt : n.toUInt8 < 251 := by
      rw [UInt8.lt_iff_toNat_lt, hbyte]
      assumption
    rw [List.singleton_append, takeLength, if_pos hlt, hbyte]
  · split
    · exact takeNumber_littleEndian 2 (by omega)
    · exact takeNumber_littleEndian 4 (by omega)

theorem takeString_encodeString {text : String} (h : (Bytes.ofText text.toList).length < 0x100000000) :
    takeString (encodeString text ++ rest) = .ok (text, rest) := by
  rw [takeString, encodeString, List.append_assoc, takeLength_encodeLength h]
  simp only [bind, Except.bind, takeBytes_append, Utf8.decode_ofText, String.ofList_toList]
  rfl

theorem decodePayload_encodePayload {identifier source : String}
    (h : (encodePayload identifier source).length < 0x100000000) :
    decodePayload (encodePayload identifier source) = .ok (identifier, source) := by
  have hlength : (Bytes.ofText identifier.toList).length < 0x100000000 ∧
      (Bytes.ofText source.toList).length < 0x100000000 := by
    simp only [encodePayload, encodeString, List.length_append] at h
    omega
  have hsource : takeString (encodeString source ++ []) = .ok (source, []) := takeString_encodeString hlength.2
  rw [List.append_nil] at hsource
  rw [decodePayload, encodePayload, takeString_encodeString hlength.1]
  simp only [bind, Except.bind, hsource]
  rfl

/-! ## Headers -/

theorem length_checksum (payload : Bytes) : (checksum payload).length = 16 := by
  rw [checksum, List.length_take, Blake3.length_digest]
  rfl

theorem slice_append {front part : Bytes} {start count : Nat} (hfront : front.length = start)
    (hpart : part.length = count) (rest : Bytes) : slice (front ++ (part ++ rest)) start count = part := by
  subst hfront
  subst hpart
  simp [slice]

theorem length_encodeHeader (payload : Bytes) : (encodeHeader payload).length = headerSize := by
  simp [encodeHeader, Bytes.length_littleEndian, length_checksum, mark, headerSize]

/-- The header as its fields one after another. -/
theorem encodeHeader_append (payload rest : Bytes) : encodeHeader payload ++ rest =
    mark ++ (Bytes.littleEndian 2 formatVersion ++ (Bytes.littleEndian 2 layoutVersion ++ (Bytes.littleEndian 4 0 ++
      (Bytes.littleEndian 4 payload.length ++ (checksum payload ++ rest))))) := by
  simp only [encodeHeader, List.append_assoc]

/-- The bytes begin with the header of the payload, whatever its flags. -/
structure HeaderOf (payload bytes : Bytes) : Prop where
  size : headerSize ≤ bytes.length
  mark : slice bytes 0 4 = mark
  format : slice bytes 4 2 = Bytes.littleEndian 2 formatVersion
  layout : slice bytes 6 2 = Bytes.littleEndian 2 layoutVersion
  length : slice bytes 12 4 = Bytes.littleEndian 4 payload.length
  checksum : slice bytes 16 16 = checksum payload

theorem headerOf_encodeHeader (payload rest : Bytes) : HeaderOf payload (encodeHeader payload ++ rest) where
  size := by
    rw [List.length_append, length_encodeHeader]
    omega
  mark := by
    rw [encodeHeader_append]
    rfl
  format := by
    rw [encodeHeader_append]
    exact slice_append rfl rfl _
  layout := by
    rw [encodeHeader_append, ← List.append_assoc]
    exact slice_append rfl rfl _
  length := by
    rw [encodeHeader_append, ← List.append_assoc, ← List.append_assoc, ← List.append_assoc]
    exact slice_append rfl (Bytes.length_littleEndian _ _) _
  checksum := by
    rw [encodeHeader_append, ← List.append_assoc, ← List.append_assoc, ← List.append_assoc, ← List.append_assoc]
    refine slice_append ?_ (length_checksum payload) _
    simp [Bytes.length_littleEndian, UnitFile.mark]

/-- A header gives back the length of its payload, as far as four bytes hold it, and the checksum. -/
theorem HeaderOf.decodeHeader {payload bytes : Bytes} (h : HeaderOf payload bytes) :
    decodeHeader bytes = .ok (payload.length % 0x100000000, UnitFile.checksum payload) := by
  have hvalue : Bytes.ofLittleEndian (Bytes.littleEndian 4 payload.length) = payload.length % 0x100000000 :=
    Bytes.ofLittleEndian_littleEndian_mod 4 payload.length
  rw [UnitFile.decodeHeader, if_neg (Nat.not_lt.mpr h.size), h.mark, h.format, h.layout, h.length, h.checksum, hvalue]
  rfl

/-! ## Files -/

section

variable {payload bytes : Bytes} {requested : String} (hheader : HeaderOf payload bytes)
include hheader

/-- What stands behind the header must have the length that the header holds. -/
theorem HeaderOf.decode_of_length_ne (h : (bytes.drop headerSize).length ≠ payload.length % 0x100000000) :
    decode bytes requested = .error (.length (payload.length % 0x100000000) (bytes.drop headerSize).length) := by
  rw [decode, hheader.decodeHeader]
  simp only [bind, Except.bind, if_pos h]

variable (hlength : (bytes.drop headerSize).length = payload.length % 0x100000000)
include hlength

theorem HeaderOf.decode_of_checksum_ne (h : UnitFile.checksum (bytes.drop headerSize) ≠ UnitFile.checksum payload) :
    decode bytes requested = .error .checksum := by
  rw [decode, hheader.decodeHeader]
  simp only [bind, Except.bind, if_pos h, if_neg (not_not.mpr hlength)]

theorem HeaderOf.decode_ne_checksum (h : UnitFile.checksum (bytes.drop headerSize) = UnitFile.checksum payload) :
    decode bytes requested ≠ .error .checksum := by
  rw [decode, hheader.decodeHeader]
  simp only [bind, Except.bind, if_neg (not_not.mpr hlength), if_neg (not_not.mpr h)]
  intro herror
  split at herror
  · cases herror
  · split at herror <;> cases herror

theorem HeaderOf.decode_of_decodePayload
    (h : UnitFile.checksum (bytes.drop headerSize) = UnitFile.checksum payload) {owner source : String}
    (hpayload : decodePayload (bytes.drop headerSize) = .ok (owner, source)) :
    decode bytes requested = if requested = owner then .ok source else .error (.owner owner) := by
  rw [decode, hheader.decodeHeader]
  simp only [bind, Except.bind, if_neg (not_not.mpr hlength), if_neg (not_not.mpr h), hpayload]
  rw [ite_not]
  exact if_congr eq_comm rfl rfl

end

theorem drop_encode (identifier source : String) :
    (encode identifier source).drop headerSize = encodePayload identifier source := by
  rw [encode, ← length_encodeHeader (encodePayload identifier source), List.drop_left]

theorem headerOf_encode (identifier source : String) :
    HeaderOf (encodePayload identifier source) (encode identifier source) := headerOf_encodeHeader _ _

/-- A file goes to the identifier that it was written for only, whatever its flags. -/
theorem HeaderOf.decode {identifier source : String} {bytes : Bytes}
    (hheader : HeaderOf (encodePayload identifier source) bytes)
    (hpayload : bytes.drop headerSize = encodePayload identifier source)
    (h : (encodePayload identifier source).length < 0x100000000) (requested : String) :
    decode bytes requested = if requested = identifier then .ok source else .error (.owner identifier) := by
  refine hheader.decode_of_decodePayload ?_ ?_ ?_
  · rw [hpayload, Nat.mod_eq_of_lt h]
  · rw [hpayload]
  · rw [hpayload, decodePayload_encodePayload h]

/-- The unit text is read back from its file. -/
theorem decode_encode {identifier source : String} (h : (encodePayload identifier source).length < 0x100000000) :
    decode (encode identifier source) identifier = .ok source := by
  rw [(headerOf_encode identifier source).decode (drop_encode identifier source) h, if_pos rfl]

/-- A file is served to the identifier that it was written for and refused to every other, by the name of its owner. If
the payload is too long for the header, the file is refused to all for its length. -/
theorem decode_encode_requested (identifier source requested : String) :
    let length := (encodePayload identifier source).length
    decode (encode identifier source) requested =
      if length < 0x100000000 then
        if requested = identifier then .ok source else .error (.owner identifier)
      else .error (.length (length % 0x100000000) length) := by
  intro length
  have hheader := headerOf_encode identifier source
  have hpayload := drop_encode identifier source
  split
  · exact hheader.decode hpayload ‹_› requested
  · -- The header holds the remainder only, which is too small.
    have hlost : length ≠ length % 0x100000000 := by
      have : length % 0x100000000 < 0x100000000 := Nat.mod_lt _ (by decide)
      omega
    rw [hheader.decode_of_length_ne (by rw [hpayload]; exact hlost), hpayload]

end CompiledRules.UnitFile
