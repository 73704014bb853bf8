import CompiledRules.Proofs.Store.UnitFile
import Mathlib

/-!
# Damaged unit files

A file that was cut, extended or changed is not served, except where only the flags of the header were changed or the
checksums of two payloads agree. Every byte of the header apart from the flags follows from the payload.
-/

namespace CompiledRules.UnitFile

/-! ## Parts and bytes -/

theorem getElem?_of_slice_eq {a b : Bytes} {start count i : Nat} (h : slice a start count = slice b start count)
    (hstart : start ≤ i) (hend : i < start + count) : a[i]? = b[i]? := by
  have hbyte := congrArg (fun part : Bytes => part[i - start]?) h
  have hlt : i - start < count := by omega
  simpa only [slice, List.getElem?_take_of_lt hlt, List.getElem?_drop, Nat.add_sub_cancel' hstart] using hbyte

theorem slice_congr {a b : Bytes} {start count : Nat}
    (h : ∀ i, start ≤ i → i < start + count → a[i]? = b[i]?) : slice a start count = slice b start count := by
  apply List.ext_getElem?
  intro i
  by_cases hlt : i < count
  · simp only [slice, List.getElem?_take_of_lt hlt, List.getElem?_drop]
    exact h (start + i) (by omega) (by omega)
  · have hnone (bytes : Bytes) : (slice bytes start count)[i]? = none := by
      rw [slice, List.getElem?_take_eq_none (by omega)]
    rw [hnone, hnone]

/-- A byte of the header that is not one of the flags. -/
def Fixed (i : Nat) : Prop := i < 8 ∨ 12 ≤ i ∧ i < headerSize

namespace HeaderOf

variable {payload a b : Bytes}

/-- Two headers of one payload differ in the flags only. -/
theorem getElem?_eq (ha : HeaderOf payload a) (hb : HeaderOf payload b) {i : Nat} (hi : Fixed i) : a[i]? = b[i]? := by
  have hmark := ha.mark.trans hb.mark.symm
  have hformat := ha.format.trans hb.format.symm
  have hlayout := ha.layout.trans hb.layout.symm
  have hlength := ha.length.trans hb.length.symm
  have hchecksum := ha.checksum.trans hb.checksum.symm
  have hplace : i < 4 ∨ 4 ≤ i ∧ i < 6 ∨ 6 ≤ i ∧ i < 8 ∨ 12 ≤ i ∧ i < 16 ∨ 16 ≤ i ∧ i < 32 := by
    unfold Fixed headerSize at hi
    omega
  rcases hplace with hi | ⟨hstart, hend⟩ | ⟨hstart, hend⟩ | ⟨hstart, hend⟩ | ⟨hstart, hend⟩
  · exact getElem?_of_slice_eq hmark (Nat.zero_le i) hi
  · exact getElem?_of_slice_eq hformat hstart hend
  · exact getElem?_of_slice_eq hlayout hstart hend
  · exact getElem?_of_slice_eq hlength hstart hend
  · exact getElem?_of_slice_eq hchecksum hstart hend

/-- Bytes that differ from a header in the flags only are a header of the same payload. -/
theorem congr (ha : HeaderOf payload a) (hsize : headerSize ≤ b.length) (h : ∀ i, Fixed i → b[i]? = a[i]?) :
    HeaderOf payload b := by
  have hslice {start count : Nat} (hplace : ∀ i, start ≤ i → i < start + count → Fixed i) :
      slice b start count = slice a start count := slice_congr fun i hstart hend => h i (hplace i hstart hend)
  refine ⟨hsize, (hslice ?_).trans ha.mark, (hslice ?_).trans ha.format, (hslice ?_).trans ha.layout,
    (hslice ?_).trans ha.length, (hslice ?_).trans ha.checksum⟩ <;>
  · unfold Fixed headerSize
    omega

end HeaderOf

/-! ## Files that are served -/

theorem decodeHeader_eq_ok {bytes stored : Bytes} {length : Nat} (h : decodeHeader bytes = .ok (length, stored)) :
    headerSize ≤ bytes.length ∧ slice bytes 0 4 = mark ∧
      Bytes.ofLittleEndian (slice bytes 4 2) = formatVersion ∧
      Bytes.ofLittleEndian (slice bytes 6 2) = layoutVersion ∧
      Bytes.ofLittleEndian (slice bytes 12 4) = length ∧ slice bytes 16 16 = stored := by
  unfold decodeHeader at h
  split at h
  · cases h
  · rename_i hsize
    split at h
    · cases h
    · rename_i hmark
      dsimp only at h
      split at h
      · cases h
      · rename_i hversions
        cases h
        rw [not_or, not_not, not_not] at hversions
        exact ⟨Nat.not_lt.mp hsize, not_not.mp hmark, hversions.1, hversions.2, rfl, rfl⟩

/-- The bytes of a part are those of the number that it is read as. -/
theorem slice_eq_littleEndian {bytes : Bytes} {start count n : Nat} (hsize : start + count ≤ bytes.length)
    (h : Bytes.ofLittleEndian (slice bytes start count) = n) :
    slice bytes start count = Bytes.littleEndian count n := by
  have hlength : (slice bytes start count).length = count := by
    rw [slice, List.length_take, List.length_drop]
    omega
  have hback := Bytes.littleEndian_ofLittleEndian (slice bytes start count)
  rw [hlength, h] at hback
  exact hback.symm

/-- A file that is served has the header of the payload behind it. -/
theorem headerOf_of_decode {bytes : Bytes} {requested source : String} (h : decode bytes requested = .ok source) :
    HeaderOf (bytes.drop headerSize) bytes := by
  obtain ⟨⟨length, stored⟩, hheader, h⟩ := Except.bind_eq_ok_iff.mp h
  obtain ⟨hsize, hmark, hformat, hlayout, hlength, hstored⟩ := decodeHeader_eq_ok hheader
  dsimp only at h
  split at h
  · cases h
  · rename_i hfits
    split at h
    · cases h
    · rename_i hsum
      rw [not_not] at hfits hsum
      have hlong : 32 ≤ bytes.length := hsize
      exact ⟨hsize, hmark, slice_eq_littleEndian (by omega) hformat, slice_eq_littleEndian (by omega) hlayout,
        slice_eq_littleEndian (by omega) (hlength.trans hfits.symm), hstored.trans hsum.symm⟩

/-! ## Files that are cut or extended -/

theorem decode_of_short {bytes : Bytes} (h : bytes.length < headerSize) (requested : String) :
    decode bytes requested = .error (.length headerSize bytes.length) := by
  rw [decode, decodeHeader, if_pos h]
  rfl

/-- Whatever stands behind a whole header must be as long as the payload. -/
theorem decode_encodeHeader_append {payload rest : Bytes} (hshort : payload.length < 0x100000000)
    (h : rest.length ≠ payload.length) (requested : String) :
    decode (encodeHeader payload ++ rest) requested = .error (.length payload.length rest.length) := by
  have hrest : (encodeHeader payload ++ rest).drop headerSize = rest := by
    rw [← length_encodeHeader payload, List.drop_left]
  have hlength : ((encodeHeader payload ++ rest).drop headerSize).length ≠ payload.length % 0x100000000 := by
    rwa [hrest, Nat.mod_eq_of_lt hshort]
  rw [(headerOf_encodeHeader payload rest).decode_of_length_ne hlength, hrest, Nat.mod_eq_of_lt hshort]

/-- A strict prefix of a file ends in the header or is the header with a strict prefix of the payload. -/
theorem decode_of_cut {payload part : Bytes} (hshort : payload.length < 0x100000000)
    (hpart : part <+: encodeHeader payload ++ payload) (hne : part ≠ encodeHeader payload ++ payload)
    (requested : String) : decode part requested =
      .error (if part.length < headerSize then .length headerSize part.length
        else .length payload.length (part.length - headerSize)) := by
  split
  · exact decode_of_short ‹_› requested
  · rename_i hlong
    have hheader : encodeHeader payload <+: part := by
      refine List.prefix_of_prefix_length_le (List.prefix_append _ _) hpart ?_
      rw [length_encodeHeader]
      omega
    obtain ⟨rest, rfl⟩ := hheader
    have hrest : rest <+: payload := (List.prefix_append_right_inj _).mp hpart
    have hlength : rest.length ≠ payload.length := fun h => hne (by rw [hrest.eq_of_length h])
    rw [decode_encodeHeader_append hshort hlength, List.length_append, length_encodeHeader, Nat.add_sub_cancel_left]

/-! ## Files that are changed -/

section

variable {identifier source requested : String} {bytes : Bytes}

/-- The header follows from the payload, apart from the flags. -/
theorem decode_of_other_header (hrest : bytes.drop headerSize = (encode identifier source).drop headerSize)
    (hdiffers : ∃ i, Fixed i ∧ bytes[i]? ≠ (encode identifier source)[i]?) :
    ∃ reason, decode bytes requested = .error reason := by
  cases hdecode : decode bytes requested with
  | error reason => exact ⟨reason, rfl⟩
  | ok served =>
      have hbytes := headerOf_of_decode hdecode
      rw [hrest, drop_encode] at hbytes
      obtain ⟨i, hi, hne⟩ := hdiffers
      exact absurd (hbytes.getElem?_eq (headerOf_encode identifier source) hi) hne

variable (hlength : bytes.length = (encode identifier source).length)
include hlength

theorem headerSize_le_of_length_eq : headerSize ≤ bytes.length := by
  rw [hlength]
  exact (headerOf_encode identifier source).size

variable (h : (encodePayload identifier source).length < 0x100000000)
include h

/-- Behind the same header the checksum decides. -/
theorem decode_of_other_payload (hheader : bytes.take headerSize = (encode identifier source).take headerSize) :
    decode bytes requested = .error .checksum ↔
      checksum (bytes.drop headerSize) ≠ checksum (encodePayload identifier source) := by
  have hbytes : HeaderOf (encodePayload identifier source) bytes := by
    refine (headerOf_encode identifier source).congr (headerSize_le_of_length_eq hlength) fun i hi => ?_
    have hlt : i < headerSize := by
      unfold Fixed headerSize at *
      omega
    rw [← List.getElem?_take_of_lt hlt, hheader, List.getElem?_take_of_lt hlt]
  have hrest : (bytes.drop headerSize).length = (encodePayload identifier source).length % 0x100000000 := by
    rw [Nat.mod_eq_of_lt h, ← drop_encode, List.length_drop, List.length_drop, hlength]
  constructor
  · intro herror hsum
    exact hbytes.decode_ne_checksum hrest hsum herror
  · exact hbytes.decode_of_checksum_ne hrest

theorem decode_of_other_flags (hsame : ∀ i, i < 8 ∨ 12 ≤ i → bytes[i]? = (encode identifier source)[i]?) :
    decode bytes requested = decode (encode identifier source) requested := by
  have hfile := headerOf_encode identifier source
  have hbytes : HeaderOf (encodePayload identifier source) bytes :=
    hfile.congr (headerSize_le_of_length_eq hlength) fun i hi => hsame i (hi.imp_right And.left)
  have hrest : bytes.drop headerSize = encodePayload identifier source := by
    rw [← drop_encode]
    apply List.ext_getElem?
    intro i
    rw [List.getElem?_drop, List.getElem?_drop]
    exact hsame _ (.inr (by unfold headerSize; omega))
  rw [hbytes.decode hrest h, hfile.decode (drop_encode identifier source) h]

end

/-- What is left of a file after damage. A strict prefix of the file and a longer file are refused for their length. With
another byte in the header, flags apart, the payload is refused. Behind the same header, another payload of the same
length is refused for its checksum exactly if the checksums differ. The flags do not matter. -/
theorem decode_damaged {identifier source : String} (h : (encodePayload identifier source).length < 0x100000000)
    (requested : String) :
    let payload := encodePayload identifier source
    let file := encode identifier source
    (∀ part, part <+: file → part ≠ file → decode part requested =
      .error (if part.length < headerSize then .length headerSize part.length
        else .length payload.length (part.length - headerSize))) ∧
    (∀ extra, extra ≠ [] → decode (file ++ extra) requested =
      .error (.length payload.length (payload.length + extra.length))) ∧
    (∀ bytes, bytes.length = file.length → bytes.drop headerSize = file.drop headerSize →
      (∃ i, (i < 8 ∨ 12 ≤ i ∧ i < headerSize) ∧ bytes[i]? ≠ file[i]?) →
      ∃ reason, decode bytes requested = .error reason) ∧
    (∀ bytes, bytes.length = file.length → bytes.take headerSize = file.take headerSize →
      (decode bytes requested = .error .checksum ↔
        (Blake3.digest (bytes.drop headerSize)).take 16 ≠ (Blake3.digest payload).take 16)) ∧
    (∀ bytes, bytes.length = file.length → (∀ i, i < 8 ∨ 12 ≤ i → bytes[i]? = file[i]?) →
      decode bytes requested = decode file requested) := by
  intro payload file
  refine ⟨fun part hpart hne => decode_of_cut h hpart hne requested, fun extra hextra => ?_,
    fun bytes _ => decode_of_other_header, fun bytes hlength => decode_of_other_payload hlength h,
    fun bytes hlength => decode_of_other_flags hlength h⟩
  have hlonger : (payload ++ extra).length ≠ payload.length := by
    have := List.length_pos_iff.mpr hextra
    rw [List.length_append]
    omega
  have happend : file ++ extra = encodeHeader payload ++ (payload ++ extra) := List.append_assoc _ _ _
  rw [happend, decode_encodeHeader_append h hlonger, List.length_append]

/-- A small file that is cut in the header, extended by a byte, of another version, with another last byte, and with
flags. -/
theorem decode_damaged_small :
    (encodePayload "a" "b").length < 0x100000000 ∧
    decode ((encode "a" "b").take 10) "a" = .error (.length 32 10) ∧
    decode (encode "a" "b" ++ [0]) "a" = .error (.length 4 5) ∧
    (∃ reason, decode ((encode "a" "b").set 4 9) "a" = .error reason) ∧
    decode ((encode "a" "b").set 35 99) "a" = .error .checksum ∧
    decode ((encode "a" "b").set 8 1) "a" = decode (encode "a" "b") "a" := by
  have h : (encodePayload "a" "b").length < 0x100000000 := by decide
  have hsize : (encode "a" "b").length = 36 := by decide +kernel
  obtain ⟨hshorter, hlonger, hheader, hpayload, hflags⟩ := decode_damaged h "a"
  refine ⟨h, ?_, hlonger [0] (by decide), hheader _ List.length_set (List.drop_set_of_lt (by decide)) ?_,
    (hpayload _ List.length_set ?_).mpr ?_, hflags _ List.length_set fun i hi => ?_⟩
  · have hcut : ((encode "a" "b").take 10).length = 10 := by rw [List.length_take, hsize]; rfl
    have hne : (encode "a" "b").take 10 ≠ encode "a" "b" := by
      intro heq
      rw [heq, hsize] at hcut
      cases hcut
    rw [hshorter _ ⟨_, List.take_append_drop 10 _⟩ hne, hcut]
    rfl
  · exact ⟨4, by decide, by decide +kernel⟩
  · exact List.take_set_of_le (by decide)
  · decide +kernel
  · exact List.getElem?_set_ne (by omega)

end CompiledRules.UnitFile
