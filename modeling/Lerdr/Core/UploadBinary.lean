/-
# Lerdr.Core.UploadBinary — binary upload chunks (`uploadbinary.rs`, `BinaryUploadChunk.kt`).

A chunk is a type byte, an id of 32 bytes, a sequence number of 8, and the data. The relay's decoder
accepts exactly what its encoder writes. The client's encoder takes every letter of Unicode for an
id's character, so that it builds frames of ids the relay refuses (`foreign_id_is_framed`); on any
other id the two encoders are the same.
-/
import Lerdr.Kotlin.Runtime
import Lerdr.Lib.BigEndian
import Lerdr.Lib.Utf8
import Lerdr.Rust.Text

namespace Lerdr.Core.UploadBinary

open Lib Lerdr.Rust

/-! ## §1 — the relay -/

def typeByte : UInt8 := 0x03

def uploadIdBytes : Nat := 32

def headerBytes : Nat := 1 + uploadIdBytes + 8

structure BinaryChunk where
  uploadId : Text
  sequence : Int64
  data : Bytes
  deriving DecidableEq

/-- `b.is_ascii_alphanumeric()`, of a code below `2 ^ 16`. -/
def isAsciiAlphanumeric (n : Nat) : Bool :=
  (48 ≤ n && n ≤ 57) || (65 ≤ n && n ≤ 90) || (97 ≤ n && n ≤ 122)

def isUploadId (value : Text) : Bool :=
  (Utf8.bytes value).length = uploadIdBytes &&
    (Utf8.bytes value).all fun b => isAsciiAlphanumeric b.toNat || b = 45 || b = 95

def toBeBytes (sequence : Int64) : Bytes := BigEndian.toBytes 8 sequence.toUInt64.toNat

def fromBeBytes (bytes : Bytes) : Int64 := (UInt64.ofNat (BigEndian.ofBytes bytes)).toInt64

/-- A frame of the right type, with a valid id. -/
def decodeChunk (plaintext : Bytes) : Option BinaryChunk :=
  if plaintext.length < headerBytes then none
  else
    let header := plaintext.take headerBytes
    if header.head? ≠ some typeByte then none
    else
      match Utf8.decode ((header.drop 1).take uploadIdBytes) with
      | none => none
      | some uploadId =>
        if isUploadId uploadId then
          some ⟨uploadId, fromBeBytes (header.drop (1 + uploadIdBytes)), plaintext.drop headerBytes⟩
        else none

def encodeChunk (uploadId : Text) (sequence : Int64) (data : Bytes) : Option Bytes :=
  if isUploadId uploadId then
    some (typeByte :: (Utf8.bytes uploadId ++ (toBeBytes sequence ++ data)))
  else none

/-! ## §2 — the client -/

/-- What `Char.isLetterOrDigit` says of a code unit: on ASCII the letters and digits. -/
structure Letters where
  isLetterOrDigit : UInt16 → Bool
  ascii : ∀ u, u.toNat < 128 → isLetterOrDigit u = isAsciiAlphanumeric u.toNat

namespace Client

def isUploadId (letters : Letters) (value : Kotlin.Units) : Bool :=
  value.length = uploadIdBytes &&
    value.all fun u => letters.isLetterOrDigit u || u = 45 || u = 95

/-- `toByteArray(Charsets.US_ASCII)`: other characters become a question mark. -/
def usAscii (value : Kotlin.Units) : Bytes :=
  value.map fun u => if u.toNat < 128 then UInt8.ofNat u.toNat else 63

def encodeChunk (letters : Letters) (uploadId : Kotlin.Units) (sequence : Int64) (data : Bytes) :
    Option Bytes :=
  if isUploadId letters uploadId then
    some (typeByte :: (usAscii uploadId ++ (toBeBytes sequence ++ data)))
  else none

end Client

/-! ## §3 — the two directions of the relay's codec -/

theorem fromBeBytes_toBeBytes (sequence : Int64) : fromBeBytes (toBeBytes sequence) = sequence := by
  have hlt : sequence.toUInt64.toNat < 256 ^ 8 := sequence.toUInt64.toNat_lt
  rw [fromBeBytes, toBeBytes, BigEndian.ofBytes_toBytes hlt, UInt64.ofNat_toNat,
    Int64.toInt64_toUInt64]

theorem toBeBytes_fromBeBytes {bytes : Bytes} (h : bytes.length = 8) :
    toBeBytes (fromBeBytes bytes) = bytes := by
  have hlt := BigEndian.ofBytes_lt bytes
  rw [h] at hlt
  rw [toBeBytes, fromBeBytes, UInt64.toUInt64_toInt64, UInt64.toNat_ofNat_of_lt' hlt, ← h,
    BigEndian.toBytes_ofBytes]

/-- **The decoder is the encoder's inverse**, in both directions. -/
theorem decodeChunk_eq_some_iff {plaintext : Bytes} {chunk : BinaryChunk} :
    decodeChunk plaintext = some chunk ↔
      encodeChunk chunk.uploadId chunk.sequence chunk.data = some plaintext := by
  constructor
  · intro h
    rw [decodeChunk] at h
    split at h
    · cases h
    · next hlong =>
      have hlength : headerBytes ≤ plaintext.length := Nat.le_of_not_lt hlong
      simp only at h
      split at h
      · cases h
      · next htype =>
        split at h
        · cases h
        · next uploadId hid =>
          split at h
          · next hvalid =>
            cases h
            obtain ⟨rest, hheader⟩ := List.head?_eq_some_iff.mp (not_not.mp htype)
            have hrest : rest.length = 40 := by
              have := congrArg List.length hheader
              rw [List.length_take, Nat.min_eq_left hlength, List.length_cons] at this
              exact (Nat.succ.inj this).symm
            rw [hheader] at hid ⊢
            simp only [encodeChunk, if_pos hvalid, Utf8.bytes_of_decode hid, Option.some.injEq]
            rw [toBeBytes_fromBeBytes (by simp [uploadIdBytes, hrest])]
            conv_rhs => rw [← List.take_append_drop headerBytes plaintext, hheader]
            simp only [List.cons_append, ← List.append_assoc]
            congr 2
            exact List.take_append_drop uploadIdBytes rest
          · cases h
  · intro h
    rw [encodeChunk] at h
    split at h
    · next hvalid =>
      cases h
      have hid : (Utf8.bytes chunk.uploadId).length = uploadIdBytes := by
        simp only [isUploadId, Bool.and_eq_true, decide_eq_true_eq] at hvalid
        exact hvalid.1
      have hheader : (typeByte :: (Utf8.bytes chunk.uploadId ++ toBeBytes chunk.sequence)).length =
          headerBytes := by
        simp only [toBeBytes, List.length_cons, List.length_append, BigEndian.length_toBytes, hid]
        rfl
      rw [← List.append_assoc, ← List.cons_append, decodeChunk, List.take_left' hheader,
        List.drop_left' hheader, if_neg (by rw [List.length_append, hheader]; omega)]
      simp only [List.head?_cons, ne_eq, not_true_eq_false, if_false, List.drop_succ_cons,
        List.drop_zero,
        List.take_left' hid, Utf8.decode_bytes, if_pos hvalid, Nat.add_comm 1, List.drop_left' hid,
        fromBeBytes_toBeBytes]
    · cases h

/-! ## §4 — the two encoders -/

theorem dashes_ascii : ∀ n < 128, (UInt16.ofNat n = 45 ↔ UInt8.ofNat n = 45) ∧
    (UInt16.ofNat n = 95 ↔ UInt8.ofNat n = 95) := by decide

/-- An id of the relay is in ASCII. -/
theorem ascii_of_isUploadId {s : Text} (h : isUploadId s = true) : ∀ c ∈ s, c.toNat < 128 := by
  rw [isUploadId, Bool.and_eq_true, List.all_eq_true] at h
  refine Utf8.ascii_of_bytes fun byte hbyte => ?_
  have hallowed := h.2 byte hbyte
  simp only [isAsciiAlphanumeric, Bool.or_eq_true, Bool.and_eq_true, decide_eq_true_eq] at hallowed
  obtain (hlow | rfl) | rfl := hallowed
  · omega
  · decide
  · decide

section Ascii

variable (letters : Letters) {s : Text} (h : ∀ c ∈ s, c.toNat < 128)

include h

/-- On ASCII the two predicates are one. -/
theorem isUploadId_ascii : Client.isUploadId letters (Kotlin.utf16 s) = isUploadId s := by
  rw [Client.isUploadId, isUploadId, Kotlin.utf16_ascii h, Utf8.bytes_ascii h, List.length_map,
    List.length_map, List.all_map, List.all_map, Bool.eq_iff_iff, Bool.and_eq_true,
    Bool.and_eq_true, List.all_eq_true, List.all_eq_true]
  refine and_congr_right fun _ => forall₂_congr fun c hc => ?_
  have hunit : (UInt16.ofNat c.toNat).toNat = c.toNat :=
    UInt16.toNat_ofNat_of_lt' (lt_trans (h c hc) (by decide))
  have hbyte : (UInt8.ofNat c.toNat).toNat = c.toNat :=
    UInt8.toNat_ofNat_of_lt' (lt_trans (h c hc) (by decide))
  have hdashes := dashes_ascii c.toNat (h c hc)
  simp only [Function.comp_apply, letters.ascii _ (hunit.symm ▸ h c hc), hunit, hbyte, hdashes.1,
    hdashes.2]

/-- On ASCII the two encoders are one. -/
theorem encodeChunk_ascii (sequence : Int64) (data : Bytes) :
    Client.encodeChunk letters (Kotlin.utf16 s) sequence data = encodeChunk s sequence data := by
  have hascii : Client.usAscii (Kotlin.utf16 s) = Utf8.bytes s := by
    rw [Client.usAscii, Kotlin.utf16_ascii h, Utf8.bytes_ascii h, List.map_map]
    refine List.map_congr_left fun c hc => ?_
    rw [Function.comp_apply, UInt16.toNat_ofNat_of_lt' (lt_trans (h c hc) (by decide)),
      if_pos (h c hc)]
  rw [Client.encodeChunk, encodeChunk, isUploadId_ascii letters h, hascii]

end Ascii

/-- **The two encoders agree** on an id unless the client takes it for one and it is not in ASCII.
-/
theorem encodeChunk_eq_iff (letters : Letters) (s : Text) (sequence : Int64) (data : Bytes) :
    Client.encodeChunk letters (Kotlin.utf16 s) sequence data = encodeChunk s sequence data ↔
      (Client.isUploadId letters (Kotlin.utf16 s) = true → ∀ c ∈ s, c.toNat < 128) := by
  by_cases hascii : ∀ c ∈ s, c.toNat < 128
  · exact ⟨fun _ _ => hascii, fun _ => encodeChunk_ascii letters hascii sequence data⟩
  · have hrelay : isUploadId s = false :=
      Bool.eq_false_iff.mpr fun hvalid => hascii (ascii_of_isUploadId hvalid)
    rw [encodeChunk, hrelay, if_neg (by decide), Client.encodeChunk]
    cases Client.isUploadId letters (Kotlin.utf16 s) with
    | true => simp [hascii]
    | false => simp

/-- **The chunk codec.** The relay decodes exactly the frames of its encoder, to what was encoded.
The client builds the frame that the relay's encoder does (or neither builds one), and the relay
decodes it, exactly for the ids that are in ASCII or that the client refuses. -/
theorem chunk_codec (letters : Letters) (plaintext : Bytes) (chunk : BinaryChunk) :
    (decodeChunk plaintext = some chunk ↔
      encodeChunk chunk.uploadId chunk.sequence chunk.data = some plaintext) ∧
    ((Client.encodeChunk letters (Kotlin.utf16 chunk.uploadId) chunk.sequence chunk.data =
        encodeChunk chunk.uploadId chunk.sequence chunk.data ∧
      ∀ frame, Client.encodeChunk letters (Kotlin.utf16 chunk.uploadId) chunk.sequence chunk.data =
        some frame → decodeChunk frame = some chunk) ↔
      (Client.isUploadId letters (Kotlin.utf16 chunk.uploadId) = true →
        ∀ c ∈ chunk.uploadId, c.toNat < 128)) := by
  refine ⟨decodeChunk_eq_some_iff, ?_⟩
  rw [← encodeChunk_eq_iff letters chunk.uploadId chunk.sequence chunk.data]
  exact ⟨And.left, fun hsame =>
    ⟨hsame, fun frame hframe => decodeChunk_eq_some_iff.mpr (hsame ▸ hframe)⟩⟩

def latin1 : Letters where
  isLetterOrDigit u := isAsciiAlphanumeric u.toNat || u = 0xAA || u = 0xB5 || u = 0xBA ||
    (0xC0 ≤ u.toNat && u.toNat ≤ 0xFF && u ≠ 0xD7 && u ≠ 0xF7)
  ascii u hu := by
    have hne : ∀ v : UInt16, 128 ≤ v.toNat → u ≠ v := fun v hv huv => by
      rw [huv] at hu
      omega
    simp [hne 0xAA (by decide), hne 0xB5 (by decide), hne 0xBA (by decide),
      show ¬ 192 ≤ u.toNat by omega]

/-- An id of 32 times `é`: the client frames question marks, the relay encodes and decodes nothing.
-/
theorem foreign_id_is_framed :
    Client.encodeChunk latin1 (Kotlin.utf16 (List.replicate 32 'é')) 0 [] =
      some (typeByte :: (List.replicate 32 63 ++ List.replicate 8 0)) ∧
    encodeChunk (List.replicate 32 'é') 0 [] = none ∧
    decodeChunk (typeByte :: (List.replicate 32 63 ++ List.replicate 8 0)) = none := by
  refine ⟨?_, ?_, ?_⟩ <;> decide +kernel

end Lerdr.Core.UploadBinary
