/-
# Lerdr.E2ee.Codec — nonce, additional data and frame envelope of the sealed session.

`nonce = 0x00000000 ‖ BE64(sequence)`, `AAD = "herdr-e2ee-v2 " ‖ direction ‖ 0x00 ‖ BE64(sequence)`.
A frame is `[0x02, 0x00, BE64(sequence), ciphertext…]` or a JSON object with the same two fields.
The relay's codec is `codec.rs`, the client's is in `E2EESession.kt`. JSON parsing and base64 come
from libraries on both sides; they enter as parameters.
-/
import Lerdr.Kotlin.Runtime
import Lerdr.Lib.BigEndian
import Lerdr.Rust.Text

namespace Lerdr.E2ee

open Lib

export Lerdr.Rust (Bytes)

/-- `VERSION`, `E2EE_VERSION`. -/
def version : Nat := 2

/-- `MAX_SEQUENCE` — sequence ceiling on seal and open. -/
def maxSequence : Nat := 2 ^ 53 - 1

/-- Wire direction of a frame. -/
inductive Direction where
  | c2s
  | s2c
  deriving DecidableEq, Repr

/-- `as_str`, `wireLabel` — the label in the AAD. -/
def Direction.asStr : Direction → List Char
  | .c2s => "c2s".toList
  | .s2c => "s2c".toList

def ascii (s : List Char) : Bytes := s.map fun c => UInt8.ofNat c.toNat

/-! ## §1 — nonce and additional data -/

/-- `frame_nonce` — four zero bytes, then the sequence. -/
def frameNonce (sequence : Nat) : Bytes := [0, 0, 0, 0] ++ BigEndian.toBytes 8 sequence

def aadPrefix : Bytes :=
  ascii "herdr-e2ee-v2 ".toList

/-- `aad`, `frameAad`. -/
def aad (direction : Direction) (sequence : Nat) : Bytes :=
  aadPrefix ++ ascii direction.asStr ++ [0] ++ BigEndian.toBytes 8 sequence

theorem frameNonce_inj {m n : Nat} (hm : m ≤ maxSequence) (hn : n ≤ maxSequence)
    (h : frameNonce m = frameNonce n) : m = n := by
  simp only [maxSequence] at hm hn
  exact BigEndian.toBytes_injOn (by omega) (by omega) (List.append_cancel_left h)

/-- **The additional data names direction and sequence.** -/
theorem aad_inj {d d' : Direction} {m n : Nat} (hm : m ≤ maxSequence) (hn : n ≤ maxSequence)
    (h : aad d m = aad d' n) : d = d' ∧ m = n := by
  have hlabel : ∀ d : Direction, (ascii d.asStr).length = 3 := by
    intro d
    cases d <;> rfl
  simp only [aad, List.append_assoc] at h
  have hrest := List.append_cancel_left h
  obtain ⟨hd, htail⟩ := List.append_inj hrest (by rw [hlabel, hlabel])
  simp only [maxSequence] at hm hn
  refine ⟨?_, BigEndian.toBytes_injOn (by omega) (by omega) (List.append_cancel_left htail)⟩
  cases d <;> cases d' <;> first | rfl | (revert hd; decide)

/-! ## §2 — JSON string literals -/

def hexDigit (n : Nat) : Char := if n < 10 then Char.ofNat (48 + n) else Char.ofNat (87 + n)

/-- One character of Go's `json.Marshal` string literal. -/
def goEscapeChar (c : Char) : List Char :=
  if c = '"' then ['\\', '"']
  else if c = '\\' then ['\\', '\\']
  else if c = '\n' then ['\\', 'n']
  else if c = '\r' then ['\\', 'r']
  else if c = '\t' then ['\\', 't']
  else if c = '<' then ['\\', 'u', '0', '0', '3', 'c']
  else if c = '>' then ['\\', 'u', '0', '0', '3', 'e']
  else if c = '&' then ['\\', 'u', '0', '0', '2', '6']
  else if c.toNat = 0x2028 then ['\\', 'u', '2', '0', '2', '8']
  else if c.toNat = 0x2029 then ['\\', 'u', '2', '0', '2', '9']
  else if c.toNat < 0x20 then
    ['\\', 'u', '0', '0', hexDigit (c.toNat / 16), hexDigit (c.toNat % 16)]
  else [c]

/-- A string literal as Go writes it, quotes included. -/
def goString (s : List Char) : List Char := '"' :: s.flatMap goEscapeChar ++ ['"']

/-- The relay's `json::escape_string`. -/
def escapeString (s : List Char) : List Char := goString s

/-- The client's `encodeJsonString`. -/
def encodeJsonString (s : List Char) : List Char := goString s

def utf8 (s : List Char) : Bytes := s.flatMap String.utf8EncodeChar

/-- The JSON frame `{"type":"e2ee","version":2,"sequence":N,"ciphertext":…}`, with the ciphertext
literal as written by the side that encodes. -/
def jsonFrame (sequence : Nat) (ciphertextLiteral : List Char) : Bytes :=
  utf8 ("\x7b\"type\":\"e2ee\",\"version\":".toList ++ Nat.toDigits 10 version ++
    ",\"sequence\":".toList ++ Nat.toDigits 10 sequence ++
    ",\"ciphertext\":".toList ++ ciphertextLiteral ++ ['}'])

/-- The frame envelope codec. -/
inductive Codec where
  | json
  | binary
  deriving DecidableEq, Repr

/-- `BINARY_FRAME_HEADER_SIZE`, `BINARY_HEADER_BYTES`. -/
def binaryHeaderSize : Nat := 10

/-- The binary frame, the same on both sides. -/
def binaryFrame (sequence : Nat) (ciphertext : Bytes) : Bytes :=
  UInt8.ofNat version :: 0 :: BigEndian.toBytes 8 sequence ++ ciphertext

/-! ## §3 — the relay's codec -/

/-- `E2eeError`, the variants a session can return. -/
inductive E2eeError where
  | invalidFrame
  | unsupportedFrame
  | invalidCiphertext
  | invalidSequence (expected received : Nat)
  | sequenceExhausted
  | authentication
  | invalidKeyMaterial
  deriving DecidableEq, Repr

/-- `JsonFrame`, as serde fills it: absent or `null` members are zero values. -/
structure JsonFrame where
  type : List Char := []
  version : Int := 0
  sequence : Nat := 0
  ciphertext : List Char := []

/-- The libraries under the relay's codec: `serde_json::from_slice` for a `JsonFrame`, and the
`RAW_URL` base64 engine. -/
structure RustLib where
  fromSlice : Bytes → Option JsonFrame
  rawUrlEncode : Bytes → List Char
  rawUrlDecode : List Char → Option Bytes

def Codec.encode (lib : RustLib) (codec : Codec) (sequence : Nat) (ciphertext : Bytes) : Bytes :=
  match codec with
  | .binary => binaryFrame sequence ciphertext
  | .json => jsonFrame sequence (escapeString (lib.rawUrlEncode ciphertext))

/-- Sequence and ciphertext of a frame. -/
def Codec.decode (lib : RustLib) (codec : Codec) (rawFrame : Bytes) :
    Except E2eeError (Nat × Bytes) :=
  match codec with
  | .binary =>
    if rawFrame.length < binaryHeaderSize then .error .invalidFrame
    else if rawFrame.getD 0 0 ≠ UInt8.ofNat version ∨ rawFrame.getD 1 0 ≠ 0 then
      .error .unsupportedFrame
    else
      .ok (BigEndian.ofBytes ((rawFrame.drop 2).take 8), rawFrame.drop binaryHeaderSize)
  | .json =>
    match lib.fromSlice rawFrame with
    | none => .error .invalidFrame
    | some frame =>
      if frame.type ≠ "e2ee".toList ∨ frame.version ≠ version then .error .unsupportedFrame
      -- the sequence is left to the session; an absent one reads as zero
      else
        match lib.rawUrlDecode frame.ciphertext with
        | none => .error .invalidCiphertext
        | some ciphertext => .ok (frame.sequence, ciphertext)

/-! ## §4 — the client's codec -/

open Lerdr.Kotlin (Units utf16)

/-- The messages of `E2EEException.Format` that the codec and the handshake raise. -/
inductive FormatMessage where
  | invalidFrame
  | unsupportedFrame
  | invalidCiphertext
  | invalidServerHello
  | unsupportedServerHello
  | invalidServerNonce
  | invalidServerPublicKey
  | invalidServerProof
  deriving DecidableEq, Repr

/-- `E2EEException` as a session raises it, and a failure inside the JCE cipher, which is none. -/
inductive E2eeException where
  | format (message : FormatMessage)
  | sequence
  | replay (sequence expected : Int)
  | auth
  | cipher
  deriving DecidableEq, Repr

/-- What `jsonObject[key]` gives: nothing, a string, an unquoted literal, or something composite. -/
inductive WireField where
  | absent
  | string (content : Units)
  | literal (content : Units)
  | composite

/-- The libraries under the client's codec: parsing a JSON object, and the JDK's base64. -/
structure KotlinLib where
  parseJsonObject : Bytes → Option (List Char → WireField)
  urlEncode : Bytes → List Char
  urlDecode : Units → Option Bytes

/-- The value of a non-empty run of decimal digits. -/
def decimal? (digits : Units) : Option Nat :=
  if digits.isEmpty then none
  else digits.foldl (fun acc u => acc.bind fun n =>
    if 48 ≤ u.toNat ∧ u.toNat ≤ 57 then some (n * 10 + (u.toNat - 48)) else none) (some 0)

/-- `String.toULongOrNull()`: an optional plus sign, digits, within 64 bits. -/
def toULongOrNull (content : Units) : Option Nat :=
  let digits := match content with
    | 43 :: rest => rest
    | _ => content
  (decimal? digits).filter (· < 2 ^ 64)

/-- `String.toLongOrNull()`: an optional sign, digits, within the range of `Long`. -/
def toLongOrNull (content : Units) : Option Int :=
  let value : Option Int := match content with
    | 43 :: rest => (decimal? rest).map Int.ofNat
    | 45 :: rest => (decimal? rest).map fun n => -(n : Int)
    | _ => (decimal? content).map Int.ofNat
  value.filter fun v => decide (Lerdr.Kotlin.longMin ≤ v ∧ v ≤ Lerdr.Kotlin.longMax)

/-- `stringField`: absent is `null`, any other kind is a format error. -/
def stringField (message : FormatMessage) (field : WireField) :
    Except E2eeException (Option Units) :=
  match field with
  | .absent => .ok none
  | .string content => .ok (some content)
  | _ => .error (.format message)

/-- An unquoted number, as one of its readings takes it. -/
def numberField (read : Units → Option Int) (message : FormatMessage) (field : WireField) :
    Except E2eeException (Option Int) :=
  match field with
  | .absent => .ok none
  | .literal content =>
    match read content with
    | some n => .ok (some n)
    | none => .error (.format message)
  | _ => .error (.format message)

/-- `ulongField`: the unsigned value read as a `Long`, so that the upper half is negative. -/
def ulongField : FormatMessage → WireField → Except E2eeException (Option Int) :=
  numberField fun content => (toULongOrNull content).map fun n : Nat => (n : Int).bmod (2 ^ 64)

/-- `longField`. -/
def longField : FormatMessage → WireField → Except E2eeException (Option Int) :=
  numberField toLongOrNull

/-- The alphabet `Base64Url.decode` insists on. -/
def isBase64UrlUnit (u : UInt16) : Bool :=
  let n := u.toNat
  (65 ≤ n && n ≤ 90) || (97 ≤ n && n ≤ 122) || (48 ≤ n && n ≤ 57) || n == 45 || n == 95

/-- `Base64Url.decode`. -/
def base64UrlDecode (lib : KotlinLib) (value : Units) : Option Bytes :=
  if value.all isBase64UrlUnit then lib.urlDecode value else none

/-- `encodeFrame`. The sequence is a non-negative `Long`. -/
def Codec.encodeFrame (lib : KotlinLib) (codec : Codec) (sequence : Int) (ciphertext : Bytes) :
    Bytes :=
  match codec with
  | .binary => binaryFrame sequence.toNat ciphertext
  | .json => jsonFrame sequence.toNat (encodeJsonString (lib.urlEncode ciphertext))

/-- Sequence and ciphertext of a JSON frame. -/
def decodeJsonFrame (lib : KotlinLib) (rawFrame : Bytes) :
    Except E2eeException (Int × Bytes) := do
  match lib.parseJsonObject rawFrame with
  | none => .error (.format .invalidFrame)
  | some frame =>
    let type := (← stringField .invalidFrame (frame "type".toList)).getD []
    let version' := (← longField .invalidFrame (frame "version".toList)).getD 0
    let sequence := (← ulongField .invalidFrame (frame "sequence".toList)).getD 0
    let encoded :=
      (← stringField .invalidFrame
        (frame "ciphertext".toList)).getD []
    if type ≠ utf16 "e2ee".toList ∨ version' ≠ version then
      .error (.format .unsupportedFrame)
    else
      match base64UrlDecode lib encoded with
      | none => .error (.format .invalidCiphertext)
      | some ciphertext => .ok (sequence, ciphertext)

/-- `decodeFrame`. The eight header bytes are read as a signed `Long`. -/
def Codec.decodeFrame (lib : KotlinLib) (codec : Codec) (rawFrame : Bytes) :
    Except E2eeException (Int × Bytes) :=
  match codec with
  | .binary =>
    if rawFrame.length < binaryHeaderSize then .error (.format .invalidFrame)
    else if rawFrame.getD 0 0 ≠ UInt8.ofNat version ∨ rawFrame.getD 1 0 ≠ 0 then
      .error (.format .unsupportedFrame)
    else
      -- no range check here: the session refuses what comes out negative
      .ok ((BigEndian.ofBytes ((rawFrame.drop 2).take 8) : Int).bmod (2 ^ 64),
        rawFrame.drop binaryHeaderSize)
  | .json => decodeJsonFrame lib rawFrame

end Lerdr.E2ee
