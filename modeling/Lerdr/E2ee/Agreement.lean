/-
# Lerdr.E2ee.Agreement — relay and client write the same frames and read them back.

The envelope is JSON text or a binary header. What the two JSON libraries are taken to do is read a
plain object — no composite members, every name once — as `Lib.Json` reads it; that the encoders
write such an object, that its literals, numbers and base64 are read as what they were made from,
and that the two encoders write the same bytes is proved here. The client hello is read back the
same way.

A frame is never both: the binary form begins with the byte `0x02`, which no JSON text does.

An accepted handshake gives the two sides sessions that are peers (§6).
-/
import Lerdr.E2ee.Delivery
import Lerdr.E2ee.Separation
import Lerdr.Rust.Serde

namespace Lerdr.E2ee

open Lib Lerdr.Rust Lerdr.Kotlin

theorem utf8_eq_bytes (s : Text) : utf8 s = Utf8.bytes s := rfl

/-! ## §1 — the libraries -/

/-- `JsonFrame`, filled from the members of an object. -/
def JsonFrame.ofMembers (ms : Members) : Option JsonFrame := do
  let type ← textField ms "type".toList
  let version ← i64Field ms "version".toList
  let sequence ← u64Field ms "sequence".toList
  let ciphertext ← textField ms "ciphertext".toList
  some { type, version, sequence, ciphertext }

/-- `ClientHelloWire`, filled from the members of an object. -/
def ClientHelloWire.ofMembers (ms : Members) : Option ClientHelloWire := do
  let type ← textField ms "type".toList
  let version ← i64Field ms "version".toList
  let authKind ← textField ms "auth_kind".toList
  let authId ← textField ms "auth_id".toList
  let authVersion ← u64Field ms "auth_version".toList
  let locale ← textField ms "locale".toList
  let nonce ← textField ms "nonce".toList
  let publicKey ← textField ms "public_key".toList
  let proof ← textField ms "proof".toList
  some { type, version, authKind, authId, authVersion := UInt64.ofNat authVersion, locale, nonce,
         publicKey, proof }

/-- The relay's libraries: serde, and base64 that tolerates non-zero trailing bits. -/
structure RustLib.Lawful (rust : RustLib) : Prop where
  serde : Serde rust.fromSlice JsonFrame.ofMembers
  encode : rust.rawUrlEncode = Base64.encode
  decode : rust.rawUrlDecode = Base64.decode true

/-- What `jsonObject[key]` gives for a member. -/
def wireField : Option Json → WireField
  | none => .absent
  | some .null => .literal (utf16 "null".toList)
  | some (.bool true) => .literal (utf16 "true".toList)
  | some (.bool false) => .literal (utf16 "false".toList)
  | some (.num n) => .literal (utf16 (Json.number n))
  | some (.str text) => .string (utf16 text)
  | some (.arr _) | some (.obj _) => .composite

/-- The client's libraries: kotlinx, and the JDK's base64 for texts of the alphabet. -/
structure KotlinLib.Lawful (kotlin : KotlinLib) : Prop where
  object : ∀ text ms, Json.parse text = some (.obj ms) → Plain ms →
    kotlin.parseJsonObject (Utf8.bytes text) = some fun key => wireField (ms.lookup key)
  encode : kotlin.urlEncode = Base64.encode
  decode : ∀ text : Text, (∀ c ∈ text, (Base64.value? c).isSome) →
    kotlin.urlDecode (utf16 text) = Base64.decode true text

theorem KotlinLib.Lawful.print {kotlin : KotlinLib} (h : kotlin.Lawful) {ms : Members}
    (hms : Plain ms) :
    kotlin.parseJsonObject (Utf8.bytes (Json.print goEscapeChar (.obj ms)))
      = some fun key => wireField (ms.lookup key) :=
  h.object _ ms (Json.parse_print escapes_goEscapeChar _) hms

/-! ## §2 — the JSON frame -/

variable {rust : RustLib} {kotlin : KotlinLib}

/-- The members of a frame. -/
def frameMembers (sequence : Nat) (ciphertext : Text) : Members :=
  [("type".toList, .str "e2ee".toList), ("version".toList, .num version),
   ("sequence".toList, .num sequence), ("ciphertext".toList, .str ciphertext)]

theorem plain_frameMembers (sequence : Nat) (ciphertext : Text) :
    Plain (frameMembers sequence ciphertext) := by
  refine ⟨rfl, ?_⟩
  show ["type".toList, "version".toList, "sequence".toList, "ciphertext".toList].Nodup
  decide

/-- What stands between two members' values: the comma, the name of the second and the colon. -/
def memberHead (key : Text) : Text := ',' :: (Json.literal goEscapeChar key ++ [':'])

/-- **The frame that is written is the text of an object.** -/
theorem jsonFrame_eq_print (sequence : Nat) (ciphertext : Text) :
    jsonFrame sequence (goString ciphertext)
      = Utf8.bytes (Json.print goEscapeChar (.obj (frameMembers sequence ciphertext))) := by
  have hhead : "\x7b\"type\":\"e2ee\",\"version\":".toList
      = '{' :: (Json.literal goEscapeChar "type".toList ++
          ':' :: (Json.literal goEscapeChar "e2ee".toList ++ memberHead "version".toList)) := by
    decide +kernel
  have hsequence : ",\"sequence\":".toList = memberHead "sequence".toList := by decide +kernel
  have hciphertext : ",\"ciphertext\":".toList = memberHead "ciphertext".toList := by
    decide +kernel
  rw [jsonFrame, hhead, hsequence, hciphertext]
  simp only [utf8_eq_bytes, frameMembers, memberHead, goString_eq_literal, Json.print,
    Json.printMembers, Json.number_natCast, List.cons_append, List.append_assoc, List.nil_append]

/-- **The relay's libraries read what the client's write.** -/
theorem reads_of_lawful (hrust : rust.Lawful) (hkotlin : kotlin.Lawful) : Reads rust kotlin where
  fromSlice n ciphertext hn := by
    have hfits : (0 : Int) ≤ (n : Int) ∧ (n : Int) ≤ 2 ^ 64 - 1 := by
      simp only [maxSequence] at hn
      omega
    rw [hkotlin.encode]
    show rust.fromSlice (jsonFrame n (goString (Base64.encode ciphertext))) = _
    rw [jsonFrame_eq_print, hrust.serde.print escapes_goEscapeChar (plain_frameMembers _ _)]
    have hu64 : u64Field (frameMembers n (Base64.encode ciphertext)) "sequence".toList
        = some n := by
      show (if (0 : Int) ≤ (n : Int) ∧ (n : Int) ≤ 2 ^ 64 - 1
        then some (n : Int) else none).map Int.toNat = _
      rw [if_pos hfits, Option.map_some, Int.toNat_natCast]
    simp only [JsonFrame.ofMembers, hu64]
    rfl
  rawUrlDecode ciphertext := by rw [hkotlin.encode, hrust.decode, Base64.decode_encode]

/-! ### The client reads it -/

theorem utf16_digits {digits : Text} (h : ∀ c ∈ digits, c.isDigit = true) :
    utf16 digits = digits.map (fun c => UInt16.ofNat c.toNat) ∧
      ∀ c ∈ digits, (UInt16.ofNat c.toNat).toNat = c.toNat ∧ 48 ≤ c.toNat ∧ c.toNat ≤ 57 := by
  have hrange := fun c hc => Utf8.toNat_of_isDigit (h c hc)
  refine ⟨utf16_ascii fun c hc => ?_, fun c hc => ⟨?_, hrange c hc⟩⟩
  · have := hrange c hc
    omega
  · have := hrange c hc
    rw [UInt16.toNat_ofNat']
    omega

/-- One step of `decimal?`. -/
def decimalStep (acc : Option Nat) (u : UInt16) : Option Nat :=
  acc.bind fun n => if 48 ≤ u.toNat ∧ u.toNat ≤ 57 then some (n * 10 + (u.toNat - 48)) else none

theorem foldl_decimalStep {digits : Text} (h : ∀ c ∈ digits, c.isDigit = true) (k : Nat) :
    (utf16 digits).foldl decimalStep (some k) = some (Nat.ofDigitChars 10 digits k) := by
  obtain ⟨hunits, hrange⟩ := utf16_digits h
  rw [hunits, List.foldl_map]
  clear h hunits
  induction digits generalizing k with
  | nil => rfl
  | cons c digits ih =>
    obtain ⟨hvalue, hlo, hhi⟩ := hrange c List.mem_cons_self
    have hstep : decimalStep (some k) (UInt16.ofNat c.toNat) = some (10 * k + (c.toNat - 48)) := by
      rw [decimalStep, Option.bind_some, hvalue, if_pos ⟨hlo, hhi⟩, Nat.mul_comm]
    rw [List.foldl_cons, hstep]
    exact ih _ fun d hd => hrange d (List.mem_cons_of_mem _ hd)

theorem decimal?_toDigits (n : Nat) : decimal? (utf16 (Nat.toDigits 10 n)) = some n := by
  have hdigits : ∀ c ∈ Nat.toDigits 10 n, c.isDigit = true :=
    fun c hc => Json.isDigit_of_mem hc
  have hne : (utf16 (Nat.toDigits 10 n)).isEmpty = false := by
    rw [(utf16_digits hdigits).1, List.isEmpty_map, List.isEmpty_eq_false_iff]
    exact Nat.toDigits_ne_nil
  rw [decimal?, hne, if_neg (by decide)]
  show (utf16 (Nat.toDigits 10 n)).foldl decimalStep (some 0) = some n
  rw [foldl_decimalStep hdigits, Nat.ofDigitChars_toDigits (by decide) (by decide)]

theorem toULongOrNull_toDigits {n : Nat} (hn : n < 2 ^ 64) :
    toULongOrNull (utf16 (Nat.toDigits 10 n)) = some n := by
  have hplus : ∀ rest, utf16 (Nat.toDigits 10 n) ≠ 43 :: rest := by
    intro rest hrest
    obtain ⟨hunits, hrange⟩ := utf16_digits fun c hc => Json.isDigit_of_mem (k := n) hc
    rw [hunits] at hrest
    obtain ⟨c, hc, hplus⟩ := List.mem_map.mp (hrest ▸ List.mem_cons_self)
    obtain ⟨hvalue, hlo, -⟩ := hrange c hc
    rw [hplus] at hvalue
    have h43 : (43 : UInt16).toNat = 43 := rfl
    omega
  have hmatch : toULongOrNull (utf16 (Nat.toDigits 10 n))
      = (decimal? (utf16 (Nat.toDigits 10 n))).filter (· < 2 ^ 64) := by
    unfold toULongOrNull
    split
    · rename_i rest hrest
      exact absurd hrest (hplus rest)
    · rfl
  rw [hmatch, decimal?_toDigits, Option.filter_some_pos (by simpa using hn)]

theorem isBase64UrlUnit_encode (bytes : Bytes) :
    (utf16 (Base64.encode bytes)).all isBase64UrlUnit = true := by
  have hall : ∀ n < 64, (utf16Char (Base64.digit n)).all isBase64UrlUnit = true := by decide
  rw [List.all_eq_true]
  intro u hu
  obtain ⟨c, hc, huc⟩ := List.mem_flatMap.mp hu
  obtain ⟨n, hn, rfl⟩ := Base64.exists_digit_of_mem_encode hc
  exact List.all_eq_true.mp (hall n hn) u huc

theorem base64UrlDecode_encode (hkotlin : kotlin.Lawful) (bytes : Bytes) :
    base64UrlDecode kotlin (utf16 (Base64.encode bytes)) = some bytes := by
  rw [base64UrlDecode, isBase64UrlUnit_encode, if_pos rfl, hkotlin.decode _ ?_,
    Base64.decode_encode]
  intro c hc
  obtain ⟨n, hn, rfl⟩ := Base64.exists_digit_of_mem_encode hc
  rw [Base64.value?_digit hn]
  rfl

theorem decodeFrame_jsonFrame (hkotlin : kotlin.Lawful) {n : Nat} (hn : n ≤ maxSequence)
    (ciphertext : Bytes) :
    Codec.decodeFrame kotlin .json (Codec.encodeFrame kotlin .json n ciphertext)
      = .ok ((n : Int), ciphertext) := by
  have hfits : n < 2 ^ 63 := by
    simp only [maxSequence] at hn
    omega
  have hread := hkotlin.print (plain_frameMembers n (Base64.encode ciphertext))
  rw [← jsonFrame_eq_print] at hread
  set ms := frameMembers n (Base64.encode ciphertext)
  have hsequence : ulongField .invalidFrame (wireField (ms.lookup "sequence".toList))
      = .ok (some (n : Int)) := by
    show ulongField .invalidFrame (.literal (utf16 (Json.number n))) = _
    rw [Json.number_natCast, ulongField, numberField, toULongOrNull_toDigits (by omega)]
    simp only [Option.map_some, Int.bmod]
    rw [if_pos (by omega), Int.emod_eq_of_lt (by omega) (by omega)]
  have hversion : longField .invalidFrame (wireField (ms.lookup "version".toList))
      = .ok (some 2) := by
    show longField .invalidFrame (.literal (utf16 (Json.number 2))) = _
    decide
  have htype : stringField .invalidFrame (wireField (ms.lookup "type".toList))
      = .ok (some (utf16 "e2ee".toList)) := rfl
  have hciphertext : stringField .invalidFrame (wireField (ms.lookup "ciphertext".toList))
      = .ok (some (utf16 (Base64.encode ciphertext))) := rfl
  simp only [Codec.decodeFrame, Codec.encodeFrame, decodeJsonFrame, encodeJsonString,
    Int.toNat_natCast, hkotlin.encode, hread, htype, hversion, hsequence, hciphertext]
  simp only [bind, Except.bind, Option.getD_some, base64UrlDecode_encode hkotlin ciphertext]
  rfl

theorem decodeFrame_binaryFrame {n : Nat} (hn : n ≤ maxSequence) (ciphertext : Bytes) :
    Codec.decodeFrame kotlin .binary (binaryFrame n ciphertext) = .ok ((n : Int), ciphertext) := by
  obtain ⟨hlong, hheader, hrest⟩ := binaryFrame_parts n ciphertext
  have hfits : n < 2 ^ 63 := by
    simp only [maxSequence] at hn
    omega
  have hsigned : ((n : Int)).bmod (2 ^ 64) = n := by
    rw [Int.bmod, Int.emod_eq_of_lt (by omega) (by omega), if_pos (by omega)]
  simp only [Codec.decodeFrame, if_neg hlong, hheader, hrest,
    BigEndian.ofBytes_toBytes (show n < 256 ^ 8 by omega), hsigned]
  rfl

/-! ## §3 — no frame is both -/

theorem decode_json_of_binary (hrust : rust.Lawful) {raw : Bytes} {frame : Nat × Bytes}
    (h : Codec.decode rust .binary raw = .ok frame) :
    Codec.decode rust .json raw = .error .invalidFrame := by
  simp only [Codec.decode] at h
  split at h
  · cases h
  rename_i hlong
  split at h
  · cases h
  rename_i hkind
  cases raw with
  | nil => exact absurd (by simp [binaryHeaderSize]) hlong
  | cons byte rest =>
    obtain rfl : byte = UInt8.ofNat version := by
      by_contra hbyte
      exact hkind (Or.inl hbyte)
    have hnone : rust.fromSlice (UInt8.ofNat version :: rest) = none :=
      hrust.serde.control _ rest (by decide) (by decide)
    simp only [Codec.decode, hnone]

/-! ## §4 — the client hello -/

section Hello

variable {Point Scalar : Type} {lib : HandshakeLib Point Scalar}

/-- The members of a client's hello. -/
def helloMembers (selector : AuthSelector) (nonce publicBytes proof : Text) : Members :=
  [("type".toList, .str "e2ee_client_hello".toList), ("version".toList, .num version),
   ("auth_kind".toList, .str selector.kind.asStr), ("auth_id".toList, .str selector.id),
   ("auth_version".toList, .num selector.version.toNat), ("locale".toList, .str selector.locale),
   ("nonce".toList, .str nonce), ("public_key".toList, .str publicBytes),
   ("proof".toList, .str proof)]

theorem plain_helloMembers (selector : AuthSelector) (nonce publicBytes proof : Text) :
    Plain (helloMembers selector nonce publicBytes proof) := by
  refine ⟨rfl, ?_⟩
  show ["type".toList, "version".toList, "auth_kind".toList, "auth_id".toList,
    "auth_version".toList, "locale".toList, "nonce".toList, "public_key".toList,
    "proof".toList].Nodup
  decide

/-- **The hello that is written is the text of an object.** -/
theorem encodeClientHello_eq_print (selector : AuthSelector) (nonce : Block nonceBytes)
    (publicBytes : Block publicKeyBytes) (proof : Block proofBytes) :
    encodeClientHello selector nonce publicBytes proof
      = Utf8.bytes (Json.print goEscapeChar (.obj (helloMembers selector
          (Base64.encode nonce.toList) (Base64.encode publicBytes.toList)
          (Base64.encode proof.toList)))) := by
  have hhead : "\x7b\"type\":\"e2ee_client_hello\",\"version\":2,\"auth_kind\":".toList
      = '{' :: (Json.literal goEscapeChar "type".toList ++
          ':' :: (Json.literal goEscapeChar "e2ee_client_hello".toList ++
            (memberHead "version".toList ++ (Nat.toDigits 10 version ++
              memberHead "auth_kind".toList)))) := by
    decide +kernel
  have hid : ",\"auth_id\":".toList = memberHead "auth_id".toList := by decide +kernel
  have hversion : ",\"auth_version\":".toList = memberHead "auth_version".toList := by
    decide +kernel
  have hlocale : ",\"locale\":".toList = memberHead "locale".toList := by decide +kernel
  have hnonce : ",\"nonce\":".toList = memberHead "nonce".toList := by decide +kernel
  have hkey : ",\"public_key\":".toList = memberHead "public_key".toList := by decide +kernel
  have hproof : ",\"proof\":".toList = memberHead "proof".toList := by decide +kernel
  rw [encodeClientHello, hhead, hid, hversion, hlocale, hnonce, hkey, hproof]
  simp only [utf8_eq_bytes, helloMembers, memberHead, decimal, escapeString, goString_eq_literal,
    Json.print, Json.printMembers, Json.number_natCast, List.cons_append, List.append_assoc,
    List.nil_append]

theorem decodeField_encode {n : Nat} (block : Block n) :
    decodeField n (Base64.encode block.toList) = some block := by
  rw [decodeField, Base64.decode_encode, Option.bind_some, Block.ofBytes_toList]

/-- **A hello is read as it was written.** -/
theorem parseClientHello_encode
    (hserde : Serde lib.clientHelloFromSlice ClientHelloWire.ofMembers) {hello : ClientHello Point}
    (hvalid : hello.selector.isValid = true)
    (hpoint : parseUncompressedP256 lib hello.publicBytes = some hello.publicKey) :
    parseClientHello lib
      (encodeClientHello hello.selector hello.nonce hello.publicBytes hello.proof) = .ok hello := by
  obtain ⟨⟨kind, id, v, locale⟩, nonce, publicBytes, publicKey, proof⟩ := hello
  have hv := v.toNat_lt
  have hread := hserde.print escapes_goEscapeChar (plain_helloMembers ⟨kind, id, v, locale⟩
    (Base64.encode nonce.toList) (Base64.encode publicBytes.toList) (Base64.encode proof.toList))
  rw [← encodeClientHello_eq_print] at hread
  have hversion : ∀ n k p, u64Field (helloMembers ⟨kind, id, v, locale⟩ n k p)
      "auth_version".toList = some v.toNat := by
    intro n k p
    show ((if (0 : Int) ≤ (v.toNat : Int) ∧ (v.toNat : Int) ≤ 2 ^ 64 - 1
      then some (v.toNat : Int) else none).map Int.toNat) = _
    rw [if_pos (by omega), Option.map_some, Int.toNat_natCast]
  have hwire : lib.clientHelloFromSlice
      (encodeClientHello ⟨kind, id, v, locale⟩ nonce publicBytes proof)
        = some { type := "e2ee_client_hello".toList, version := version, authKind := kind.asStr,
                 authId := id, authVersion := UInt64.ofNat v.toNat, locale := locale,
                 nonce := Base64.encode nonce.toList,
                 publicKey := Base64.encode publicBytes.toList,
                 proof := Base64.encode proof.toList } := by
    rw [hread]
    simp only [ClientHelloWire.ofMembers, hversion]
    rfl
  rw [UInt64.ofNat_toNat] at hwire
  have hlabel : AuthKind.fromLabel kind.asStr = some kind := by
    cases kind <;> decide +kernel
  dsimp only at hvalid hpoint
  simp [parseClientHello, hwire, okOr, bind, Except.bind, hlabel, hvalid, decodeField_encode,
    hpoint, pure, Except.pure]

/-- The curve library: a point is read back from its uncompressed form, which begins with `0x04`. -/
structure Sec1 (lib : HandshakeLib Point Scalar) : Prop where
  first : ∀ point, (lib.toSec1Point point).getD 0 0 = 4
  fromSec1Bytes : ∀ point, lib.fromSec1Bytes (lib.toSec1Point point) = some point

/-- What a client can build: the selector passes its checks, and the key is sent uncompressed. -/
structure ClientHello.Built (lib : HandshakeLib Point Scalar) (hello : ClientHello Point) :
    Prop where
  valid : hello.selector.isValid = true
  uncompressed : hello.publicBytes.toList = lib.toSec1Point hello.publicKey

theorem ClientHello.Built.point {hello : ClientHello Point} (h : hello.Built lib)
    (hcurve : Sec1 lib) :
    parseUncompressedP256 lib hello.publicBytes = some hello.publicKey := by
  rw [parseUncompressedP256, h.uncompressed, if_neg (by rw [hcurve.first]; decide),
    hcurve.fromSec1Bytes]

end Hello

/-! ## §5 — the two codecs -/

/-- **The two encoders write the same bytes.** -/
theorem encode_eq_encodeFrame (hrust : rust.Lawful) (hkotlin : kotlin.Lawful) (codec : Codec)
    (n : Nat) (ciphertext : Bytes) :
    codec.encode rust n ciphertext = codec.encodeFrame kotlin n ciphertext := by
  cases codec with
  | binary => rw [Codec.encode, Codec.encodeFrame, Int.toNat_natCast]
  | json =>
    rw [Codec.encode, Codec.encodeFrame, Int.toNat_natCast, hrust.encode, hkotlin.encode]
    rfl

/-- **Frames and hellos agree.** For every sequence number of a session and every ciphertext, in
both forms, relay and client write the same bytes and each reads them back; no bytes are a frame of
both forms; and every hello a client can build is parsed as it was. -/
theorem codecs_agree {Point Scalar : Type} {lib : HandshakeLib Point Scalar}
    (hrust : rust.Lawful) (hkotlin : kotlin.Lawful)
    (hserde : Serde lib.clientHelloFromSlice ClientHelloWire.ofMembers) (hcurve : Sec1 lib) :
    (∀ (codec : Codec) (n : Nat) (ciphertext : Bytes), n ≤ maxSequence →
      codec.encode rust n ciphertext = codec.encodeFrame kotlin n ciphertext ∧
      codec.decode rust (codec.encode rust n ciphertext) = .ok (n, ciphertext) ∧
      codec.decodeFrame kotlin (codec.encodeFrame kotlin n ciphertext)
        = .ok ((n : Int), ciphertext)) ∧
    (∀ raw, ¬ ((∃ frame, Codec.json.decode rust raw = .ok frame) ∧
      ∃ frame, Codec.binary.decode rust raw = .ok frame)) ∧
    ∀ hello : ClientHello Point, hello.Built lib →
      parseClientHello lib
        (encodeClientHello hello.selector hello.nonce hello.publicBytes hello.proof)
          = .ok hello := by
  refine ⟨?_, ?_, ?_⟩
  · intro codec n ciphertext hn
    have hsame := encode_eq_encodeFrame hrust hkotlin codec n ciphertext
    refine ⟨hsame, ?_, ?_⟩
    · rw [hsame]
      exact decode_encodeFrame (fun _ => reads_of_lawful hrust hkotlin) hn ciphertext
    · cases codec with
      | binary =>
        rw [Codec.encodeFrame, Int.toNat_natCast]
        exact decodeFrame_binaryFrame hn ciphertext
      | json => exact decodeFrame_jsonFrame hkotlin hn ciphertext
  · rintro raw ⟨⟨frame, hjson⟩, frame', hbinary⟩
    rw [decode_json_of_binary hrust hbinary] at hjson
    cases hjson
  · intro hello hbuilt
    exact parseClientHello_encode hserde hbuilt.valid (hbuilt.point hcurve)

/-! ### Libraries that keep to it -/

def compactRust : RustLib where
  fromSlice raw := (readObject raw).bind JsonFrame.ofMembers
  rawUrlEncode := Base64.encode
  rawUrlDecode := Base64.decode true

/-- The text whose units these are, each a character of its own. -/
def ofUnits (units : Units) : Text := units.map fun u => Char.ofNat u.toNat

def compactKotlin : KotlinLib where
  parseJsonObject raw := (readObject raw).map fun ms key => wireField (ms.lookup key)
  urlEncode := Base64.encode
  urlDecode units := Base64.decode true (ofUnits units)

theorem lawful_compactRust : compactRust.Lawful := ⟨serde_readObject _, rfl, rfl⟩

theorem ofUnits_utf16 {text : Text} (h : ∀ c ∈ text, c.toNat < 0x80) :
    ofUnits (utf16 text) = text := by
  rw [utf16_ascii h, ofUnits, List.map_map]
  refine (List.map_congr_left fun c hc => ?_).trans (List.map_id _)
  have := h c hc
  rw [Function.comp_apply, UInt16.toNat_ofNat', Nat.mod_eq_of_lt (by omega), Char.ofNat_toNat]
  rfl

/-- The alphabet is ASCII. -/
theorem toNat_lt_of_value? {c : Char} (h : (Base64.value? c).isSome) : c.toNat < 0x80 := by
  by_contra hhigh
  have hnone : Base64.value? c = none := by
    rw [Base64.value?, if_neg (by omega), if_neg (by omega), if_neg (by omega), if_neg, if_neg]
    · rintro rfl
      exact hhigh (by decide)
    · rintro rfl
      exact hhigh (by decide)
  rw [hnone] at h
  cases h

theorem lawful_compactKotlin : compactKotlin.Lawful where
  object text ms htext _ := by
    show (readObject (Utf8.bytes text)).map _ = _
    rw [readObject_bytes htext, Option.map_some]
  encode := rfl
  decode text h := by
    show Base64.decode true (ofUnits (utf16 text)) = _
    rw [ofUnits_utf16 fun c hc => toNat_lt_of_value? (h c hc)]

theorem reads_compact : Reads compactRust compactKotlin :=
  reads_of_lawful lawful_compactRust lawful_compactKotlin

/-- A keyed checksum in the place of HMAC. -/
def checksum (key message : Bytes) : Block proofBytes :=
  List.Vector.replicate proofBytes ((key ++ message).foldl (fun acc b => acc * 31 + b) 7)

/-- A curve of bytes: a point is its last coordinate, and the shared secret is a product. -/
def byteCurve : HandshakeLib UInt8 UInt8 where
  clientHelloFromSlice raw := (readObject raw).bind ClientHelloWire.ofMembers
  hmac := checksum
  hkdf salt material info := ⟨HkdfSha256.derive checksum material salt info 32, rfl⟩
  fromSec1Bytes bytes := bytes.getLast?
  publicKey scalar := scalar * 3
  toSec1Point point := 4 :: List.replicate 63 0 ++ [point]
  diffieHellman scalar point := [scalar * point]

theorem sec1_byteCurve : Sec1 byteCurve := ⟨fun _ => rfl, fun point => by simp [byteCurve]⟩

theorem codecs_agree_compact :
    Codec.json.encode compactRust 7 [0, 255] = Codec.json.encodeFrame compactKotlin 7 [0, 255] ∧
    Codec.json.decode compactRust (Codec.json.encode compactRust 7 [0, 255])
      = .ok (7, [0, 255]) ∧
    Codec.json.decodeFrame compactKotlin (Codec.json.encodeFrame compactKotlin 7 [0, 255])
      = .ok (7, [0, 255]) := by
  have hserde : Serde byteCurve.clientHelloFromSlice ClientHelloWire.ofMembers :=
    serde_readObject _
  exact (codecs_agree lawful_compactRust lawful_compactKotlin hserde sec1_byteCurve).1 .json 7
    [0, 255] (by decide)

/-! ## §6 — the keys of an accepted handshake -/

section Keys

variable {Point Scalar : Type} {lib : HandshakeLib Point Scalar}

/-! ### The client reads the relay's hello -/

/-- The members of the relay's hello. -/
def serverHelloMembers (nonce publicBytes proof : Text) : Members :=
  [("type".toList, .str "e2ee_server_hello".toList), ("version".toList, .num version),
   ("nonce".toList, .str nonce), ("public_key".toList, .str publicBytes),
   ("proof".toList, .str proof)]

theorem plain_serverHelloMembers (nonce publicBytes proof : Text) :
    Plain (serverHelloMembers nonce publicBytes proof) := by
  refine ⟨rfl, ?_⟩
  show ["type".toList, "version".toList, "nonce".toList, "public_key".toList,
    "proof".toList].Nodup
  decide +kernel

theorem encodeServerHello_eq_print (nonce : Block nonceBytes) (publicBytes : Block publicKeyBytes)
    (proof : Block proofBytes) :
    encodeServerHello nonce publicBytes proof
      = Utf8.bytes (Json.print goEscapeChar (.obj (serverHelloMembers
          (Base64.encode nonce.toList) (Base64.encode publicBytes.toList)
          (Base64.encode proof.toList)))) := by
  have hhead : "\x7b\"type\":\"e2ee_server_hello\",\"version\":2,\"nonce\":".toList
      = '{' :: (Json.literal goEscapeChar "type".toList ++
          ':' :: (Json.literal goEscapeChar "e2ee_server_hello".toList ++
            (memberHead "version".toList ++ (Nat.toDigits 10 version ++
              memberHead "nonce".toList)))) := by
    decide +kernel
  have hkey : ",\"public_key\":".toList = memberHead "public_key".toList := by decide +kernel
  have hproof : ",\"proof\":".toList = memberHead "proof".toList := by decide +kernel
  rw [encodeServerHello, hhead, hkey, hproof]
  simp only [utf8_eq_bytes, serverHelloMembers, memberHead, escapeString, goString_eq_literal,
    Json.print, Json.printMembers, Json.number_natCast, List.cons_append, List.append_assoc,
    List.nil_append]

theorem decodeFixedField_encode (hkotlin : kotlin.Lawful) {n : Nat} (block : Block n)
    (message : FormatMessage) :
    decodeFixedField kotlin (some (utf16 (Base64.encode block.toList))) n message = .ok block := by
  rw [decodeFixedField, Option.getD_some, base64UrlDecode_encode hkotlin, Option.bind_some,
    Block.ofBytes_toList]
  rfl

/-- **The client reads the relay's hello as it was written**, if it takes the point. -/
theorem parseServerHello_encode (hkotlin : kotlin.Lawful) (crypto : ClientCrypto Point Scalar)
    (nonce : Block nonceBytes) (publicBytes : Block publicKeyBytes) (proof : Block proofBytes) :
    parseServerHello kotlin crypto (encodeServerHello nonce publicBytes proof)
      = (okOr (crypto.publicKey publicBytes.toList) (.format .invalidServerPublicKey)).map
          fun publicKey => { nonce, publicBytes, publicKey, proof } := by
  have hread := hkotlin.print (plain_serverHelloMembers (Base64.encode nonce.toList)
    (Base64.encode publicBytes.toList) (Base64.encode proof.toList))
  rw [← encodeServerHello_eq_print] at hread
  set ms := serverHelloMembers (Base64.encode nonce.toList) (Base64.encode publicBytes.toList)
    (Base64.encode proof.toList)
  have hfield : ∀ key text, ms.lookup key = some (.str text) →
      stringField .invalidServerHello (wireField (ms.lookup key)) = .ok (some (utf16 text)) := by
    intro key text hkey
    rw [hkey]
    rfl
  have hversion : longField .invalidServerHello (wireField (ms.lookup "version".toList))
      = .ok (some 2) := by
    show longField .invalidServerHello (.literal (utf16 (Json.number 2))) = _
    decide
  simp only [parseServerHello, hread, okOr, bind, Except.bind, hversion,
    hfield "type".toList "e2ee_server_hello".toList rfl,
    hfield "nonce".toList _ rfl, hfield "public_key".toList _ rfl, hfield "proof".toList _ rfl,
    decodeFixedField_encode hkotlin]
  cases crypto.publicKey publicBytes.toList <;> rfl

/-! ### The two sides -/

/-- **The client's cryptography does what the relay's crates do**: one HMAC-SHA256; `hkdf` is
RFC 5869, as `HkdfSha256` computes it; and `P256` reads, writes and multiplies points as `p256`
does. -/
structure ClientCrypto.Matches (crypto : ClientCrypto Point Scalar)
    (lib : HandshakeLib Point Scalar) : Prop where
  mac : crypto.mac = lib.hmac
  hkdf : ∀ salt material info, (lib.hkdf salt material info).toList
    = HkdfSha256.derive crypto.mac material salt info 32
  publicKey : ∀ bytes point, crypto.publicKey bytes = some point →
    lib.fromSec1Bytes bytes = some point
  encodePublic : crypto.encodePublic = lib.toSec1Point
  ecdh : crypto.ecdh = lib.diffieHellman

/-- **The MAC keeps two handshakes apart**: what is fed to it, and the two secrets. -/
structure MacApart (lib : HandshakeLib Point Scalar) (secret secret' : Bytes)
    (uses uses' : List MacUse) : Prop where
  inputs : CollisionFree lib secret secret' uses uses'
  secrets : ∀ u ∈ uses, ∀ v ∈ uses', lib.hmac secret u.input = lib.hmac secret' v.input →
    secret = secret'

/-- What `begin` has checked of the point it keeps, and the binding it keeps beside it. -/
theorem begin_spec {raw secret : Bytes} {h : ServerHandshake Point}
    (hbegin : ServerHandshake.begin lib raw secret = .ok h) :
    lib.fromSec1Bytes h.hello.publicBytes.toList = some h.hello.publicKey ∧
      h.binding = h.hello.selector.binding := by
  simp only [ServerHandshake.begin, bind, Except.bind] at hbegin
  split at hbegin
  · cases hbegin
  rename_i hello hparse
  split at hbegin
  · cases hbegin
  cases hbegin
  refine ⟨?_, rfl⟩
  simp only [parseClientHello, parseUncompressedP256, bind, Except.bind, okOr, throw, throwThe,
    MonadExceptOf.throw, pure, Except.pure] at hparse
  repeat' split at hparse
  all_goals cases hparse
  grind

/-- One tag is of one secret, over one client hello. -/
theorem bound_of_serverProof {secret secret' : Bytes} {c c' : ClientHello Point}
    {s : ServerHello Point} (hapart : MacApart lib secret secret' (macUses c s) (macUses c' s))
    (htag : serverProof lib secret (handshakeTranscript c s)
      = serverProof lib secret' (handshakeTranscript c' s)) :
    secret = secret' ∧ c.bound = c'.bound := by
  have huse : MacUse.serverProof c.bound s.bound ∈ macUses c s := by simp [macUses]
  have huse' : MacUse.serverProof c'.bound s.bound ∈ macUses c' s := by simp [macUses]
  have hinput := hapart.inputs _ huse _ huse' htag
  exact ⟨hapart.secrets _ huse _ huse' htag,
    (MacUse.serverProof.inj (MacUse.input_injective hinput)).1⟩

/-- **A handshake the client accepts is the relay's.** The relay took some hello, whoever sent it,
under whatever secret it has for it, and answered; the client, which sent `c`, accepts the answer.
Then the relay's secret is the client's, the hello it took agrees with `c` in all that a hello
binds, and the sessions of the two sides are peers, with the same keys both ways. The curve reads a
point back as it wrote it and gives one shared secret from both sides; the MAC keeps the two
handshakes apart. -/
theorem accepted_handshake_peers {crypto : ClientCrypto Point Scalar}
    {raw secret secret' message : Bytes} {h : ServerHandshake Point} {c : ClientHello Point}
    {s : ServerHello Point} {clientPrivate serverPrivate : Scalar} {nonce : Block nonceBytes}
    {established : Established} {codec : Codec} {client : E2EESession}
    (hkotlin : kotlin.Lawful) (hcrypto : crypto.Matches lib) (hsec1 : Sec1 lib)
    (hshared : lib.diffieHellman clientPrivate (lib.publicKey serverPrivate)
      = lib.diffieHellman serverPrivate (lib.publicKey clientPrivate))
    (hclient : c.publicBytes.toList = crypto.encodePublic (lib.publicKey clientPrivate))
    (hbegin : ServerHandshake.begin lib raw secret' = .ok h)
    (hrespond : h.respond lib secret' serverPrivate nonce = .ok (message, established))
    (hmessage : message = encodeServerHello s.nonce s.publicBytes s.proof)
    (hapart : MacApart lib secret secret' (macUses c s) (macUses h.hello s))
    (haccept : acceptServerHello kotlin crypto secret clientPrivate codec c message
      = .ok client) :
    secret = secret' ∧ c.bound = h.hello.bound ∧
      ∃ relay, Session.server established.keys codec = .ok relay ∧ Peers client relay ∧
        relay.send = client.receiveKey ∧ relay.sendDirection = client.receiveDirection := by
  obtain ⟨hpoint, hbinding⟩ := begin_spec hbegin
  rw [hmessage] at hrespond haccept
  simp only [ServerHandshake.respond, hbinding, Block.ofBytes] at hrespond
  split at hrespond
  · obtain ⟨hwritten, rfl⟩ := Prod.mk.inj (Except.ok.inj hrespond)
    obtain ⟨rfl, hpublic, hproof⟩ := encodeServerHello_inj hwritten
    -- the client reads the relay's own point, and finds the relay's tag
    rw [acceptServerHello, parseServerHello_encode hkotlin] at haccept
    cases hread : crypto.publicKey s.publicBytes.toList with
    | none =>
      rw [hread] at haccept
      cases haccept
    | some point =>
      have hserver := hcrypto.publicKey _ _ hread
      rw [← hpublic] at hserver
      obtain rfl := Option.some.inj ((hsec1.fromSec1Bytes _).symm.trans hserver)
      simp only [hread, okOr, Except.map, bind, Except.bind, hcrypto.mac] at haccept
      split at haccept
      · cases haccept
      rename_i htag
      rw [hpublic] at hproof
      obtain ⟨rfl, hbound⟩ := bound_of_serverProof hapart ((not_not.mp htag).trans hproof.symm)
      have hbytes : c.publicBytes = h.hello.publicBytes := congrArg ClientBound.publicBytes hbound
      rw [← hbytes, hclient, hcrypto.encodePublic, hsec1.fromSec1Bytes] at hpoint
      refine ⟨rfl, hbound, ?_⟩
      have htranscript : handshakeTranscript h.hello s = handshakeTranscript c s := by
        rw [handshakeTranscript_eq, handshakeTranscript_eq, hbound]
      have hsecret : lib.diffieHellman serverPrivate h.hello.publicKey
          = crypto.ecdh clientPrivate (lib.publicKey serverPrivate) := by
        rw [← Option.some.inj hpoint, hcrypto.ecdh, hshared]
      have hkeys : ∀ info, (lib.hkdf (keySalt lib secret (handshakeTranscript h.hello s)).toList
          (lib.diffieHellman serverPrivate h.hello.publicKey) info).toList
            = HkdfSha256.derive lib.hmac (crypto.ecdh clientPrivate (lib.publicKey serverPrivate))
                (lib.hmac secret (keySaltInput (handshakeTranscript c s))).toList info 32 := by
        intro info
        rw [htranscript, hsecret, hcrypto.hkdf, hcrypto.mac]
        rfl
      cases haccept
      rw [hpublic]
      exact ⟨_, if_neg (by simp [SessionKeys.c2s_length, SessionKeys.s2c_length]),
        ⟨hkeys hkdfInfoC2s, rfl, rfl⟩, hkeys hkdfInfoS2c, rfl⟩
  · cases hrespond

end Keys

/-- The client's side of the curve of bytes. -/
def byteCrypto : ClientCrypto UInt8 UInt8 where
  mac := checksum
  publicKey := byteCurve.fromSec1Bytes
  encodePublic := byteCurve.toSec1Point
  ecdh := byteCurve.diffieHellman

theorem matches_byteCrypto : byteCrypto.Matches byteCurve where
  mac := rfl
  hkdf _ _ _ := rfl
  publicKey _ _ h := h
  encodePublic := rfl
  ecdh := rfl

/-- The uncompressed form of the point of a key. -/
def pointBlock (scalar : UInt8) : Block publicKeyBytes :=
  ⟨byteCurve.toSec1Point (byteCurve.publicKey scalar), rfl⟩

/-- The hello of a client with the key `5` and the secret `[80]`. -/
def keyedHello : ClientHello UInt8 where
  selector := sampleSelector 1 "en".toList
  nonce := sampleNonce
  publicBytes := pointBlock 5
  publicKey := byteCurve.publicKey 5
  proof := clientProof byteCurve [80] (sampleSelector 1 "en".toList).binding sampleNonce.toList
    (pointBlock 5).toList

/-- The answer of a relay with the key `7`. -/
def keyedAnswer : ServerHello UInt8 where
  nonce := List.Vector.replicate 32 8
  publicBytes := pointBlock 7
  publicKey := byteCurve.publicKey 7
  proof := serverProof byteCurve [80] (transcript (sampleSelector 1 "en".toList).binding
    sampleNonce.toList (pointBlock 5).toList (List.replicate 32 8) (pointBlock 7).toList)

def keyedMessage : Bytes :=
  encodeServerHello keyedAnswer.nonce keyedAnswer.publicBytes keyedAnswer.proof

/-- Two key pairs, one secret: the client accepts, and the sessions are peers. -/
theorem accepted_handshake_peers_sample :
    ∃ client relay,
      acceptServerHello compactKotlin byteCrypto [80] 5 .json keyedHello keyedMessage
        = .ok client ∧
      Peers client relay ∧ relay.send = client.receiveKey := by
  have hparse := @parseClientHello_encode _ _ byteCurve (serde_readObject _) keyedHello
    (by decide +kernel) (by decide +kernel)
  have hbegin : ServerHandshake.begin byteCurve (encodeClientHello keyedHello.selector
      keyedHello.nonce keyedHello.publicBytes keyedHello.proof) [80]
        = .ok ⟨keyedHello, keyedHello.selector.binding⟩ := by
    have hverify : verifyClientProof byteCurve [80] keyedHello = true := decide_eq_true rfl
    simp only [ServerHandshake.begin, hparse, bind, Except.bind, hverify]
    rfl
  obtain ⟨established, hrespond⟩ : ∃ established, ServerHandshake.respond byteCurve
      ⟨keyedHello, keyedHello.selector.binding⟩ [80] 7 keyedAnswer.nonce
        = .ok (keyedMessage, established) := ⟨_, rfl⟩
  obtain ⟨client, haccept⟩ : ∃ client,
      acceptServerHello compactKotlin byteCrypto [80] 5 .json keyedHello keyedMessage
        = .ok client := by
    have hread : byteCrypto.publicKey keyedAnswer.publicBytes.toList
        = some (byteCurve.publicKey 7) := by decide +kernel
    simp only [acceptServerHello, keyedMessage, parseServerHello_encode lawful_compactKotlin, hread,
      okOr, Except.map, bind, Except.bind]
    split
    · rename_i htag
      exact absurd rfl htag
    · exact ⟨_, rfl⟩
  obtain ⟨-, -, relay, -, hpeers, hsend, -⟩ := accepted_handshake_peers lawful_compactKotlin
    matches_byteCrypto sec1_byteCurve (by decide) rfl hbegin hrespond rfl
    ⟨by decide +kernel, fun _ _ _ _ _ => rfl⟩ haccept
  exact ⟨client, relay, haccept, hpeers, hsend⟩

end Lerdr.E2ee
