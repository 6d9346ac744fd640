/-
# Lerdr.Terminal.FrameZstd — the client restores compressed pane frames (`FrameZstd.kt`).

The client works on the JSON object of a frame: it inflates `payload`, drops the two negotiated
members and puts `content` back. `compressed_frames_restore` puts both decoders next to the relay's
`compress_payload`: what they give back is the frame that was compressed exactly when the serialized
payload is within the inflate cap and the frame had no `payload` of its own. The relay checks
neither.
-/
import Lerdr.Core.FrameZstd

namespace Lerdr.Terminal.FrameZstd

open Lib Lerdr.Kotlin Lerdr.Core
open Lerdr.Rust (Bytes Text Members Plain Serde)

/-! ## §1 — JSON as kotlinx has it -/

mutual

/-- The element that a JSON value is parsed to. -/
def elementOf : Json → JsonElement
  | .null => .null
  | .bool b => .bool b
  | .num n => .number (JsonNumber.ofInt n)
  | .str text => .string (utf16 text)
  | .arr items => .array (elementsOf items)
  | .obj members => .object (objectOf members)

def elementsOf : List Json → List JsonElement
  | [] => []
  | item :: items => elementOf item :: elementsOf items

def objectOf : List (List Char × Json) → JsonObject
  | [] => []
  | (key, item) :: members => (String.ofList key, elementOf item) :: objectOf members

end

/-- `(object[key] as? JsonPrimitive)?.takeIf { it.isString }?.content`. -/
def stringMember (object : JsonObject) (key : String) : Option Units :=
  match member object key with
  | some (.string content) => some content
  | _ => none

/-- `JsonObjectBuilder.put`: a key that is there keeps its place. -/
def putMember (object : JsonObject) (key : String) (value : JsonElement) : JsonObject :=
  if object.any (·.1 = key) then object.map fun m => if m.1 = key then (key, value) else m
  else object ++ [(key, value)]

theorem member_append (a b : JsonObject) (key : String) :
    member (a ++ b) key = (member a key).or (member b key) := by
  induction a with
  | nil => rfl
  | cons m a ih =>
    obtain ⟨k, v⟩ := m
    rw [List.cons_append, member_cons, member_cons]
    by_cases hk : key = k
    · rw [if_pos hk, if_pos hk, Option.some_or]
    · rw [if_neg hk, if_neg hk, ih]

theorem member_eq_none {object : JsonObject} {key : String}
    (h : object.any (·.1 = key) = false) : member object key = none := by
  induction object with
  | nil => rfl
  | cons m object ih =>
    obtain ⟨k, v⟩ := m
    simp only [List.any_cons, Bool.or_eq_false_iff, decide_eq_false_iff_not] at h
    rw [member_cons, if_neg (Ne.symm h.1), ih h.2]

/-- **A member that is put is there, and nothing else changes.** -/
theorem member_putMember (object : JsonObject) (key key' : String) (value : JsonElement) :
    member (putMember object key value) key'
      = if key' = key then some value else member object key' := by
  cases hany : object.any (·.1 = key) with
  | false =>
    rw [putMember, hany, if_neg (by decide), member_append, member_cons, member_nil]
    by_cases hkey : key' = key
    · rw [if_pos hkey, if_pos hkey, hkey, member_eq_none hany, Option.none_or]
    · rw [if_neg hkey, if_neg hkey, Option.or_none]
  | true =>
    rw [putMember, hany, if_pos rfl]
    induction object with
    | nil => cases hany
    | cons m object ih =>
      obtain ⟨k, v⟩ := m
      rw [List.map_cons]
      by_cases hk : k = key
      · subst hk
        rw [if_pos rfl, member_cons, member_cons]
        by_cases hkey : key' = k
        · rw [if_pos hkey, if_pos hkey]
        · rw [if_neg hkey, if_neg hkey, if_neg hkey]
          -- the same key further on does not matter: the lookup is of another
          clear ih hany
          induction object with
          | nil => rfl
          | cons m object ih =>
            obtain ⟨k'', v''⟩ := m
            rw [List.map_cons]
            by_cases hk'' : k'' = k
            · rw [if_pos hk'', member_cons, member_cons, hk'', if_neg hkey, if_neg hkey, ih]
            · rw [if_neg hk'', member_cons, member_cons, ih]
      · have hrest : object.any (·.1 = key) = true := by
          simpa [hk] using hany
        rw [if_neg hk, member_cons, member_cons, ih hrest]
        by_cases hkey : key' = k
        · rw [if_pos hkey, if_pos hkey, if_neg (by rintro rfl; exact hk hkey.symm)]
        · rw [if_neg hkey, if_neg hkey]

theorem member_filter (object : JsonObject) (p : String → Bool) (key : String) :
    member (object.filter (p ·.1)) key = if p key then member object key else none := by
  induction object with
  | nil => simp
  | cons m object ih =>
    obtain ⟨k, v⟩ := m
    by_cases hp : p k = true
    · rw [List.filter_cons_of_pos (by exact hp), member_cons, member_cons, ih]
      by_cases hkey : key = k
      · rw [if_pos hkey, if_pos hkey, hkey, if_pos hp]
      · rw [if_neg hkey, if_neg hkey]
    · rw [List.filter_cons_of_neg (by exact hp), member_cons, ih]
      by_cases hkey : key = k
      · rw [hkey, if_neg hp, if_neg hp]
      · rw [if_neg hkey]

/-! ## §2 — the client's decoder -/

/-- The libraries: the JDK's base64, zstd-jni, and kotlinx on the UTF-8 text of the bytes. -/
structure FrameLib where
  basicDecode : Units → Option Bytes
  decompress : Bytes → Nat → Option Bytes
  parseToJsonElement : Bytes → Option JsonElement

/-- The messages of the `IllegalArgumentException`s. -/
inductive FrameFailure where
  /-- `unknown pane frame encoding: …` -/
  | unknownEncoding (encoding : Units)
  /-- `pane frame declares zstd encoding without payload` -/
  | missingPayload
  /-- `pane frame payload is not valid base64` -/
  | badBase64
  /-- `pane frame payload does not inflate` -/
  | inflate
  /-- `pane frame payload is not the payload object` -/
  | badPayload
  deriving DecidableEq, Repr

/-- `buildJsonObject`: all but the two negotiated members, and the content. -/
def restoredObject (raw members : JsonObject) : JsonObject :=
  let plain := raw.filter fun m => m.1 ≠ "encoding" && m.1 ≠ "payload"
  match member members "content" with
  | some content => putMember plain "content" content
  | none => plain

/-- The object with its content restored. -/
def decompressPaneContentPayload (lib : FrameLib) (raw : JsonObject) :
    Except FrameFailure JsonObject :=
  match stringMember raw "encoding" with
  | none => .ok raw
  | some encoding =>
    if encoding ≠ utf16 encodingName then .error (.unknownEncoding encoding)
    else
      match stringMember raw "payload" with
      | none => .error .missingPayload
      | some payload =>
        match lib.basicDecode payload with
        | none => .error .badBase64
        | some compressed =>
          match lib.decompress compressed maxInflated with
          | none => .error .inflate
          | some json =>
            match lib.parseToJsonElement json with
            | some (.object members) => .ok (restoredObject raw members)
            | _ => .error .badPayload

/-- What the client's libraries are taken to do: the base64 decoder takes what is padded and does
not insist on it, the inflater inverts the relay's compressor up to its cap, and a plain object is
parsed for what it is. -/
structure FrameLib.Lawful (lib : FrameLib) (zstd : Zstd) : Prop where
  basicDecode : ∀ text : Text, (∀ c ∈ text, c.toNat < 0x80) →
    lib.basicDecode (utf16 text) = Base64.decodePadded true true text
  decompress : ∀ plain capacity, lib.decompress (zstd.compress plain) capacity
    = if plain.length ≤ capacity then some plain else none
  parse : ∀ text (ms : Members), Json.parse text = some (.obj ms) → Plain ms →
    lib.parseToJsonElement (Utf8.bytes text) = some (.object (objectOf ms))

/-! ## §3 — a frame as the client receives it -/

section Frame

variable {Interaction Target : Type}
variable (interactionJson : Interaction → Json) (targetJson : Target → Json)

def maybeNull {α : Type} (json : α → Json) : MaybeNull α → Json
  | .null => .null
  | .value a => json a

/-- The members of a frame; those without a value are not written. -/
def frameFields (f : PaneContent Interaction Target) : List (String × Option Json) :=
  [("ack_required", f.ackRequired.map .bool),
   ("attention_kind", f.attentionKind.map .str),
   ("command", f.command.map .str),
   ("content", f.content.map .str),
   ("content_fingerprint", f.contentFingerprint.map .str),
   ("encoding", f.encoding.map .str),
   ("error", f.error.map .str),
   ("format", f.format.map .str),
   ("interaction", f.interaction.map (maybeNull interactionJson)),
   ("no_echo", f.noEcho.map .bool),
   ("no_echo_prompt", f.noEchoPrompt.map .str),
   ("options", f.options.map (maybeNull fun texts => .arr (texts.map .str))),
   ("pane_id", f.paneId.map .str),
   ("payload", f.payload.map .str),
   ("prompt", f.prompt.map .str),
   ("question_layout", f.questionLayout.map .bool),
   ("resize_settling", f.resizeSettling.map .bool),
   ("target", f.target.map (maybeNull targetJson)),
   ("truncated", f.truncated.map .bool),
   ("type", some (.str f.type)),
   ("viewport_only", f.viewportOnly.map .bool),
   ("viewport_rows", f.viewportRows.map .num)]

def presentFields (fields : List (String × Option Json)) : JsonObject :=
  fields.filterMap fun field => field.2.map fun v => (field.1, elementOf v)

def frameObject (f : PaneContent Interaction Target) : JsonObject :=
  presentFields (frameFields interactionJson targetJson f)

theorem presentFields_some (k : String) (v : Json) (fields : List (String × Option Json)) :
    presentFields ((k, some v) :: fields) = (k, elementOf v) :: presentFields fields := rfl

theorem member_presentFields {fields : List (String × Option Json)}
    (h : (fields.map Prod.fst).Nodup) (key : String) :
    member (presentFields fields) key = (fields.lookup key).join.map elementOf := by
  induction fields with
  | nil => rfl
  | cons field fields ih =>
    obtain ⟨k, v⟩ := field
    rw [List.map_cons, List.nodup_cons] at h
    have hrest := ih h.2
    rw [List.lookup_cons]
    by_cases hkey : key = k
    · subst hkey
      rw [beq_self_eq_true]
      cases v with
      | some v =>
        rw [presentFields_some, member_cons, if_pos rfl]
        rfl
      | none =>
        have habsent : fields.lookup key = none := by
          rw [List.lookup_eq_none_iff]
          intro field hfield
          refine bne_iff_ne.mpr fun heq => h.1 ?_
          show key ∈ fields.map Prod.fst
          rw [heq]
          exact List.mem_map_of_mem hfield
        rw [habsent] at hrest
        exact hrest
    · rw [beq_false_of_ne hkey]
      cases v with
      | some v =>
        rw [presentFields_some, member_cons, if_neg hkey]
        exact hrest
      | none => exact hrest

theorem nodup_frameFields (f : PaneContent Interaction Target) :
    ((frameFields interactionJson targetJson f).map Prod.fst).Nodup := by
  show ["ack_required", "attention_kind", "command", "content", "content_fingerprint", "encoding",
    "error", "format", "interaction", "no_echo", "no_echo_prompt", "options", "pane_id", "payload",
    "prompt", "question_layout", "resize_settling", "target", "truncated", "type", "viewport_only",
    "viewport_rows"].Nodup
  decide +kernel

theorem member_frameObject (f : PaneContent Interaction Target) (key : String) :
    member (frameObject interactionJson targetJson f) key
      = ((frameFields interactionJson targetJson f).lookup key).join.map elementOf :=
  member_presentFields (nodup_frameFields interactionJson targetJson f) key

/-- **Folding touches three members.** -/
theorem lookup_frameFields_fold (f : PaneContent Interaction Target) (payload : Text) {key : String}
    (hcontent : key ≠ "content") (hencoding : key ≠ "encoding") (hpayload : key ≠ "payload") :
    (frameFields interactionJson targetJson (f.fold payload)).lookup key
      = (frameFields interactionJson targetJson f).lookup key := by
  simp only [frameFields, PaneContent.fold, List.lookup_cons, beq_false_of_ne hcontent,
    beq_false_of_ne hencoding, beq_false_of_ne hpayload]

theorem member_of_lookup {f : PaneContent Interaction Target} {key : String} {value : Option Text}
    (h : (frameFields interactionJson targetJson f).lookup key = some (value.map .str)) :
    member (frameObject interactionJson targetJson f) key
      = value.map fun text => .string (utf16 text) := by
  rw [member_frameObject, h]
  cases value with
  | none => rfl
  | some text => simp [elementOf]

section

variable (f : PaneContent Interaction Target)

theorem member_content :
    member (frameObject interactionJson targetJson f) "content"
      = f.content.map fun text => .string (utf16 text) :=
  member_of_lookup interactionJson targetJson (by simp [frameFields, List.lookup_cons])

theorem member_encoding :
    member (frameObject interactionJson targetJson f) "encoding"
      = f.encoding.map fun text => .string (utf16 text) :=
  member_of_lookup interactionJson targetJson (by simp [frameFields, List.lookup_cons])

theorem member_payload :
    member (frameObject interactionJson targetJson f) "payload"
      = f.payload.map fun text => .string (utf16 text) :=
  member_of_lookup interactionJson targetJson (by simp [frameFields, List.lookup_cons])

theorem stringMember_encoding_fold (payload : Text) :
    stringMember (frameObject interactionJson targetJson (f.fold payload)) "encoding"
      = some (utf16 encodingName) := by
  rw [stringMember, member_encoding]
  rfl

theorem stringMember_payload_fold (payload : Text) :
    stringMember (frameObject interactionJson targetJson (f.fold payload)) "payload"
      = some (utf16 payload) := by
  rw [stringMember, member_payload]
  rfl

end

/-- **The restored object is the frame's**, member by member. -/
theorem member_restoredObject {f : PaneContent Interaction Target} {content : Text}
    (hencoding : f.encoding = none) (hcontent : f.content = some content)
    (hpayload : f.payload = none) (payload : Text) (key : String) :
    member (restoredObject (frameObject interactionJson targetJson (f.fold payload))
        (objectOf (Payload.mk (some content)).members)) key
      = member (frameObject interactionJson targetJson f) key := by
  have hmembers : member (objectOf (Payload.mk (some content)).members) "content"
      = some (.string (utf16 content)) := by
    have hkey : String.ofList contentKey = "content" := by decide +kernel
    simp only [Payload.members, objectOf, hkey, elementOf, member_cons, if_true]
  have hfilter := member_filter (frameObject interactionJson targetJson (f.fold payload))
    (fun k => k ≠ "encoding" && k ≠ "payload") key
  simp only [restoredObject, hmembers, member_putMember]
  by_cases hc : key = "content"
  · subst hc
    rw [if_pos rfl, member_content, hcontent, Option.map_some]
  rw [if_neg hc, hfilter]
  by_cases he : key = "encoding"
  · subst he
    rw [if_neg (by decide), member_encoding, hencoding, Option.map_none]
  by_cases hp : key = "payload"
  · subst hp
    rw [if_neg (by decide), member_payload, hpayload, Option.map_none]
  rw [if_pos (by simp [he, hp]), member_frameObject, member_frameObject,
    lookup_frameFields_fold interactionJson targetJson f payload hc he hp]

variable {zstd : Zstd} {lib : FrameLib} {fromSlice : Bytes → Option Payload}

theorem FrameLib.Lawful.decode_encodePadded (hlib : lib.Lawful zstd) (bytes : Bytes) :
    lib.basicDecode (utf16 (Base64.encodePadded bytes)) = some bytes := by
  rw [hlib.basicDecode _ fun c hc => Base64.toNat_lt_of_mem_encodePadded hc,
    Base64.decodePadded_encodePadded]

theorem decompressPaneContentPayload_fold (hlib : lib.Lawful zstd)
    (f : PaneContent Interaction Target) {content : Text}
    (hlength : (payloadBytes content).length ≤ maxInflated) :
    decompressPaneContentPayload lib (frameObject interactionJson targetJson
        (f.fold (Base64.encodePadded (zstd.compress (payloadBytes content)))))
      = .ok (restoredObject (frameObject interactionJson targetJson
          (f.fold (Base64.encodePadded (zstd.compress (payloadBytes content)))))
          (objectOf (Payload.mk (some content)).members)) := by
  have hplain : Plain (Payload.mk (some content)).members := ⟨rfl, List.nodup_singleton _⟩
  have hparse : lib.parseToJsonElement (payloadBytes content)
      = some (.object (objectOf (Payload.mk (some content)).members)) :=
    hlib.parse _ _ (Json.parse_print escapes_goFormat _) hplain
  have hinflate := hlib.decompress (payloadBytes content) maxInflated
  rw [if_pos hlength] at hinflate
  simp only [decompressPaneContentPayload, stringMember_encoding_fold, stringMember_payload_fold,
    ne_eq, not_true_eq_false, if_false, hlib.decode_encodePadded, hinflate, hparse]

theorem decompressPaneContentPayload_fold_large (hlib : lib.Lawful zstd)
    (f : PaneContent Interaction Target) {content : Text}
    (hlength : maxInflated < (payloadBytes content).length) :
    decompressPaneContentPayload lib (frameObject interactionJson targetJson
        (f.fold (Base64.encodePadded (zstd.compress (payloadBytes content)))))
      = .error .inflate := by
  have hinflate := hlib.decompress (payloadBytes content) maxInflated
  rw [if_neg (Nat.not_le_of_lt hlength)] at hinflate
  simp only [decompressPaneContentPayload, stringMember_encoding_fold, stringMember_payload_fold,
    ne_eq, not_true_eq_false, if_false, hlib.decode_encodePadded, hinflate]

/-! ## §4 — both decoders -/

/-- **Compressed frames restore.** Of a frame that `compress_payload` transforms, the relay's own
decoder returns the frame and the client's an object with the same members, exactly when the
serialized payload is within the inflate cap and the frame had no `payload` member. -/
theorem compressed_frames_restore (hzstd : zstd.Lawful)
    (hserde : Serde fromSlice Payload.ofMembers) (hlib : lib.Lawful zstd)
    {f f' : PaneContent Interaction Target} (hf : f.compressPayload zstd = (f', true)) :
    (f'.decompressPayload zstd fromSlice = (f, .ok true) ∧
      ∃ restored,
        decompressPaneContentPayload lib (frameObject interactionJson targetJson f')
          = .ok restored ∧
        ∀ key, member restored key = member (frameObject interactionJson targetJson f) key) ↔
    (∀ content ∈ f.content, (payloadBytes content).length ≤ maxInflated) ∧ f.payload = none := by
  obtain ⟨content, hencoding, hcontent, rfl⟩ := compressPayload_eq_true hf
  constructor
  · rintro ⟨hrelay, -⟩
    have hlength : (payloadBytes content).length ≤ maxInflated := by
      refine Nat.le_of_not_lt fun hlarge => ?_
      have hresult := congrArg Prod.snd hrelay
      rw [decompressPayload_fold_large hzstd hlarge] at hresult
      cases hresult
    rw [decompressPayload_fold hzstd hserde hlength] at hrelay
    refine ⟨fun content' hcontent' => ?_, ?_⟩
    · obtain rfl := Option.some.inj (hcontent.symm.trans hcontent')
      exact hlength
    · exact (congrArg PaneContent.payload (Prod.mk.inj hrelay).1).symm
  · rintro ⟨hcap, hpayload⟩
    have hlength := hcap content hcontent
    refine ⟨?_, _, decompressPaneContentPayload_fold interactionJson targetJson hlib f hlength, ?_⟩
    · rw [decompressPayload_fold hzstd hserde hlength, unfold_of_plain hencoding hcontent hpayload]
    · exact member_restoredObject interactionJson targetJson hencoding hcontent hpayload _

end Frame

/-! ### A compressor that stores -/

/-- What an inflater of stored bytes gives. -/
def storedInflate (compressed : Bytes) (capacity : Nat) : Option Bytes :=
  if compressed.length ≤ capacity then some compressed else none

def storedZstd : Zstd := ⟨id, storedInflate⟩

theorem lawful_storedZstd : storedZstd.Lawful := fun _ _ => rfl

def storedLib : FrameLib where
  basicDecode units := Base64.decodePadded true true (E2ee.ofUnits units)
  decompress := storedInflate
  parseToJsonElement raw := (Rust.readObject raw).map fun ms => .object (objectOf ms)

theorem lawful_storedLib : storedLib.Lawful storedZstd where
  basicDecode text h := by
    show Base64.decodePadded true true (E2ee.ofUnits (utf16 text)) = _
    rw [E2ee.ofUnits_utf16 h]
  decompress _ _ := rfl
  parse text ms htext _ := by
    show (Rust.readObject (Utf8.bytes text)).map _ = _
    rw [Rust.readObject_bytes htext, Option.map_some]

/-- `serde_json::from_slice` for a `Payload`. -/
def storedFromSlice (raw : Bytes) : Option Payload := (Rust.readObject raw).bind Payload.ofMembers

def paneFrame (content : Text) : PaneContent Unit Unit :=
  { type := "pane_content".toList, paneId := some ['p', '1'],
    content := some content, ackRequired := some true }

def noJson (_ : Unit) : Json := .null

theorem compressed_frames_restore_sample :
    ((paneFrame ['h', 'i']).compressPayload storedZstd).1.decompressPayload storedZstd
      storedFromSlice = (paneFrame ['h', 'i'], .ok true) :=
  ((compressed_frames_restore noJson noJson lawful_storedZstd
    (Rust.serde_readObject Payload.ofMembers) lawful_storedLib
    (f := paneFrame ['h', 'i']) rfl).mpr ⟨fun content hcontent => by
      obtain rfl := Option.some.inj hcontent
      decide, rfl⟩).1

/-- As many characters as the cap has bytes. -/
def largeContent : Text := List.replicate maxInflated 'a'

/-- **A frame that neither decoder restores**: the payload of four mebibytes of text is past the
cap, and the relay compresses it all the same. -/
theorem large_frame_lost :
    ∃ f', (paneFrame largeContent).compressPayload storedZstd = (f', true) ∧
      (f'.decompressPayload storedZstd storedFromSlice).2 = .error .inflate ∧
      decompressPaneContentPayload storedLib (frameObject noJson noJson f') = .error .inflate := by
  have hlength : maxInflated < (payloadBytes largeContent).length := by
    have hle := length_le_payloadBytes largeContent
    rw [largeContent, List.length_replicate] at hle
    rw [largeContent]
    omega
  exact ⟨_, rfl, decompressPayload_fold_large lawful_storedZstd hlength,
    decompressPaneContentPayload_fold_large noJson noJson lawful_storedLib _ hlength⟩

end Lerdr.Terminal.FrameZstd
