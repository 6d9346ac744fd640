/-
# Lerdr.Core.FrameZstd — the relay's compressed pane frames (`lerdr-core/src/framezstd.rs`).

A `pane_content` keeps its envelope in the clear while `content` folds into `payload`: base64 of a
zstd frame whose plaintext is `{"content":"…"}`. `compress_payload` folds any content there is; the
inverse inflates at most `MAX_INFLATED` bytes. So a frame comes back only if the serialized payload
is no longer than that, and `compress_payload` does not look (`decompressPayload_fold`,
`decompressPayload_fold_large`).

zstd and serde's reader are libraries and enter as parameters. JSON text is written as Go writes it
(`lerdr-core/src/json.rs`), in the loop of serde's writer, which is a definition.
-/
import Lerdr.E2ee.Agreement

namespace Lerdr.Core

open Lib Lerdr.Rust

/-! ## §1 — Go's JSON -/

inductive CharEscape where
  | quote
  | reverseSolidus
  | solidus
  | backspace
  | formFeed
  | lineFeed
  | carriageReturn
  | tab
  | asciiControl (byte : Nat)
  deriving DecidableEq, Repr

/-- What serde itself escapes. -/
def charEscape? (c : Char) : Option CharEscape :=
  if c = '"' then some .quote
  else if c = '\\' then some .reverseSolidus
  else if c.toNat = 0x08 then some .backspace
  else if c = '\t' then some .tab
  else if c = '\n' then some .lineFeed
  else if c.toNat = 0x0c then some .formFeed
  else if c = '\r' then some .carriageReturn
  else if c.toNat < 0x20 then some (.asciiControl c.toNat)
  else none

/-- `GoFormatter::write_char_escape` — every control byte but three by its digits. -/
def writeCharEscape : CharEscape → Text
  | .quote => ['\\', '"']
  | .reverseSolidus => ['\\', '\\']
  | .solidus => ['/']
  | .backspace => ['\\', 'u', '0', '0', '0', '8']
  | .formFeed => ['\\', 'u', '0', '0', '0', 'c']
  | .lineFeed => ['\\', 'n']
  | .carriageReturn => ['\\', 'r']
  | .tab => ['\\', 't']
  | .asciiControl byte =>
    ['\\', 'u', '0', '0', E2ee.hexDigit (byte / 16), E2ee.hexDigit (byte % 16)]

/-- What Go escapes for HTML. -/
def htmlEscape? (c : Char) : Option Text :=
  if c = '<' then some ['\\', 'u', '0', '0', '3', 'c']
  else if c = '>' then some ['\\', 'u', '0', '0', '3', 'e']
  else if c = '&' then some ['\\', 'u', '0', '0', '2', '6']
  else if c.toNat = 0x2028 then some ['\\', 'u', '2', '0', '2', '8']
  else if c.toNat = 0x2029 then some ['\\', 'u', '2', '0', '2', '9']
  else none

/-- A scan that keeps back the run since the last escape. -/
def flushRuns (escape? : Char → Option Text) (flush : Text → Text) : Text → Text → Text
  | run, [] => flush run
  | run, c :: rest =>
    match escape? c with
    | none => flushRuns escape? flush (run ++ [c]) rest
    | some escape => flush run ++ escape ++ flushRuns escape? flush [] rest

def writeStringFragment (fragment : Text) : Text := flushRuns htmlEscape? id [] fragment

/-- `serde_json`'s `format_escaped_str`, which hands the runs between its own escapes on. -/
def formatEscapedStr (s : Text) : Text :=
  let flush run := if run = [] then [] else writeStringFragment run
  '"' :: (flushRuns (fun c => (charEscape? c).map writeCharEscape) flush [] s ++ ['"'])

/-- `GoFormatter::write_string_fragment`, one character of it. -/
def writeFragmentChar (c : Char) : Text := (htmlEscape? c).getD [c]

/-- One character of a string literal. -/
def goFormat (c : Char) : Text :=
  match charEscape? c with
  | some escape => writeCharEscape escape
  | none => writeFragmentChar c

def toVec (v : Json) : Bytes := Utf8.bytes (Json.print goFormat v)

section Wide

variable {c : Char} (h : ¬ c.toNat < 0x80)
include h

theorem ne_of_wide : c ≠ '"' ∧ c ≠ '\\' ∧ c ≠ '\n' ∧ c ≠ '\r' ∧ c ≠ '\t' ∧ c ≠ '<' ∧ c ≠ '>' ∧
    c ≠ '&' := by
  refine ⟨?_, ?_, ?_, ?_, ?_, ?_, ?_, ?_⟩ <;> (rintro rfl; exact h (by decide))

/-- **Past ASCII** only the two separators are escaped. -/
theorem goEscapeChar_wide : E2ee.goEscapeChar c = (htmlEscape? c).getD [c] := by
  have hcontrol : ¬ c.toNat < 0x20 := by omega
  simp only [E2ee.goEscapeChar, htmlEscape?, ne_of_wide h, hcontrol, if_false]
  split_ifs <;> rfl

theorem charEscape?_wide : charEscape? c = none := by
  simp only [charEscape?, ne_of_wide h, if_false]
  rw [if_neg (by omega), if_neg (by omega), if_neg (by omega)]

end Wide

/-- The two crates escape alike. -/
theorem goFormat_eq_goEscapeChar (c : Char) : goFormat c = E2ee.goEscapeChar c := by
  by_cases hascii : c.toNat < 0x80
  · have hall : ∀ n < 0x80, goFormat (Char.ofNat n) = E2ee.goEscapeChar (Char.ofNat n) := by decide
    rw [← Char.ofNat_toNat c]
    exact hall _ hascii
  · rw [goFormat, charEscape?_wide hascii, goEscapeChar_wide hascii]
    rfl

theorem escapes_goFormat : Json.Escapes goFormat := by
  have heq : goFormat = E2ee.goEscapeChar := funext goFormat_eq_goEscapeChar
  rw [heq]
  exact E2ee.escapes_goEscapeChar

/-- **A scan in runs is one by characters.** -/
theorem flushRuns_eq {escape? : Char → Option Text} {flush : Text → Text} {f : Char → Text}
    (hflush : ∀ run, flush run = run.flatMap f) (run s : Text) :
    flushRuns escape? flush run s = run.flatMap f ++ s.flatMap fun c => (escape? c).getD (f c) := by
  induction s generalizing run with
  | nil => rw [flushRuns, hflush, List.flatMap_nil, List.append_nil]
  | cons c s ih =>
    rw [flushRuns, List.flatMap_cons]
    cases escape? c with
    | none => simp only [ih, List.flatMap_append, List.flatMap_singleton, List.append_assoc,
        Option.getD_none]
    | some escape => simp only [ih, hflush, List.flatMap_nil, List.nil_append, List.append_assoc,
        Option.getD_some]

theorem writeStringFragment_eq (fragment : Text) :
    writeStringFragment fragment = fragment.flatMap writeFragmentChar := by
  have hid : ∀ run : Text, id run = run.flatMap fun c => [c] := by simp
  exact flushRuns_eq hid [] fragment

/-- **What serde writes with the formatter**, whatever the fragments are. -/
theorem formatEscapedStr_eq (s : Text) : formatEscapedStr s = E2ee.escapeString s := by
  have hflush : ∀ run : Text, (if run = [] then [] else writeStringFragment run)
      = run.flatMap writeFragmentChar := by
    intro run
    split
    · rename_i hrun
      rw [hrun, List.flatMap_nil]
    · exact writeStringFragment_eq run
  have hchar : (fun c => ((charEscape? c).map writeCharEscape).getD (writeFragmentChar c))
      = E2ee.goEscapeChar := by
    funext c
    rw [← goFormat_eq_goEscapeChar, goFormat]
    cases charEscape? c <;> rfl
  rw [formatEscapedStr, flushRuns_eq hflush, hchar, E2ee.escapeString, E2ee.goString,
    List.flatMap_nil, List.nil_append, List.cons_append]

/-- A character that may stand in a literal as it is. -/
def Unescaped (c : Char) : Prop :=
  0x20 ≤ c.toNat ∧ c ≠ '<' ∧ c ≠ '>' ∧ c ≠ '&' ∧ c.toNat ≠ 0x2028 ∧ c.toNat ≠ 0x2029

instance (c : Char) : Decidable (Unescaped c) := inferInstanceAs (Decidable (_ ∧ _))

theorem unescaped_of_mem {c d : Char} (h : d ∈ E2ee.goEscapeChar c) : Unescaped d := by
  by_cases hascii : c.toNat < 0x80
  · have hall : ∀ n < 0x80, (E2ee.goEscapeChar (Char.ofNat n)).all (Unescaped ·) := by decide
    rw [← Char.ofNat_toNat c] at h
    exact of_decide_eq_true (List.all_eq_true.mp (hall _ hascii) d h)
  · rw [goEscapeChar_wide hascii] at h
    unfold htmlEscape? at h
    split_ifs at h with hlt hgt hamp hline hparagraph
    all_goals simp only [Option.getD_some, Option.getD_none, List.mem_cons, List.not_mem_nil,
      or_false] at h
    case neg =>
      subst h
      exact ⟨by omega, hlt, hgt, hamp, hline, hparagraph⟩
    all_goals rcases h with rfl | rfl | rfl | rfl | rfl | rfl <;> decide

/-- **The two escapers write one literal**, which is JSON for the text and keeps nothing raw that
Go escapes. -/
theorem escapers_agree (s : Text) :
    Json.parse (formatEscapedStr s) = some (.str s) ∧
      Json.parse (E2ee.escapeString s) = some (.str s) ∧
      (∀ c ∈ formatEscapedStr s, Unescaped c) ∧ (∀ c ∈ E2ee.escapeString s, Unescaped c) ∧
      Utf8.bytes (formatEscapedStr s) = Utf8.bytes (E2ee.escapeString s) := by
  have hparse : Json.parse (E2ee.escapeString s) = some (.str s) := by
    rw [E2ee.escapeString, E2ee.goString_eq_literal]
    exact Json.parse_print E2ee.escapes_goEscapeChar (.str s)
  have hraw : ∀ c ∈ E2ee.escapeString s, Unescaped c := by
    intro c hc
    simp only [E2ee.escapeString, E2ee.goString, List.cons_append, List.mem_cons, List.mem_append,
      List.mem_flatMap, List.not_mem_nil, or_false] at hc
    rcases hc with rfl | ⟨d, -, hc⟩ | rfl
    · decide
    · exact unescaped_of_mem hc
    · decide
  rw [formatEscapedStr_eq]
  exact ⟨hparse, hparse, hraw, hraw, rfl⟩

/-! ## §2 — the frame -/

inductive MaybeNull (α : Type) where
  | null
  | value (a : α)
  deriving DecidableEq, Repr

/-- `PaneContent`. What a question and a target are made of does not matter here. -/
structure PaneContent (Interaction Target : Type) where
  ackRequired : Option Bool := none
  attentionKind : Option Text := none
  command : Option Text := none
  content : Option Text := none
  contentFingerprint : Option Text := none
  encoding : Option Text := none
  error : Option Text := none
  format : Option Text := none
  interaction : Option (MaybeNull Interaction) := none
  noEcho : Option Bool := none
  noEchoPrompt : Option Text := none
  options : Option (MaybeNull (List Text)) := none
  paneId : Option Text := none
  payload : Option Text := none
  prompt : Option Text := none
  questionLayout : Option Bool := none
  resizeSettling : Option Bool := none
  target : Option (MaybeNull Target) := none
  truncated : Option Bool := none
  type : Text := []
  viewportOnly : Option Bool := none
  viewportRows : Option Int := none

/-- `ENCODING`. -/
def encodingName : Text := "zstd".toList

/-- `MAX_INFLATED`, the outbound byte cap. -/
def maxInflated : Nat := 4 * 1024 * 1024

structure Payload where
  content : Option Text := none
  deriving DecidableEq, Repr

def contentKey : Text := "content".toList

/-- `Payload` as serde writes it. -/
def Payload.members (payload : Payload) : Members :=
  match payload.content with
  | none => []
  | some content => [(contentKey, .str content)]

/-- `Payload` as serde fills it: no other member, and `null` for nothing. -/
def Payload.ofMembers (ms : Members) : Option Payload :=
  if ms.all (·.1 = contentKey) then
    match ms.lookup contentKey with
    | none | some .null => some {}
    | some (.str content) => some { content := some content }
    | some _ => none
  else none

inductive FrameZstdError where
  | unknownEncoding (encoding : Text)
  | missingPayload
  | badBase64
  | inflate
  | badPayload
  deriving DecidableEq, Repr

/-- `zstd::bulk` at the level of the frames. -/
structure Zstd where
  compress : Bytes → Bytes
  decompress : Bytes → Nat → Option Bytes

/-- **Decompression inverts compression**, and fails when the output would exceed the capacity. -/
def Zstd.Lawful (zstd : Zstd) : Prop :=
  ∀ plain capacity, zstd.decompress (zstd.compress plain) capacity
    = if plain.length ≤ capacity then some plain else none

variable {Interaction Target : Type}

/-- The bytes that are compressed for a content: `{"content":"…"}`. -/
def payloadBytes (content : Text) : Bytes := toVec (.obj (Payload.mk (some content)).members)

/-- The frame with the payload in place of its content. -/
def PaneContent.fold (f : PaneContent Interaction Target) (payload : Text) :
    PaneContent Interaction Target :=
  { f with content := none, encoding := some encodingName, payload := some payload }

/-- The frame with the content back. -/
def PaneContent.unfold (f : PaneContent Interaction Target) (content : Option Text) :
    PaneContent Interaction Target :=
  { f with content := content, encoding := none, payload := none }

def PaneContent.compressPayload (zstd : Zstd) (f : PaneContent Interaction Target) :
    PaneContent Interaction Target × Bool :=
  if f.encoding.isSome then (f, false)
  else
    match f.content with
    | none => (f, false)
    | some content =>
      (f.fold (Base64.encodePadded (zstd.compress (payloadBytes content))), true)

/-- `PaneContent::decompress_payload`. An error leaves the frame as it was. -/
def PaneContent.decompressPayload (zstd : Zstd) (fromSlice : Bytes → Option Payload)
    (f : PaneContent Interaction Target) :
    PaneContent Interaction Target × Except FrameZstdError Bool :=
  match f.encoding with
  | none => (f, .ok false)
  | some encoding =>
    if encoding ≠ encodingName then (f, .error (.unknownEncoding encoding))
    else
      match f.payload with
      | none => (f, .error .missingPayload)
      | some payload =>
        match Base64.decodePadded false false payload with
        | none => (f, .error .badBase64)
        | some compressed =>
          match zstd.decompress compressed maxInflated with
          | none => (f, .error .inflate)
          | some json =>
            match fromSlice json with
            | none => (f, .error .badPayload)
            | some payload => (f.unfold payload.content, .ok true)

/-! ## §3 — what comes back -/

section Restore

variable {zstd : Zstd} {fromSlice : Bytes → Option Payload}
  {f f' : PaneContent Interaction Target}

/-- **When a frame is transformed**: it has a content and no encoding. -/
theorem compressPayload_eq_true (h : f.compressPayload zstd = (f', true)) :
    ∃ content, f.encoding = none ∧ f.content = some content ∧
      f' = f.fold (Base64.encodePadded (zstd.compress (payloadBytes content))) := by
  unfold PaneContent.compressPayload at h
  split at h
  · cases h
  rename_i hencoding
  cases hcontent : f.content with
  | none =>
    rw [hcontent] at h
    cases h
  | some content =>
    rw [hcontent] at h
    refine ⟨content, by simpa using hencoding, rfl, ?_⟩
    exact (Prod.mk.inj h).1.symm

theorem fromSlice_payloadBytes (hserde : Serde fromSlice Payload.ofMembers) (content : Text) :
    fromSlice (payloadBytes content) = some { content := some content } := by
  have hplain : Plain (Payload.mk (some content)).members := ⟨rfl, List.nodup_singleton _⟩
  exact hserde.print escapes_goFormat hplain

/-- **A payload within the cap is restored.** -/
theorem decompressPayload_fold (hzstd : zstd.Lawful)
    (hserde : Serde fromSlice Payload.ofMembers) {content : Text}
    (hlength : (payloadBytes content).length ≤ maxInflated) :
    (f.fold (Base64.encodePadded (zstd.compress (payloadBytes content)))).decompressPayload zstd
        fromSlice
      = (f.unfold (some content), .ok true) := by
  have hdecode :=
    Base64.decodePadded_encodePadded false false (zstd.compress (payloadBytes content))
  have hinflate := hzstd (payloadBytes content) maxInflated
  rw [if_pos hlength] at hinflate
  simp only [PaneContent.decompressPayload, PaneContent.fold, ne_eq, not_true_eq_false, if_false,
    hdecode, hinflate, fromSlice_payloadBytes hserde content]
  rfl

/-- **A payload past the cap is refused.** -/
theorem decompressPayload_fold_large (hzstd : zstd.Lawful) {content : Text}
    (hlength : maxInflated < (payloadBytes content).length) :
    ((f.fold (Base64.encodePadded (zstd.compress (payloadBytes content)))).decompressPayload zstd
      fromSlice).2 = .error .inflate := by
  have hdecode :=
    Base64.decodePadded_encodePadded false false (zstd.compress (payloadBytes content))
  have hinflate := hzstd (payloadBytes content) maxInflated
  rw [if_neg (Nat.not_le_of_lt hlength)] at hinflate
  simp only [PaneContent.decompressPayload, PaneContent.fold, ne_eq, not_true_eq_false, if_false,
    hdecode, hinflate]

theorem unfold_of_plain {content : Text} (hencoding : f.encoding = none)
    (hcontent : f.content = some content) (hpayload : f.payload = none) :
    f.unfold (some content) = f := by
  obtain ⟨⟩ := f
  simp_all [PaneContent.unfold]

/-- A payload is at least as long as the content. -/
theorem length_le_payloadBytes (content : Text) :
    content.length + 2 ≤ (payloadBytes content).length := by
  have hliteral := Json.length_le_literal escapes_goFormat content
  have hbytes : ∀ s : Text, s.length ≤ (Utf8.bytes s).length := by
    intro s
    rw [Utf8.bytes, List.length_flatMap, ← s.length_map fun c => (String.utf8EncodeChar c).length]
    exact List.length_le_sum_of_one_le _ (by simp [Nat.succ_le_iff, Char.utf8Size_pos])
  refine Nat.le_trans ?_ (hbytes _)
  simp only [Payload.members, Json.print, Json.printMembers, List.length_cons, List.length_append,
    List.length_nil]
  omega

end Restore

end Lerdr.Core
