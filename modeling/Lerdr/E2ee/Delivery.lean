/-
# Lerdr.E2ee.Delivery — frames of the client at the relay: opened in turn, refused out of turn.

The client's session (`E2EESession.kt`) seals, the relay's (`session.rs`) opens. A frame with the
next sequence opens to the plaintext it was sealed from; a frame with any other sequence is refused,
and the relay's session stays where it was. Who loses or reorders frames on the way is not decided
here.
-/
import Lerdr.E2ee.Session
import Lerdr.Lib.Consecutive

namespace Lerdr.E2ee

open Lib

variable {cipher : Cipher} {rust : RustLib} {kotlin : KotlinLib}

/-! ## §1 — the envelope -/

/-- The relay's JSON and base64 libraries read what the client's write. -/
structure Reads (rust : RustLib) (kotlin : KotlinLib) : Prop where
  fromSlice : ∀ sequence ciphertext, sequence ≤ maxSequence →
    rust.fromSlice (jsonFrame sequence (encodeJsonString (kotlin.urlEncode ciphertext))) =
      some { type := "e2ee".toList, version := version, sequence,
             ciphertext := kotlin.urlEncode ciphertext }
  rawUrlDecode : ∀ ciphertext, rust.rawUrlDecode (kotlin.urlEncode ciphertext) = some ciphertext

theorem binaryFrame_parts (n : Nat) (ciphertext : Bytes) :
    ¬ (binaryFrame n ciphertext).length < binaryHeaderSize ∧
    ((binaryFrame n ciphertext).drop 2).take 8 = BigEndian.toBytes 8 n ∧
    (binaryFrame n ciphertext).drop binaryHeaderSize = ciphertext := by
  simp [binaryFrame, binaryHeaderSize]

theorem decode_binaryFrame {n : Nat} (hn : n ≤ maxSequence) (ciphertext : Bytes) :
    Codec.decode rust .binary (binaryFrame n ciphertext) = .ok (n, ciphertext) := by
  obtain ⟨hlong, hheader, hrest⟩ := binaryFrame_parts n ciphertext
  have hfits : n < 256 ^ 8 := by
    simp only [maxSequence] at hn
    omega
  simp only [Codec.decode, if_neg hlong, hheader, hrest, BigEndian.ofBytes_toBytes hfits]
  rfl

/-- **The relay reads the envelope the client wrote.** -/
theorem decode_encodeFrame {codec : Codec} (hreads : codec = .json → Reads rust kotlin) {n : Nat}
    (hn : n ≤ maxSequence) (ciphertext : Bytes) :
    codec.decode rust (codec.encodeFrame kotlin n ciphertext) = .ok (n, ciphertext) := by
  cases codec with
  | binary => exact decode_binaryFrame hn ciphertext
  | json =>
    obtain ⟨hslice, hdecode⟩ := hreads rfl
    simp only [Codec.decode, Codec.encodeFrame, Int.toNat_natCast, hslice n ciphertext hn, hdecode]
    rfl

/-! ## §2 — a frame, and the call of the cipher behind it -/

/-- A sealed frame. Only its bytes travel; the rest is what they were made from. -/
structure Frame where
  raw : Bytes
  sequence : Nat
  call : AeadCall
  deriving DecidableEq

/-- The relay's session is the client's peer: same key, direction and envelope. -/
structure Peers (client : E2EESession) (relay : Session) : Prop where
  key : relay.receive = client.sendKey
  direction : relay.receiveDirection = client.sendDirection
  codec : relay.codec = client.codec

/-- The frame is one the client sealed. -/
structure Genuine (kotlin : KotlinLib) (client : E2EESession) (f : Frame) : Prop where
  max : f.sequence ≤ maxSequence
  raw : f.raw = client.codec.encodeFrame kotlin f.sequence f.call.ciphertext
  key : f.call.key = client.sendKey
  nonce : f.call.nonce = frameNonce f.sequence
  aad : f.call.aad = aad client.sendDirection f.sequence

/-- Calls under the client's key: one for each nonce, all below the sequence it is to use next. -/
structure Recorded (client : E2EESession) (calls : List AeadCall) (next : Nat) : Prop where
  below : ∀ c ∈ calls, c.key = client.sendKey → ∃ m < next, m ≤ maxSequence ∧ c.nonce = frameNonce m
  single : ∀ c ∈ calls, ∀ c' ∈ calls, c.key = client.sendKey → c'.key = client.sendKey →
    c.nonce = c'.nonce → c = c'

/-- The same client, at another sequence. -/
def E2EESession.atSequence (client : E2EESession) (sequence : Int) : E2EESession :=
  { client with sendSequence := sequence }

variable {client : E2EESession} {relay : Session} {calls : List AeadCall} {f : Frame} {n : Nat}

/-- **One `seal` of the client**: a genuine frame under the sequence, which then moves on. -/
theorem E2EESession.sealFrame_ok {client' : E2EESession} {plaintext raw : Bytes} {call : AeadCall}
    (h : client.sealFrame cipher kotlin plaintext = (client', .ok (raw, call))) :
    ∃ n : Nat, client.sendSequence = n ∧ Genuine kotlin client ⟨raw, n, call⟩ ∧
      call.plaintext = plaintext ∧ client' = client.atSequence (n + 1) := by
  unfold E2EESession.sealFrame at h
  split at h
  · cases h
  rename_i hrange
  obtain ⟨n, hn⟩ := Int.eq_ofNat_of_zero_le (show 0 ≤ client.sendSequence by omega)
  have hmax : n ≤ maxSequence := by omega
  simp only [hn, Int.toNat_natCast] at h
  split at h
  · cases h
  · simp only [Prod.mk.injEq, Except.ok.injEq] at h
    obtain ⟨rfl, rfl, rfl⟩ := h
    refine ⟨n, hn, ⟨hmax, rfl, rfl, rfl, rfl⟩, rfl, ?_⟩
    rw [Endpoint.plus_one_eq hmax]
    rfl

theorem Recorded.append (h : Recorded client calls n) {call : AeadCall} (hn : n ≤ maxSequence)
    (hnonce : call.nonce = frameNonce n) : Recorded client (calls ++ [call]) (n + 1) := by
  -- a nonce below the sequence is not the one of the new call
  have hnew : ∀ c ∈ calls, c.key = client.sendKey → c.nonce ≠ call.nonce := by
    intro c hc hkey heq
    obtain ⟨m, hm, hmax, hcnonce⟩ := h.below c hc hkey
    have := frameNonce_inj hmax hn (hcnonce.symm.trans (heq.trans hnonce))
    omega
  refine ⟨?_, ?_⟩
  · intro c hc hkey
    rcases List.mem_append.mp hc with hold | hlast
    · obtain ⟨m, hm, hrest⟩ := h.below c hold hkey
      exact ⟨m, by omega, hrest⟩
    · obtain rfl := List.mem_singleton.mp hlast
      exact ⟨n, by omega, hn, hnonce⟩
  · intro c hc c' hc' hkey hkey' heq
    rcases List.mem_append.mp hc with hold | hlast <;>
      rcases List.mem_append.mp hc' with hold' | hlast'
    · exact h.single c hold c' hold' hkey hkey' heq
    · obtain rfl := List.mem_singleton.mp hlast'
      exact absurd heq (hnew c hold hkey)
    · obtain rfl := List.mem_singleton.mp hlast
      exact absurd heq.symm (hnew c' hold' hkey')
    · rw [List.mem_singleton.mp hlast, List.mem_singleton.mp hlast']

/-! ## §3 — at the relay -/

section

variable (hreads : client.codec = .json → Reads rust kotlin) (hpeers : Peers client relay)
  (hf : Genuine kotlin client f)
include hreads hpeers hf

/-- **Out of turn**: refused, and nothing changes. -/
theorem Session.openFrame_out_of_turn (hturn : f.sequence ≠ relay.receiveSequence) :
    relay.openFrame calls rust f.raw
      = (relay, .error (.invalidSequence relay.receiveSequence f.sequence)) := by
  have hdecode := decode_encodeFrame hreads hf.max f.call.ciphertext
  rw [← hf.raw, ← hpeers.codec] at hdecode
  simp only [Session.openFrame, hdecode, if_pos (Or.inr hturn)]

/-- **In turn**: opened to the plaintext it was sealed from. -/
theorem Session.openFrame_in_turn (hcall : f.call ∈ calls)
    (hcalls : Recorded client calls n) (hturn : f.sequence = relay.receiveSequence) :
    relay.openFrame calls rust f.raw
      = ({ relay with receiveSequence := relay.receiveSequence + 1 }, .ok f.call.plaintext) := by
  have hdecode := decode_encodeFrame hreads hf.max f.call.ciphertext
  rw [← hf.raw, ← hpeers.codec] at hdecode
  have hpass : ¬ (maxSequence < f.sequence ∨ f.sequence ≠ relay.receiveSequence) := by
    rw [not_or, not_not]
    exact ⟨Nat.not_lt.mpr hf.max, hturn⟩
  have hopen : idealOpen calls relay.receive (frameNonce f.sequence)
      (E2ee.aad relay.receiveDirection f.sequence) f.call.ciphertext = some f.call.plaintext := by
    rw [hpeers.key, hpeers.direction]
    unfold idealOpen
    cases hfind : calls.find? fun c => decide (c.key = client.sendKey ∧
        c.nonce = frameNonce f.sequence ∧ c.aad = E2ee.aad client.sendDirection f.sequence ∧
        c.ciphertext = f.call.ciphertext) with
    | none =>
      -- the frame's own call is there
      have hmiss := List.find?_eq_none.mp hfind f.call hcall
      simp [hf.key, hf.nonce, hf.aad] at hmiss
    | some c =>
      have hmatch := List.find?_some hfind
      simp only [decide_eq_true_eq] at hmatch
      have hsame : c = f.call :=
        hcalls.single c (List.mem_of_find?_eq_some hfind) f.call hcall hmatch.1 hf.key
          (hmatch.2.1.trans hf.nonce.symm)
      rw [hsame, Option.map_some]
  simp only [Session.openFrame, hdecode, if_neg hpass, hopen]

end

/-- The relay opens frames one after the other, up to the first it refuses. -/
def Session.openAll (calls : List AeadCall) (rust : RustLib) :
    Session → List Bytes → Except E2eeError (Session × List Bytes)
  | s, [] => .ok (s, [])
  | s, raw :: raws =>
    match s.openFrame calls rust raw with
    | (_, .error e) => .error e
    | (s, .ok plaintext) =>
      match s.openAll calls rust raws with
      | .error e => .error e
      | .ok (s, plaintexts) => .ok (s, plaintext :: plaintexts)

/-- **Frames without a gap are all opened**, to what they were sealed from. -/
theorem Session.openAll_consecutive (hreads : client.codec = .json → Reads rust kotlin)
    (hcalls : Recorded client calls n) {fs : List Frame} (hpeers : Peers client relay)
    (hfs : ∀ f ∈ fs, Genuine kotlin client f ∧ f.call ∈ calls)
    (hconsecutive : Consecutive Frame.sequence relay.receiveSequence fs) :
    relay.openAll calls rust (fs.map Frame.raw)
      = .ok ({ relay with receiveSequence := relay.receiveSequence + fs.length },
          fs.map (·.call.plaintext)) := by
  induction fs generalizing relay with
  | nil => rfl
  | cons f fs ih =>
    obtain ⟨hgenuine, hcall⟩ := hfs f List.mem_cons_self
    have hpeers' : Peers client { relay with receiveSequence := relay.receiveSequence + 1 } :=
      ⟨hpeers.key, hpeers.direction, hpeers.codec⟩
    have hrest := ih hpeers' (fun g hg => hfs g (List.mem_cons_of_mem _ hg)) hconsecutive.2
    have hshift : relay.receiveSequence + 1 + fs.length
        = relay.receiveSequence + (f :: fs).length := by
      simp only [List.length_cons]
      omega
    simp only [hshift] at hrest
    simp only [List.map_cons, Session.openAll,
      openFrame_in_turn hreads hpeers hgenuine hcall hcalls hconsecutive.1, hrest]

/-! ### A client and a relay after their handshake -/

/-- A cipher that hides nothing. -/
def openCipher : Cipher := fun _ _ _ plaintext => some plaintext

/-- The client's finish was its frame 0. -/
def sampleClient : E2EESession :=
  (E2EESession.client (List.replicate 32 0x11) (List.replicate 32 0x22) .json).atSequence 1

/-- The relay's side of it. -/
def sampleRelay : Session where
  send := List.replicate 32 0x22
  receive := List.replicate 32 0x11
  codec := .json
  sendDirection := .s2c
  receiveDirection := .c2s
  sendSequence := 1
  receiveSequence := 1

theorem peers_sample : Peers sampleClient sampleRelay := ⟨rfl, rfl, rfl⟩

theorem recorded_nil (client : E2EESession) (next : Nat) : Recorded client [] next :=
  ⟨List.forall_mem_nil _, List.forall_mem_nil _⟩

end Lerdr.E2ee
