/-
# Lerdr.E2ee.Session — the two implementations of the sealed session.

`Session` is the relay's (`session.rs`), `E2EESession` the client's (`E2EESession.kt`): the one
counts in `u64`, compares the sequence for equality and reports one error, the other counts in a
signed `Long`, compares in three steps and tells a replay from a gap. Both advance a counter only
behind a successful cipher call.

AES-256-GCM is idealised. `seal` computes its ciphertext with an arbitrary cipher and hands out the
call it made; `open` succeeds on a ciphertext only if one of the calls made so far, with the same
key, nonce and additional data, produced it. `SealSpec` and `OpenSpec` say what one call of either
implementation does; nothing after them looks inside the two.
-/
import Lerdr.E2ee.Codec

namespace Lerdr.E2ee

open Lerdr.Kotlin (plus plus_eq longMin longMax)

/-- One successful call of the cipher's `seal`. -/
structure AeadCall where
  key : Bytes
  nonce : Bytes
  aad : Bytes
  plaintext : Bytes
  ciphertext : Bytes
  deriving DecidableEq, Repr

/-- A cipher: key, nonce, additional data, plaintext. `none` is a refused call. -/
abbrev Cipher := Bytes → Bytes → Bytes → Bytes → Option Bytes

/-- The ideal `open`: the plaintext of a call that produced this ciphertext. -/
def idealOpen (calls : List AeadCall) (key nonce aad ciphertext : Bytes) : Option Bytes :=
  (calls.find? fun c => c.key = key ∧ c.nonce = nonce ∧ c.aad = aad ∧ c.ciphertext = ciphertext).map
    (·.plaintext)

theorem idealOpen_eq_some {calls : List AeadCall} {key nonce aad ciphertext plaintext : Bytes}
    (h : idealOpen calls key nonce aad ciphertext = some plaintext) :
    ∃ c ∈ calls, c.key = key ∧ c.nonce = nonce ∧ c.aad = aad ∧ c.plaintext = plaintext := by
  obtain ⟨c, hc, rfl⟩ := Option.map_eq_some_iff.mp h
  have hmatch := List.find?_some hc
  simp only [decide_eq_true_eq] at hmatch
  exact ⟨c, List.mem_of_find?_eq_some hc, hmatch.1, hmatch.2.1, hmatch.2.2.1, rfl⟩

/-- `SessionKeys` — one key per direction. -/
structure SessionKeys where
  c2s : Bytes
  s2c : Bytes
  c2s_length : c2s.length = 32
  s2c_length : s2c.length = 32

def SessionKeys.key (keys : SessionKeys) : Direction → Bytes
  | .c2s => keys.c2s
  | .s2c => keys.s2c

def Direction.peer : Direction → Direction
  | .c2s => .s2c
  | .s2c => .c2s

/-! ## §1 — the relay's session -/

structure Session where
  send : Bytes
  receive : Bytes
  codec : Codec
  sendDirection : Direction
  receiveDirection : Direction
  sendSequence : Nat := 0
  receiveSequence : Nat := 0
  deriving DecidableEq, Repr

namespace Session

/-- `Session::new` — explicit keys, directions, codec, zeroed sequences. -/
def new (sendKey receiveKey : Bytes) (sendDirection receiveDirection : Direction) (codec : Codec) :
    Except E2eeError Session :=
  if sendKey.length ≠ 32 ∨ receiveKey.length ≠ 32 then .error .invalidKeyMaterial
  else .ok { send := sendKey, receive := receiveKey, codec, sendDirection, receiveDirection }

/-- `Session::server` — sends `s2c`, receives `c2s`. -/
def server (keys : SessionKeys) (codec : Codec) : Except E2eeError Session :=
  new keys.s2c keys.c2s .s2c .c2s codec

/-- `Session::client` — sends `c2s`, receives `s2c`. -/
def client (keys : SessionKeys) (codec : Codec) : Except E2eeError Session :=
  new keys.c2s keys.s2c .c2s .s2c codec

/-- `Session::sender` — the peer that sends in `direction`. -/
def sender (keys : SessionKeys) (direction : Direction) (codec : Codec) :
    Except E2eeError Session :=
  match direction with
  | .c2s => client keys codec
  | .s2c => server keys codec

/-- `seal`: the next session, and the frame with the cipher call behind it. -/
def sealFrame (cipher : Cipher) (lib : RustLib) (s : Session) (plaintext : Bytes) :
    Session × Except E2eeError (Bytes × AeadCall) :=
  if maxSequence < s.sendSequence then (s, .error .sequenceExhausted)
  else
    let sequence := s.sendSequence
    let nonce := frameNonce sequence
    let aad := aad s.sendDirection sequence
    match cipher s.send nonce aad plaintext with
    -- the counter has not moved, but nothing was sealed under this nonce either
    | none => (s, .error .authentication)
    | some ciphertext =>
      ({ s with sendSequence := s.sendSequence + 1 },
        .ok (s.codec.encode lib sequence ciphertext,
          { key := s.send, nonce, aad, plaintext, ciphertext }))

/-- `open`: envelope, sequence, tag, in this order. -/
def openFrame (calls : List AeadCall) (lib : RustLib) (s : Session) (rawFrame : Bytes) :
    Session × Except E2eeError Bytes :=
  match s.codec.decode lib rawFrame with
  | .error e => (s, .error e)
  | .ok (sequence, ciphertext) =>
    -- equality: a gap is refused like a replay, so nothing is ever skipped
    if maxSequence < sequence ∨ sequence ≠ s.receiveSequence then
      (s, .error (.invalidSequence s.receiveSequence sequence))
    else
      match idealOpen calls s.receive (frameNonce sequence) (aad s.receiveDirection sequence)
          ciphertext with
      | none => (s, .error .authentication)
      | some plaintext =>
        ({ s with receiveSequence := s.receiveSequence + 1 }, .ok plaintext)

end Session

/-! ## §2 — the client's session -/

structure E2EESession where
  sendKey : Bytes
  receiveKey : Bytes
  sendDirection : Direction
  receiveDirection : Direction
  codec : Codec
  sendSequence : Int := 0
  receiveSequence : Int := 0
  deriving DecidableEq, Repr

namespace E2EESession

def client (c2sKey s2cKey : Bytes) (codec : Codec) : E2EESession :=
  { sendKey := c2sKey, receiveKey := s2cKey, sendDirection := .c2s, receiveDirection := .s2c,
    codec }

def server (c2sKey s2cKey : Bytes) (codec : Codec) : E2EESession :=
  { sendKey := s2cKey, receiveKey := c2sKey, sendDirection := .s2c, receiveDirection := .c2s,
    codec }

/-- `seal`. The counter moves between the cipher call and the encoding. -/
def sealFrame (cipher : Cipher) (lib : KotlinLib) (s : E2EESession) (plaintext : Bytes) :
    E2EESession × Except E2eeException (Bytes × AeadCall) :=
  if (maxSequence : Int) < s.sendSequence ∨ s.sendSequence < 0 then (s, .error .sequence)
  else
    let sequence := s.sendSequence
    let nonce := frameNonce sequence.toNat
    let aad := aad s.sendDirection sequence.toNat
    match cipher s.sendKey nonce aad plaintext with
    | none => (s, .error .cipher)
    | some ciphertext =>
      ({ s with sendSequence := plus s.sendSequence 1 },
        .ok (s.codec.encodeFrame lib sequence ciphertext,
          { key := s.sendKey, nonce, aad, plaintext, ciphertext }))

/-- `open`: envelope, ceiling and gap, replay, tag. -/
def openFrame (calls : List AeadCall) (lib : KotlinLib) (s : E2EESession) (rawFrame : Bytes) :
    E2EESession × Except E2eeException Bytes :=
  match s.codec.decodeFrame lib rawFrame with
  | .error e => (s, .error e)
  | .ok (sequence, ciphertext) =>
    if sequence < 0 ∨ (maxSequence : Int) < sequence ∨ s.receiveSequence < sequence then
      (s, .error .sequence)
    else if sequence < s.receiveSequence then (s, .error (.replay sequence s.receiveSequence))
    else
      match idealOpen calls s.receiveKey (frameNonce sequence.toNat)
          (aad s.receiveDirection sequence.toNat) ciphertext with
      | none => (s, .error .auth)
      | some plaintext =>
        ({ s with receiveSequence := plus s.receiveSequence 1 }, .ok plaintext)

end E2EESession

/-! ## §3 — an endpoint of either kind -/

/-- Which implementation runs at an endpoint. -/
inductive Implementation where
  | rust
  | kotlin
  deriving DecidableEq, Repr

/-- A running session of either implementation. -/
inductive Endpoint where
  | rust (session : Session)
  | kotlin (session : E2EESession)
  deriving DecidableEq, Repr

/-- The libraries of both sides. -/
structure Libs where
  rust : RustLib
  kotlin : KotlinLib

namespace Endpoint

/-- The session that sends in `direction`, freshly set up. Keys of 32 bytes are always accepted. -/
def new (keys : SessionKeys) (codec : Codec) (direction : Direction) : Implementation → Endpoint
  | .rust =>
    match Session.sender keys direction codec with
    | .ok s => .rust s
    | .error _ =>
      .rust { send := keys.key direction, receive := keys.key direction.peer, codec,
              sendDirection := direction, receiveDirection := direction.peer }
  | .kotlin =>
    match direction with
    | .c2s => .kotlin (.client keys.c2s keys.s2c codec)
    | .s2c => .kotlin (.server keys.c2s keys.s2c codec)

/-- `seal` at an endpoint: `none` for any error. -/
def sealFrame (cipher : Cipher) (libs : Libs) (e : Endpoint) (plaintext : Bytes) :
    Endpoint × Option (Bytes × AeadCall) :=
  match e with
  | .rust s => let (s, r) := s.sealFrame cipher libs.rust plaintext; (.rust s, r.toOption)
  | .kotlin s => let (s, r) := s.sealFrame cipher libs.kotlin plaintext; (.kotlin s, r.toOption)

/-- `open` at an endpoint: `none` for any error. -/
def openFrame (calls : List AeadCall) (libs : Libs) (e : Endpoint) (rawFrame : Bytes) :
    Endpoint × Option Bytes :=
  match e with
  | .rust s => let (s, r) := s.openFrame calls libs.rust rawFrame; (.rust s, r.toOption)
  | .kotlin s => let (s, r) := s.openFrame calls libs.kotlin rawFrame; (.kotlin s, r.toOption)

def sendKey : Endpoint → Bytes
  | .rust s => s.send
  | .kotlin s => s.sendKey

def receiveKey : Endpoint → Bytes
  | .rust s => s.receive
  | .kotlin s => s.receiveKey

def sendDirection : Endpoint → Direction
  | .rust s => s.sendDirection
  | .kotlin s => s.sendDirection

def receiveDirection : Endpoint → Direction
  | .rust s => s.receiveDirection
  | .kotlin s => s.receiveDirection

def sendSequence : Endpoint → Int
  | .rust s => s.sendSequence
  | .kotlin s => s.sendSequence

def receiveSequence : Endpoint → Int
  | .rust s => s.receiveSequence
  | .kotlin s => s.receiveSequence

/-- Nothing of an endpoint but its counters ever changes. -/
structure SameChannel (e e' : Endpoint) : Prop where
  sendKey : e'.sendKey = e.sendKey
  receiveKey : e'.receiveKey = e.receiveKey
  sendDirection : e'.sendDirection = e.sendDirection
  receiveDirection : e'.receiveDirection = e.receiveDirection

/-- **One `seal`**: refused without a trace, or one cipher call under the send sequence, which is
within the ceiling and then moves on. -/
inductive SealSpec (e : Endpoint) (plaintext : Bytes) :
    Endpoint × Option (Bytes × AeadCall) → Prop
  | refused : SealSpec e plaintext (e, none)
  | sealed {e' : Endpoint} {frame : Bytes} {call : AeadCall} {n : Nat}
      (hseq : e.sendSequence = n) (hmax : n ≤ maxSequence) (same : SameChannel e e')
      (hsend : e'.sendSequence = n + 1) (hreceive : e'.receiveSequence = e.receiveSequence)
      (hkey : call.key = e.sendKey) (hnonce : call.nonce = frameNonce n)
      (haad : call.aad = aad e.sendDirection n) (hplain : call.plaintext = plaintext) :
      SealSpec e plaintext (e', some (frame, call))

/-- **One `open`**: refused without a trace, or the plaintext of a call made under the receive key,
direction and sequence, which then moves on. -/
inductive OpenSpec (e : Endpoint) (calls : List AeadCall) : Endpoint × Option Bytes → Prop
  | refused : OpenSpec e calls (e, none)
  | opened {e' : Endpoint} {call : AeadCall} {n : Nat}
      (hseq : e.receiveSequence = n) (hmax : n ≤ maxSequence) (same : SameChannel e e')
      (hreceive : e'.receiveSequence = n + 1) (hsend : e'.sendSequence = e.sendSequence)
      (hcall : call ∈ calls) (hkey : call.key = e.receiveKey) (hnonce : call.nonce = frameNonce n)
      (haad : call.aad = aad e.receiveDirection n) :
      OpenSpec e calls (e', some call.plaintext)

theorem plus_one_eq {n : Nat} (h : n ≤ maxSequence) : plus (n : Int) 1 = n + 1 := by
  simp only [maxSequence] at h
  exact plus_eq (by simp only [longMin]; omega) (by simp only [longMax]; omega)

theorem sealFrame_spec (cipher : Cipher) (libs : Libs) (e : Endpoint) (plaintext : Bytes) :
    SealSpec e plaintext (e.sealFrame cipher libs plaintext) := by
  cases e with
  | rust s =>
    simp only [sealFrame, Session.sealFrame]
    split
    · exact .refused
    rename_i hmax
    split
    · exact .refused
    · exact .sealed rfl (by omega) ⟨rfl, rfl, rfl, rfl⟩ rfl rfl rfl rfl rfl rfl
  | kotlin s =>
    simp only [sealFrame, E2EESession.sealFrame]
    split
    · exact .refused
    rename_i hrange
    split
    · exact .refused
    obtain ⟨n, hn⟩ := Int.eq_ofNat_of_zero_le (show 0 ≤ s.sendSequence by omega)
    have hmax : n ≤ maxSequence := by omega
    refine .sealed hn hmax ⟨rfl, rfl, rfl, rfl⟩ ?_ rfl rfl ?_ ?_ rfl
    · simp only [sendSequence, hn, plus_one_eq hmax]
    · simp only [hn, Int.toNat_natCast]
    · simp only [hn, Int.toNat_natCast, sendDirection]

theorem openFrame_spec (calls : List AeadCall) (libs : Libs) (e : Endpoint) (rawFrame : Bytes) :
    OpenSpec e calls (e.openFrame calls libs rawFrame) := by
  cases e with
  | rust s =>
    simp only [openFrame, Session.openFrame]
    split
    · exact .refused
    rename_i sequence ciphertext hdecode
    split
    · exact .refused
    rename_i hseq
    have heq : sequence = s.receiveSequence := by omega
    split
    · exact .refused
    · rename_i plaintext hopen
      obtain ⟨call, hcall, hkey, hnonce, haad, rfl⟩ := idealOpen_eq_some hopen
      subst heq
      exact .opened rfl (by omega) ⟨rfl, rfl, rfl, rfl⟩ rfl rfl hcall hkey hnonce haad
  | kotlin s =>
    simp only [openFrame, E2EESession.openFrame]
    split
    · exact .refused
    rename_i sequence ciphertext hdecode
    split
    · exact .refused
    rename_i hrange
    split
    · exact .refused
    rename_i hreplay
    split
    · exact .refused
    · rename_i plaintext hopen
      obtain ⟨call, hcall, hkey, hnonce, haad, rfl⟩ := idealOpen_eq_some hopen
      obtain ⟨n, rfl⟩ := Int.eq_ofNat_of_zero_le (show 0 ≤ sequence by omega)
      have hmax : n ≤ maxSequence := by omega
      have hseq : s.receiveSequence = n := by omega
      refine .opened hseq hmax ⟨rfl, rfl, rfl, rfl⟩ ?_ rfl hcall hkey hnonce haad
      simp only [receiveSequence, hseq, plus_one_eq hmax]

/-- What a fresh endpoint holds. -/
theorem new_spec (keys : SessionKeys) (codec : Codec) (direction : Direction)
    (impl : Implementation) :
    (new keys codec direction impl).sendKey = keys.key direction ∧
    (new keys codec direction impl).receiveKey = keys.key direction.peer ∧
    (new keys codec direction impl).sendDirection = direction ∧
    (new keys codec direction impl).receiveDirection = direction.peer ∧
    (new keys codec direction impl).sendSequence = 0 ∧
    (new keys codec direction impl).receiveSequence = 0 := by
  cases impl with
  | kotlin => cases direction <;> exact ⟨rfl, rfl, rfl, rfl, rfl, rfl⟩
  | rust =>
    cases direction <;>
      simp [new, Session.sender, Session.client, Session.server, Session.new, keys.c2s_length,
        keys.s2c_length, SessionKeys.key, Direction.peer, sendKey, receiveKey, sendDirection,
        receiveDirection, sendSequence, receiveSequence]

end Endpoint

end Lerdr.E2ee
