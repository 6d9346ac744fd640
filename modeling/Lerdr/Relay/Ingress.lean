/-
# Lerdr.Relay.Ingress — an inbox that overflows, and the session behind it (`session.rs`).

`reader_pump` takes frames off the socket into a bounded inbox, the actor takes them from there and
opens them in `handle_frame`. A frame that finds the inbox full is dropped as it is, sealed, and a
busy notice goes into the outbound queue instead. The sequence was counted when the frame was
sealed, so the next frame that does get in is out of turn, and ends the session.

The client here conforms: it seals its messages one after the other, and each is a message the
session does not close on.
-/
import Lerdr.E2ee.Agreement
import Lerdr.Relay.Moves
import Mathlib.Data.List.Infix

namespace Lerdr.Relay

open Lib Lerdr.E2ee

/-! ## §1 — reader, inbox and actor -/

/-- The capacities of `SessionConfig`, at their defaults. -/
structure Capacities where
  inbound : Nat := 128
  outbound : Nat := 64

/-- The members of `EvictReason` that a frame can lead to. -/
inductive EvictReason where
  | inboundLag
  | decryptFailed
  | malformedMessage
  deriving DecidableEq

/-- The client, the socket, the inbox and the actor's session. -/
structure Ingress where
  client : E2EESession
  /-- Frames on the socket, the oldest first. -/
  wire : List Frame
  inbox : List Frame
  /-- How many messages wait in the outbound queue. -/
  pushes : Nat
  session : Session
  /-- The calls of the cipher so far. -/
  calls : List AeadCall
  evicted : Option EvictReason
  /-- What the client sent, what the session handled, and how many frames were dropped. -/
  sent : List Bytes
  handled : List Bytes
  dropped : Nat
  deriving DecidableEq

/-- What happens next. -/
inductive IngressEvent where
  /-- The client seals a message and writes it. -/
  | send (plaintext : Bytes)
  /-- One turn of `reader_pump`. -/
  | read
  /-- The actor takes a frame, under the capabilities negotiated at this time. -/
  | handle (caps : NegotiatedCaps)
  /-- A message for the client goes into the outbound queue. -/
  | push
  /-- The actor takes one from there. -/
  | pop

instance (caps : NegotiatedCaps) : (o : Opened) → Decidable (o.Evicts caps)
  | .rejected => isTrue trivial
  | .malformed => isTrue trivial
  | .binary none => inferInstanceAs (Decidable (_ = true))
  | .binary (some _) => isFalse id
  | .undecodable _ => isFalse id
  | .message _ => isFalse id

namespace Ingress

def start (client : E2EESession) (session : Session) (calls : List AeadCall) : Ingress where
  client := client
  wire := []
  inbox := []
  pushes := 0
  session := session
  calls := calls
  evicted := none
  sent := []
  handled := []
  dropped := 0

variable (cipher : Cipher) (rust : RustLib) (kotlin : KotlinLib) (decode : Bytes → Opened)
  (capacities : Capacities)

/-- One turn of `reader_pump`, with this frame. -/
def readFrame (w : Ingress) (f : Frame) (rest : List Frame) : Ingress :=
  if w.inbox.length < capacities.inbound then { w with wire := rest, inbox := w.inbox ++ [f] }
  else if w.pushes < capacities.outbound then
    -- the busy notice takes the place of the frame
    { w with wire := rest, pushes := w.pushes + 1, dropped := w.dropped + 1 }
  else { w with wire := rest, dropped := w.dropped + 1, evicted := some .inboundLag }

/-- `handle_frame`, up to the message that comes out. -/
def handleFrame (w : Ingress) (caps : NegotiatedCaps) (f : Frame) (rest : List Frame) : Ingress :=
  match w.session.openFrame w.calls rust f.raw with
  | (session, .error _) =>
    { w with session, inbox := rest, evicted := some .decryptFailed }
  | (session, .ok plaintext) =>
    if (decode plaintext).Evicts caps then
      { w with session, inbox := rest, evicted := some .malformedMessage }
    else { w with session, inbox := rest, handled := w.handled ++ [plaintext] }

/-- One event, if it can happen. -/
def step (w : Ingress) : IngressEvent → Option Ingress
  | .send plaintext =>
    match w.client.sealFrame cipher kotlin plaintext with
    | (client, .ok (raw, call)) =>
      some { w with
        client
        wire := w.wire ++ [⟨raw, w.client.sendSequence.toNat, call⟩]
        calls := w.calls ++ [call]
        sent := w.sent ++ [plaintext] }
    | (_, .error _) => none
  | .read =>
    match w.evicted, w.wire with
    | none, f :: rest => some (w.readFrame capacities f rest)
    | _, _ => none
  | .handle caps =>
    match w.evicted, w.inbox with
    | none, f :: rest => some (w.handleFrame rust decode caps f rest)
    | _, _ => none
  | .push => if w.pushes < capacities.outbound then some { w with pushes := w.pushes + 1 } else none
  | .pop => if 0 < w.pushes then some { w with pushes := w.pushes - 1 } else none

end Ingress

/-! ## §2 — when an overflow does no harm -/

section

variable (cipher : Cipher) (rust : RustLib) (kotlin : KotlinLib) (decode : Bytes → Opened)
  (capacities : Capacities)

/-- A message the session does not close on, whatever was negotiated. -/
def Conforming (plaintext : Bytes) : Prop := ∀ caps, ¬ (decode plaintext).Evicts caps

/-- The steps of a session whose client conforms. -/
def IngressStep (w : Ingress) (e : IngressEvent) (w' : Ingress) : Prop :=
  w.step cipher rust kotlin decode capacities e = some w' ∧
    ∀ plaintext, e = .send plaintext → Conforming decode plaintext

/-- **When a read does no harm**: no frame goes into the inbox once one was dropped, and a frame
that finds the inbox full finds room for the busy notice. -/
def Harmless (w : Ingress) : IngressEvent → Prop
  | .read =>
    (w.inbox.length < capacities.inbound → w.dropped = 0) ∧
      (capacities.inbound ≤ w.inbox.length → w.pushes < capacities.outbound)
  | _ => True

instance (w : Ingress) : (e : IngressEvent) → Decidable (Harmless capacities w e)
  | .read => inferInstanceAs (Decidable (_ ∧ _))
  | .send _ => isTrue trivial
  | .handle _ => isTrue trivial
  | .push => isTrue trivial
  | .pop => isTrue trivial

def HarmlessStep (w : Ingress) (e : IngressEvent) (w' : Ingress) : Prop :=
  IngressStep cipher rust kotlin decode capacities w e w' ∧ Harmless capacities w e

end

variable {cipher : Cipher} {rust : RustLib} {kotlin : KotlinLib} {decode : Bytes → Opened}
  {capacities : Capacities} {client : E2EESession} {w w' : Ingress} {e : IngressEvent}

def plaintextOf (f : Frame) : Bytes := f.call.plaintext

/-- The step of a session whose client conforms, by what it does. -/
inductive IngressMove (cipher : Cipher) (rust : RustLib) (kotlin : KotlinLib)
    (decode : Bytes → Opened) (capacities : Capacities) (w : Ingress) :
    IngressEvent → Ingress → Prop
  | sent {plaintext raw : Bytes} {call : AeadCall} {client : E2EESession}
      (conforming : Conforming decode plaintext)
      (sealed : w.client.sealFrame cipher kotlin plaintext = (client, .ok (raw, call))) :
      IngressMove cipher rust kotlin decode capacities w (.send plaintext) { w with
        client
        wire := w.wire ++ [⟨raw, w.client.sendSequence.toNat, call⟩]
        calls := w.calls ++ [call]
        sent := w.sent ++ [plaintext] }
  | read {f : Frame} {rest : List Frame} (wire : w.wire = f :: rest) :
      IngressMove cipher rust kotlin decode capacities w .read (w.readFrame capacities f rest)
  | handled {caps : NegotiatedCaps} {f : Frame} {rest : List Frame} (inbox : w.inbox = f :: rest) :
      IngressMove cipher rust kotlin decode capacities w (.handle caps)
        (w.handleFrame rust decode caps f rest)
  | queued {e : IngressEvent} (pushes : Nat) :
      IngressMove cipher rust kotlin decode capacities w e { w with pushes }

/-- **What an event can do**, for every event and state. -/
theorem step_ingressMove (h : IngressStep cipher rust kotlin decode capacities w e w') :
    IngressMove cipher rust kotlin decode capacities w e w' := by
  obtain ⟨hstep, hconforming⟩ := h
  cases e with
  | send plaintext =>
    simp only [Ingress.step] at hstep
    split at hstep
    · rename_i hseal
      obtain rfl := Option.some.inj hstep
      exact .sent (hconforming plaintext rfl) hseal
    · cases hstep
  | read =>
    simp only [Ingress.step] at hstep
    split at hstep
    · rename_i hwire
      obtain rfl := Option.some.inj hstep
      exact .read hwire
    · cases hstep
  | handle caps =>
    simp only [Ingress.step] at hstep
    split at hstep
    · rename_i hinbox
      obtain rfl := Option.some.inj hstep
      exact .handled hinbox
    · cases hstep
  | push | pop =>
    simp only [Ingress.step] at hstep
    split at hstep
    · obtain rfl := Option.some.inj hstep
      exact .queued _
    · cases hstep

/-! ## §3 — what every run keeps -/

/-- A frame of the client, under the number of its message, which is one the session does not close
on. -/
structure Sound (kotlin : KotlinLib) (decode : Bytes → Opened) (client : E2EESession) (n : Nat)
    (calls : List AeadCall) (sent : List Bytes) (f : Frame) : Prop where
  genuine : Genuine kotlin client f
  call : f.call ∈ calls
  conforming : Conforming decode (plaintextOf f)
  number : ∃ i, f.sequence = n + i ∧ sent[i]? = some (plaintextOf f)

theorem Sound.append {n : Nat} {calls : List AeadCall} {sent : List Bytes} {f : Frame}
    (h : Sound kotlin decode client n calls sent f) (call : AeadCall) (plaintext : Bytes) :
    Sound kotlin decode client n (calls ++ [call]) (sent ++ [plaintext]) f := by
  obtain ⟨i, hsequence, hmessage⟩ := h.number
  refine ⟨h.genuine, List.mem_append_left _ h.call, h.conforming, i, hsequence, ?_⟩
  rw [List.getElem?_append_left (List.getElem?_eq_some_iff.mp hmessage).1]
  exact hmessage

/-- Whatever was dropped: the frames under way are the client's, and the session has handled the
first messages, as many as its sequence says. -/
structure Numbered (kotlin : KotlinLib) (decode : Bytes → Opened) (client : E2EESession) (n : Nat)
    (w : Ingress) : Prop where
  peers : Peers client w.session
  frames : ∀ f ∈ w.inbox ++ w.wire, Sound kotlin decode client n w.calls w.sent f
  handled : w.handled <+: w.sent
  receive : w.session.receiveSequence = n + w.handled.length
  next : w.client = client.atSequence (n + w.sent.length : Nat)
  recorded : Recorded client w.calls (n + w.sent.length)

variable {n : Nat}

namespace Numbered

variable {f : Frame} {rest : List Frame}

section

variable (h : Numbered kotlin decode client n w)
include h

/-- The client seals one more message: its frame comes last. -/
theorem send {client' : E2EESession}
    {plaintext raw : Bytes} {call : AeadCall} (hconforming : Conforming decode plaintext)
    (hseal : w.client.sealFrame cipher kotlin plaintext = (client', .ok (raw, call))) :
    w.client.sendSequence.toNat = n + w.sent.length ∧
    Numbered kotlin decode client n { w with
      client := client'
      wire := w.wire ++ [⟨raw, w.client.sendSequence.toNat, call⟩]
      calls := w.calls ++ [call]
      sent := w.sent ++ [plaintext] } := by
  obtain ⟨m, hm, hgenuine, hplain, hclient'⟩ := E2EESession.sealFrame_ok hseal
  obtain rfl : m = n + w.sent.length := by
    rw [h.next] at hm
    exact (Int.ofNat.inj hm).symm
  rw [h.next] at hgenuine hclient'
  rw [hm, Int.toNat_natCast]
  refine ⟨rfl, h.peers, ?_, h.handled.trans (List.prefix_append _ _), h.receive, ?_, ?_⟩
  · intro f hf
    rw [← List.append_assoc] at hf
    rcases List.mem_append.mp hf with hold | hlast
    · exact (h.frames f hold).append call plaintext
    · obtain rfl := List.mem_singleton.mp hlast
      refine ⟨⟨hgenuine.max, hgenuine.raw, hgenuine.key, hgenuine.nonce, hgenuine.aad⟩,
        List.mem_append_right _ (List.mem_singleton_self _), ?_, w.sent.length, rfl, ?_⟩
      · rw [plaintextOf, hplain]
        exact hconforming
      · rw [plaintextOf, hplain, List.getElem?_append_right (le_refl _), Nat.sub_self]
        rfl
  · rw [hclient', List.length_append, List.length_singleton]
    rfl
  · rw [List.length_append, List.length_singleton]
    exact h.recorded.append hgenuine.max hgenuine.nonce

/-- Frames change their place or are dropped, and the rest stays. -/
theorem of_subset
    (hframes : ∀ f ∈ w'.inbox ++ w'.wire, f ∈ w.inbox ++ w.wire) (hsession : w'.session = w.session)
    (hclient : w'.client = w.client) (hcalls : w'.calls = w.calls) (hsent : w'.sent = w.sent)
    (hhandled : w'.handled = w.handled) : Numbered kotlin decode client n w' := by
  obtain ⟨hpeers, hsound, hprefix, hreceive, hnext, hrecorded⟩ := h
  refine ⟨hsession ▸ hpeers, ?_, hhandled ▸ hsent ▸ hprefix, ?_, ?_, ?_⟩
  · rw [hcalls, hsent]
    exact fun f hf => hsound f (hframes f hf)
  · rw [hsession, hhandled]
    exact hreceive
  · rw [hclient, hsent]
    exact hnext
  · rw [hcalls, hsent]
    exact hrecorded

theorem read (hwire : w.wire = f :: rest) :
    Numbered kotlin decode client n (w.readFrame capacities f rest) := by
  have hrest : ∀ g ∈ w.inbox ++ rest, g ∈ w.inbox ++ w.wire := by
    intro g hg
    rw [hwire]
    exact List.mem_append.mpr ((List.mem_append.mp hg).imp_right (List.mem_cons_of_mem _))
  unfold Ingress.readFrame
  split
  · refine h.of_subset ?_ rfl rfl rfl rfl rfl
    intro g hg
    rw [hwire]
    simpa only [List.append_assoc, List.singleton_append] using hg
  · split
    · exact h.of_subset hrest rfl rfl rfl rfl rfl
    · exact h.of_subset hrest rfl rfl rfl rfl rfl

/-- The actor opens the frame if its turn has come, and otherwise ends the session. -/
theorem handleFrame_eq (hreads : client.codec = .json → Reads rust kotlin)
    (hinbox : w.inbox = f :: rest) (caps : NegotiatedCaps) :
    w.handleFrame rust decode caps f rest =
      if f.sequence = w.session.receiveSequence then { w with
        session := { w.session with receiveSequence := w.session.receiveSequence + 1 }
        inbox := rest
        handled := w.handled ++ [plaintextOf f] }
      else { w with inbox := rest, evicted := some .decryptFailed } := by
  have hf : f ∈ w.inbox ++ w.wire := by
    rw [hinbox]
    exact List.mem_append_left _ List.mem_cons_self
  have hsound := h.frames f hf
  unfold Ingress.handleFrame
  by_cases hturn : f.sequence = w.session.receiveSequence
  · rw [if_pos hturn, Session.openFrame_in_turn hreads h.peers hsound.genuine hsound.call h.recorded
      hturn]
    exact if_neg (hsound.conforming caps)
  · rw [if_neg hturn, Session.openFrame_out_of_turn hreads h.peers hsound.genuine hturn]

theorem handle (hreads : client.codec = .json → Reads rust kotlin)
    (hinbox : w.inbox = f :: rest) (caps : NegotiatedCaps) :
    Numbered kotlin decode client n (w.handleFrame rust decode caps f rest) := by
  have hrest : ∀ g ∈ rest ++ w.wire, g ∈ w.inbox ++ w.wire := by
    intro g hg
    rw [hinbox]
    exact List.mem_cons_of_mem _ hg
  rw [h.handleFrame_eq hreads hinbox caps]
  split
  · rename_i hturn
    obtain ⟨i, hnumber, hmessage⟩ := (h.frames f (by simp [hinbox])).number
    obtain rfl : i = w.handled.length := by
      have := h.receive
      omega
    refine ⟨⟨h.peers.key, h.peers.direction, h.peers.codec⟩, fun g hg => h.frames g (hrest g hg),
      prefix_concat h.handled hmessage, ?_, h.next, h.recorded⟩
    rw [List.length_append, List.length_singleton, h.receive, Nat.add_assoc]
  · exact h.of_subset hrest rfl rfl rfl rfl rfl

/-- **One event keeps it.** -/
theorem move (hreads : client.codec = .json → Reads rust kotlin)
    (hmove : IngressMove cipher rust kotlin decode capacities w e w') :
    Numbered kotlin decode client n w' := by
  cases hmove with
  | sent hconforming hseal => exact (h.send hconforming hseal).2
  | read hwire => exact h.read hwire
  | handled hinbox => exact h.handle hreads hinbox _
  | queued pushes => exact h.of_subset (fun _ => id) rfl rfl rfl rfl rfl

end

theorem start {session : Session} {calls : List AeadCall} (hpeers : Peers client session)
    (hsend : client.sendSequence = n) (hreceive : session.receiveSequence = n)
    (hrecorded : Recorded client calls n) :
    Numbered kotlin decode client n (.start client session calls) := by
  refine ⟨hpeers, List.forall_mem_nil _, List.prefix_refl _, hreceive, ?_, hrecorded⟩
  show client = client.atSequence n
  rw [E2EESession.atSequence, ← hsend]

end Numbered

/-- **No message is skipped.** In every run of a session with a conforming client, whatever frames
the reader dropped: what the session handled is in order what the client sent first. -/
theorem handled_in_order {session : Session} {calls : List AeadCall}
    (hreads : client.codec = .json → Reads rust kotlin) (hpeers : Peers client session)
    (hsend : client.sendSequence = n) (hreceive : session.receiveSequence = n)
    (hrecorded : Recorded client calls n) {es : List IngressEvent}
    (hrun : Runs (IngressStep cipher rust kotlin decode capacities)
      (.start client session calls) es w) : w.handled <+: w.sent :=
  (hrun.invariant (I := Numbered kotlin decode client n)
    (fun _ _ _ h hstep => h.move hreads (step_ingressMove hstep))
    (.start hpeers hsend hreceive hrecorded)).handled

/-! ## §4 — where no read does harm -/

/-- Frames in turn carry the next messages. -/
theorem prefix_of_consecutive {calls : List AeadCall} {handled sent : List Bytes} {fs : List Frame}
    (h : handled <+: sent) (hfs : Consecutive Frame.sequence (n + handled.length) fs)
    (hsound : ∀ f ∈ fs, Sound kotlin decode client n calls sent f) :
    handled ++ fs.map plaintextOf <+: sent := by
  induction fs generalizing handled with
  | nil => simpa using h
  | cons f fs ih =>
    obtain ⟨hturn, hrest⟩ := hfs
    obtain ⟨i, hnumber, hmessage⟩ := (hsound f List.mem_cons_self).number
    obtain rfl : i = handled.length := by omega
    have hlonger := prefix_concat h hmessage
    have hlength : n + (handled ++ [plaintextOf f]).length = n + handled.length + 1 := by
      rw [List.length_append, List.length_singleton, Nat.add_assoc]
    have := ih hlonger (hlength ▸ hrest) fun g hg => hsound g (List.mem_cons_of_mem _ hg)
    rwa [List.append_assoc, List.singleton_append, ← List.map_cons] at this

/-- What is kept besides: the session goes on, the inbox holds the next frames in order, and as long
as nothing was dropped, the wire holds all others. -/
structure Steady (kotlin : KotlinLib) (decode : Bytes → Opened) (client : E2EESession) (n : Nat)
    (w : Ingress) : Prop extends Numbered kotlin decode client n w where
  evicted : w.evicted = none
  inbox : Consecutive Frame.sequence w.session.receiveSequence w.inbox
  kept : w.dropped = 0 → Consecutive Frame.sequence w.session.receiveSequence (w.inbox ++ w.wire) ∧
    w.session.receiveSequence + (w.inbox ++ w.wire).length = n + w.sent.length

namespace Steady

variable {f : Frame} {rest : List Frame}

section

variable (h : Steady kotlin decode client n w)
include h

/-- The client seals one more message. -/
theorem send {client' : E2EESession} {plaintext raw : Bytes}
    {call : AeadCall} (hconforming : Conforming decode plaintext)
    (hseal : w.client.sealFrame cipher kotlin plaintext = (client', .ok (raw, call))) :
    Steady kotlin decode client n { w with
      client := client'
      wire := w.wire ++ [⟨raw, w.client.sendSequence.toNat, call⟩]
      calls := w.calls ++ [call]
      sent := w.sent ++ [plaintext] } := by
  obtain ⟨hsequence, hnumbered⟩ := h.toNumbered.send hconforming hseal
  refine ⟨hnumbered, h.evicted, h.inbox, ?_⟩
  intro hdropped
  obtain ⟨hconsecutive, hlength⟩ := h.kept hdropped
  refine ⟨?_, ?_⟩
  · rw [← List.append_assoc]
    exact Consecutive.concat_iff.mpr ⟨hconsecutive, hsequence.trans hlength.symm⟩
  · simp only [List.length_append, List.length_singleton] at hlength ⊢
    omega

/-- One turn of the reader, where it does no harm. -/
theorem read (hwire : w.wire = f :: rest) (hharmless : Harmless capacities w .read) :
    Steady kotlin decode client n (w.readFrame capacities f rest) := by
  have hnumbered : Numbered kotlin decode client n (w.readFrame capacities f rest) :=
    h.toNumbered.read hwire
  unfold Ingress.readFrame at hnumbered ⊢
  by_cases hroom : w.inbox.length < capacities.inbound
  · -- nothing was dropped, so the frame is the next one
    obtain ⟨hconsecutive, hlength⟩ := h.kept (hharmless.1 hroom)
    have hsplit : w.inbox ++ w.wire = (w.inbox ++ [f]) ++ rest := by
      rw [hwire, List.append_assoc, List.singleton_append]
    rw [hsplit] at hconsecutive hlength
    rw [if_pos hroom] at hnumbered ⊢
    exact ⟨hnumbered, h.evicted, (Consecutive.append_iff.mp hconsecutive).1,
      fun _ => ⟨hconsecutive, hlength⟩⟩
  · rw [if_neg hroom, if_pos (hharmless.2 (Nat.not_lt.mp hroom))] at hnumbered ⊢
    exact ⟨hnumbered, h.evicted, h.inbox, fun hzero => absurd hzero (Nat.succ_ne_zero _)⟩

/-- The actor opens the frame it takes, and goes on. -/
theorem handleFrame_eq (hreads : client.codec = .json → Reads rust kotlin)
    (hinbox : w.inbox = f :: rest) (caps : NegotiatedCaps) :
    w.handleFrame rust decode caps f rest = { w with
      session := { w.session with receiveSequence := w.session.receiveSequence + 1 }
      inbox := rest
      handled := w.handled ++ [plaintextOf f] } := by
  have hconsecutive := h.inbox
  rw [hinbox] at hconsecutive
  rw [h.toNumbered.handleFrame_eq hreads hinbox caps, if_pos hconsecutive.1]

theorem handle (hreads : client.codec = .json → Reads rust kotlin)
    (hinbox : w.inbox = f :: rest) (caps : NegotiatedCaps) :
    Steady kotlin decode client n (w.handleFrame rust decode caps f rest) := by
  have hnumbered := h.toNumbered.handle hreads hinbox caps
  rw [h.handleFrame_eq hreads hinbox caps] at hnumbered ⊢
  obtain ⟨-, hevicted, hconsecutive, hkept⟩ := h
  rw [hinbox] at hconsecutive hkept
  refine ⟨hnumbered, hevicted, hconsecutive.2, ?_⟩
  intro hdropped
  obtain ⟨hall, hlength⟩ := hkept hdropped
  refine ⟨hall.2, ?_⟩
  simp only [List.cons_append, List.length_cons] at hlength ⊢
  omega

/-- **One event that does no harm keeps it.** -/
theorem move (hreads : client.codec = .json → Reads rust kotlin)
    (hmove : IngressMove cipher rust kotlin decode capacities w e w')
    (hharmless : Harmless capacities w e) : Steady kotlin decode client n w' := by
  have hnumbered := h.toNumbered.move hreads hmove
  cases hmove with
  | sent hconforming hseal => exact h.send hconforming hseal
  | read hwire => exact h.read hwire hharmless
  | handled hinbox => exact h.handle hreads hinbox _
  | queued pushes => exact ⟨hnumbered, h.evicted, h.inbox, h.kept⟩

end

end Steady

/-- Every message is an object the session answers with an error. -/
def answeredWithError : Bytes → Opened := fun _ => .undecodable []

theorem conforming_answeredWithError (plaintext : Bytes) : Conforming answeredWithError plaintext :=
  fun _ => id

def twoFrames : Capacities where
  inbound := 2

/-- The client sends four messages, and the reader takes three before the actor takes one: the inbox
holds two, the third frame is dropped, the fourth goes in; then the actor takes what is there. -/
def overflowing : List IngressEvent :=
  [ .send [1], .send [2], .send [3], .send [4], .read, .read, .read, .handle {}, .read, .handle {},
    .handle {} ]

theorem handled_in_order_overflowing :
    ∃ w, Runs (IngressStep openCipher compactRust compactKotlin answeredWithError twoFrames)
      (.start sampleClient sampleRelay []) overflowing w ∧ w.dropped = 1 ∧
      w.handled <+: w.sent := by
  obtain ⟨w, hrun, hdropped⟩ : ∃ w, Runs (IngressStep openCipher compactRust compactKotlin
      answeredWithError twoFrames) (.start sampleClient sampleRelay []) overflowing w ∧
      w.dropped = 1 :=
    Runs.of_any (fun _ _ _ _ hstep => ⟨hstep, fun p _ => conforming_answeredWithError p⟩)
      (by decide +kernel)
  exact ⟨w, hrun, hdropped, handled_in_order (fun _ => reads_compact) peers_sample rfl rfl
    (recorded_nil sampleClient 1) hrun⟩

/-- Two messages that find room. -/
def fitting : List IngressEvent := [.send [1], .send [2], .read, .handle {}, .read]

end Lerdr.Relay
