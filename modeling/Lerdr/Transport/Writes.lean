/-
# Lerdr.Transport.Writes — concurrent senders on one connection (`RelayConnection.kt`).

`sendRaw` and `sendBytes` seal under `sealLock` and write to the socket after they have released it.
Sends of the session, uploads and the drain of the buffer come with `sendLock` held
(`RelaySession.kt`); `request`, the keepalive and the first messages after a connect come without
it. A sender is therefore at one of two places, before its seal and between seal and write, and
another may pass it at either.

The relay opens in strict sequence, so a frame that overtakes an older one on its way to the socket
is refused there, and the connection with it.
-/
import Lerdr.E2ee.Agreement
import Lerdr.Lib.Runs

namespace Lerdr.Transport

open Lib Lerdr.E2ee

/-! ## §1 — senders, seal and socket -/

/-- A call of `sendRaw` or `sendBytes` under way. -/
structure Sender where
  /-- The caller holds `sendLock`. -/
  locked : Bool
  /-- Sealed, and not written yet. -/
  frame : Option Frame
  deriving DecidableEq

/-- The connection. -/
structure Link where
  /-- `sessionRef`. -/
  client : E2EESession
  calls : List AeadCall
  /-- The socket takes writes. -/
  socketOpen : Bool
  /-- The holder of `sendLock`. -/
  sendLock : Option Nat
  senders : Nat → Option Sender
  /-- What was handed to the socket, in order. -/
  written : List Frame

/-- What happens next. -/
inductive LinkEvent where
  | enter (sender : Nat) (locked : Bool)
  /-- `synchronized(sealLock) { session.seal(…) }`. -/
  | sealFrame (sender : Nat) (plaintext : Bytes)
  /-- `socket.send`, and whether the socket takes it. -/
  | write (sender : Nat) (accepts : Bool)
  /-- The socket is closed or cancelled from elsewhere. -/
  | cancel

namespace Link

/-- A connection that has become ready. -/
def start (client : E2EESession) (calls : List AeadCall) : Link where
  client := client
  calls := calls
  socketOpen := true
  sendLock := none
  senders := fun _ => none
  written := []

/-- The call returns; a holder of `sendLock` releases it. -/
def leave (w : Link) (sender : Nat) : Link :=
  { w with
    senders := Function.update w.senders sender none
    sendLock := if w.sendLock = some sender then none else w.sendLock }

variable (cipher : Cipher) (kotlin : KotlinLib)

/-- One event, if it can happen. -/
def step (w : Link) : LinkEvent → Option Link
  | .enter sender locked =>
    if w.senders sender = none ∧ (locked = true → w.sendLock = none) then
      some { w with
        senders := Function.update w.senders sender (some ⟨locked, none⟩)
        sendLock := if locked then some sender else w.sendLock }
    else none
  | .sealFrame sender plaintext =>
    match w.senders sender with
    | some ⟨locked, none⟩ =>
      match w.client.sealFrame cipher kotlin plaintext with
      | (client, .ok (raw, call)) =>
        some { w with
          client
          calls := w.calls ++ [call]
          senders := Function.update w.senders sender
            (some ⟨locked, some ⟨raw, w.client.sendSequence.toNat, call⟩⟩) }
      -- what is no `E2EEException` goes up to the caller, with the socket left alone
      | (_, .error .cipher) => some (w.leave sender)
      | (_, .error _) => some ({ w with socketOpen := false }.leave sender)
    | _ => none
  | .write sender accepts =>
    match w.senders sender with
    | some ⟨_, some frame⟩ =>
      if w.socketOpen = true ∧ accepts = true then
        some ({ w with written := w.written ++ [frame] }.leave sender)
      -- a socket that refused a message takes no further one
      else some ({ w with socketOpen := false }.leave sender)
    | _ => none
  | .cancel => some { w with socketOpen := false }

end Link

section

variable (cipher : Cipher) (kotlin : KotlinLib)

def LinkStep (w : Link) (e : LinkEvent) (w' : Link) : Prop := w.step cipher kotlin e = some w'

/-- **When a write is in turn**: if the socket takes it, no other sender holds an older frame. -/
def InTurn (w : Link) : LinkEvent → Prop
  | .write sender accepts => w.socketOpen = true → accepts = true →
    ∀ s f, w.senders sender = some s → s.frame = some f →
      ∀ j t g, w.senders j = some t → t.frame = some g → f.sequence ≤ g.sequence
  | _ => True

/-- The steps that overtake nothing. -/
def InTurnStep (w : Link) (e : LinkEvent) (w' : Link) : Prop :=
  LinkStep cipher kotlin w e w' ∧ InTurn w e

end

variable {cipher : Cipher} {rust : RustLib} {kotlin : KotlinLib} {client : E2EESession}
  {w w' : Link} {e : LinkEvent} {n : Nat}

/-! ## §2 — what one event can do -/

/-- Sender `k` holds the sealed frame. -/
def Holds (w : Link) (k : Nat) (f : Frame) : Prop :=
  ∃ s, w.senders k = some s ∧ s.frame = some f

/-- What an event can do, as far as the frames go. -/
inductive LinkMove (kotlin : KotlinLib) (w : Link) : LinkEvent → Link → Prop
  | idle {e : LinkEvent} {w' : Link} (client : w'.client = w.client) (calls : w'.calls = w.calls)
      (written : w'.written = w.written)
      (socket : w'.socketOpen = true → w.socketOpen = true)
      (kept : ∀ k f, Holds w' k f → Holds w k f)
      (all : w'.socketOpen = true → ∀ k f, Holds w k f → Holds w' k f) : LinkMove kotlin w e w'
  | sealed {k : Nat} {plaintext raw : Bytes} {call : AeadCall} {w' : Link} {m : Nat}
      (sequence : w.client.sendSequence = m) (max : m ≤ maxSequence)
      (genuine : Genuine kotlin w.client ⟨raw, m, call⟩)
      (client : w'.client = w.client.atSequence (m + 1)) (calls : w'.calls = w.calls ++ [call])
      (written : w'.written = w.written) (socket : w'.socketOpen = w.socketOpen)
      (holds : ∀ j f, Holds w' j f ↔ if j = k then f = ⟨raw, m, call⟩ else Holds w j f)
      (free : ∀ f, ¬ Holds w k f) :
      LinkMove kotlin w (.sealFrame k plaintext) w'
  | wrote {k : Nat} {f : Frame} {w' : Link} (open_ : w.socketOpen = true) (held : Holds w k f)
      (client : w'.client = w.client) (calls : w'.calls = w.calls)
      (written : w'.written = w.written ++ [f]) (socket : w'.socketOpen = true)
      (holds : ∀ j g, Holds w' j g ↔ j ≠ k ∧ Holds w j g) :
      LinkMove kotlin w (.write k true) w'

theorem holds_update {k : Nat} {s : Option Sender}
    (h : w'.senders = Function.update w.senders k s) (j : Nat) (f : Frame) :
    Holds w' j f ↔ if j = k then ∃ t, s = some t ∧ t.frame = some f else Holds w j f := by
  unfold Holds
  rw [h, Function.update_apply]
  split <;> rfl

theorem holds_leave (w : Link) (k j : Nat) (f : Frame) :
    Holds (w.leave k) j f ↔ j ≠ k ∧ Holds w j f := by
  have hsenders : (w.leave k).senders = Function.update w.senders k none := rfl
  rw [holds_update hsenders]
  by_cases hj : j = k <;> simp [hj]

theorem holds_inj {k : Nat} {f g : Frame} (hf : Holds w k f) (hg : Holds w k g) : f = g := by
  obtain ⟨s, hs, hsf⟩ := hf
  obtain ⟨t, ht, htg⟩ := hg
  obtain rfl := Option.some.inj (hs.symm.trans ht)
  exact Option.some.inj (hsf.symm.trans htg)

/-- A call returns without having had a frame. -/
theorem linkMove_leave {k : Nat} {s : Sender} (hs : w.senders k = some s) (hnone : s.frame = none)
    {closed : Link} (hclosed : closed.senders = w.senders) (hclient : closed.client = w.client)
    (hcalls : closed.calls = w.calls) (hwritten : closed.written = w.written)
    (hsocket : closed.socketOpen = true → w.socketOpen = true) :
    LinkMove kotlin w e (closed.leave k) := by
  have hfree : ∀ f, ¬ Holds w k f := by
    rintro f ⟨t, ht, htf⟩
    obtain rfl := Option.some.inj (hs.symm.trans ht)
    rw [hnone] at htf
    cases htf
  have hsame : ∀ j f, Holds closed j f ↔ Holds w j f := by
    intro j f
    unfold Holds
    rw [hclosed]
  refine .idle hclient hcalls hwritten hsocket ?_ ?_
  · intro j f hj
    exact (hsame j f).mp ((holds_leave closed k j f).mp hj).2
  · intro _ j f hj
    refine (holds_leave closed k j f).mpr ⟨?_, (hsame j f).mpr hj⟩
    rintro rfl
    exact hfree f hj

/-- **What an event can do**, for every event and state. -/
theorem step_linkMove (h : LinkStep cipher kotlin w e w') : LinkMove kotlin w e w' := by
  unfold LinkStep at h
  cases e with
  | enter k locked =>
    simp only [Link.step] at h
    split at h
    · rename_i hfree
      obtain rfl := Option.some.inj h
      refine .idle rfl rfl rfl id ?_ ?_
      · intro j f hj
        rw [holds_update (w := w) (k := k) rfl] at hj
        split at hj
        · obtain ⟨t, ht, htf⟩ := hj
          obtain rfl := Option.some.inj ht
          cases htf
        · exact hj
      · intro _ j f hj
        rw [holds_update (w := w) (k := k) rfl, if_neg]
        · exact hj
        · rintro rfl
          obtain ⟨t, ht, -⟩ := hj
          rw [hfree.1] at ht
          cases ht
    · cases h
  | sealFrame k plaintext =>
    simp only [Link.step] at h
    split at h
    · rename_i locked hs
      split at h
      · rename_i client raw call hseal
        obtain rfl := Option.some.inj h
        obtain ⟨m, hm, hgenuine, -, hclient⟩ := E2EESession.sealFrame_ok hseal
        refine .sealed hm hgenuine.max hgenuine hclient rfl rfl rfl ?_ ?_
        · intro j f
          rw [holds_update (w := w) (k := k) rfl, hm, Int.toNat_natCast]
          split
          · constructor
            · rintro ⟨t, ht, htf⟩
              obtain rfl := Option.some.inj ht
              exact (Option.some.inj htf).symm
            · rintro rfl
              exact ⟨_, rfl, rfl⟩
          · rfl
        · rintro f ⟨t, ht, htf⟩
          obtain rfl := Option.some.inj (hs.symm.trans ht)
          cases htf
      · obtain rfl := Option.some.inj h
        exact linkMove_leave hs rfl rfl rfl rfl rfl id
      · obtain rfl := Option.some.inj h
        exact linkMove_leave hs rfl rfl rfl rfl rfl fun hopen => by cases hopen
    · cases h
  | write k accepts =>
    simp only [Link.step] at h
    split at h
    · rename_i locked f hs
      split at h
      · rename_i hopen
        obtain ⟨hopen, rfl⟩ := hopen
        obtain rfl := Option.some.inj h
        exact .wrote hopen ⟨_, hs, rfl⟩ rfl rfl rfl hopen (holds_leave _ k)
      · obtain rfl := Option.some.inj h
        refine .idle rfl rfl rfl (fun hopen => by cases hopen) ?_ (fun hopen => by cases hopen)
        intro j g hj
        exact ((holds_leave _ k j g).mp hj).2
    · cases h
  | cancel =>
    obtain rfl := Option.some.inj h
    exact .idle rfl rfl rfl (fun hopen => by cases hopen) (fun _ _ => id) fun _ _ _ => id

/-! ## §3 — the order of the writes -/

/-- What is kept while no frame overtakes: what was written has no gap, and as long as the socket is
open what was sealed and not written comes right after it. -/
structure InOrder (kotlin : KotlinLib) (client : E2EESession) (n : Nat) (w : Link) : Prop where
  written : Consecutive Frame.sequence n w.written
  genuine : ∀ f, (f ∈ w.written ∨ ∃ k, Holds w k f) → Genuine kotlin client f ∧ f.call ∈ w.calls
  single : ∀ j k f g, Holds w j f → Holds w k g → f.sequence = g.sequence → j = k
  ahead : w.socketOpen = true → ∀ k f, Holds w k f → n + w.written.length ≤ f.sequence
  next : ∃ next : Nat, w.client = client.atSequence next ∧ Recorded client w.calls next ∧
    n + w.written.length ≤ next ∧ (∀ k f, Holds w k f → f.sequence < next) ∧
    (w.socketOpen = true → ∀ m, n + w.written.length ≤ m → m < next →
      ∃ k f, Holds w k f ∧ f.sequence = m)

namespace InOrder

section

variable (h : InOrder kotlin client n w)
include h

/-- The oldest frame that was sealed and not written is the next one. -/
theorem sequence_of_oldest (hopen : w.socketOpen = true) {k : Nat} {f : Frame} (hf : Holds w k f)
    (holdest : ∀ j g, Holds w j g → f.sequence ≤ g.sequence) :
    f.sequence = n + w.written.length := by
  obtain ⟨next, -, -, -, hbelow, hcomplete⟩ := h.next
  have hlow := h.ahead hopen k f hf
  obtain ⟨j, g, hg, hsequence⟩ :=
    hcomplete hopen (n + w.written.length) (le_refl _) (hlow.trans_lt (hbelow k f hf))
  have := holdest j g hg
  omega

theorem idle (hclient' : w'.client = w.client)
    (hcalls : w'.calls = w.calls) (hwritten : w'.written = w.written)
    (hsocket : w'.socketOpen = true → w.socketOpen = true)
    (hkept : ∀ k f, Holds w' k f → Holds w k f)
    (hall : w'.socketOpen = true → ∀ k f, Holds w k f → Holds w' k f) :
    InOrder kotlin client n w' := by
  obtain ⟨next, hclient, hrecorded, hlow, hbelow, hcomplete⟩ := h.next
  refine ⟨hwritten ▸ h.written, ?_, ?_, ?_, next, hclient'.trans hclient, hcalls ▸ hrecorded,
    hwritten ▸ hlow, ?_, ?_⟩
  · rw [hcalls]
    rintro f (hf | ⟨k, hk⟩)
    · rw [hwritten] at hf
      exact h.genuine f (.inl hf)
    · exact h.genuine f (.inr ⟨k, hkept k f hk⟩)
  · exact fun j k f g hj hk => h.single j k f g (hkept j f hj) (hkept k g hk)
  · intro hopen k f hk
    rw [hwritten]
    exact h.ahead (hsocket hopen) k f (hkept k f hk)
  · exact fun k f hk => hbelow k f (hkept k f hk)
  · intro hopen m hm hnext
    rw [hwritten] at hm
    obtain ⟨k, f, hk, hf⟩ := hcomplete (hsocket hopen) m hm hnext
    exact ⟨k, f, hall hopen k f hk, hf⟩

/-- A sender seals the frame it is to write. -/
theorem sealed {k m : Nat} {raw : Bytes} {call : AeadCall}
    (hm : w.client.sendSequence = m) (hgenuine : Genuine kotlin w.client ⟨raw, m, call⟩)
    (hclient' : w'.client = w.client.atSequence (m + 1)) (hcalls : w'.calls = w.calls ++ [call])
    (hwritten : w'.written = w.written) (hsocket : w'.socketOpen = w.socketOpen)
    (hholds : ∀ j f, Holds w' j f ↔ if j = k then f = ⟨raw, m, call⟩ else Holds w j f)
    (hfree : ∀ f, ¬ Holds w k f) : InOrder kotlin client n w' := by
  obtain ⟨next, hclient, hrecorded, hlow, hbelow, hcomplete⟩ := h.next
  obtain rfl : m = next := by
    rw [hclient] at hm
    exact (Int.ofNat.inj hm).symm
  rw [hclient] at hgenuine hclient'
  have hcases : ∀ j f, Holds w' j f → (j = k ∧ f = ⟨raw, m, call⟩) ∨ Holds w j f := by
    intro j f hj
    rw [hholds] at hj
    split at hj
    · rename_i hjk
      exact .inl ⟨hjk, hj⟩
    · exact .inr hj
  refine ⟨hwritten ▸ h.written, ?_, ?_, ?_, m + 1, hclient', ?_,
    hwritten ▸ hlow.trans (Nat.le_succ m), ?_, ?_⟩
  · rw [hcalls, hwritten]
    have hold : ∀ f, (f ∈ w.written ∨ ∃ k, Holds w k f) →
        Genuine kotlin client f ∧ f.call ∈ w.calls ++ [call] :=
      fun f hf => ⟨(h.genuine f hf).1, List.mem_append_left _ (h.genuine f hf).2⟩
    rintro f (hf | ⟨j, hj⟩)
    · exact hold f (.inl hf)
    · rcases hcases j f hj with ⟨-, rfl⟩ | hj
      · refine ⟨⟨hgenuine.max, hgenuine.raw, hgenuine.key, hgenuine.nonce, hgenuine.aad⟩, ?_⟩
        exact List.mem_append_right _ (List.mem_singleton_self _)
      · exact hold f (.inr ⟨j, hj⟩)
  · -- the new frame is above all others
    intro i j f g hi hj heq
    rcases hcases i f hi with ⟨rfl, rfl⟩ | hi <;> rcases hcases j g hj with ⟨rfl, rfl⟩ | hj
    · rfl
    · exact absurd heq.symm (Nat.ne_of_lt (hbelow j g hj))
    · exact absurd heq (Nat.ne_of_lt (hbelow i f hi))
    · exact h.single i j f g hi hj heq
  · intro hopen j f hj
    rw [hsocket] at hopen
    rw [hwritten]
    rcases hcases j f hj with ⟨-, rfl⟩ | hj
    · exact hlow
    · exact h.ahead hopen j f hj
  · rw [hcalls]
    exact hrecorded.append hgenuine.max hgenuine.nonce
  · intro j f hj
    rcases hcases j f hj with ⟨-, rfl⟩ | hj
    · exact Nat.lt_succ_self m
    · exact (hbelow j f hj).trans (Nat.lt_succ_self m)
  · intro hopen i hi hnext
    rw [hsocket] at hopen
    rw [hwritten] at hi
    by_cases him : i = m
    · refine ⟨k, ⟨raw, m, call⟩, ?_, him.symm⟩
      rw [hholds, if_pos rfl]
    · obtain ⟨j, f, hj, hf⟩ := hcomplete hopen i hi (by omega)
      refine ⟨j, f, ?_, hf⟩
      rw [hholds, if_neg]
      · exact hj
      · rintro rfl
        exact hfree f hj

/-- The socket takes the oldest frame that was sealed and not written. -/
theorem wrote {k : Nat} {f : Frame} (hopen : w.socketOpen = true)
    (hheld : Holds w k f) (holdest : ∀ j g, Holds w j g → f.sequence ≤ g.sequence)
    (hclient' : w'.client = w.client) (hcalls : w'.calls = w.calls)
    (hwritten : w'.written = w.written ++ [f])
    (hholds : ∀ j g, Holds w' j g ↔ j ≠ k ∧ Holds w j g) : InOrder kotlin client n w' := by
  obtain ⟨next, hclient, hrecorded, hlow, hbelow, hcomplete⟩ := h.next
  have hsequence := h.sequence_of_oldest hopen hheld holdest
  have hlength : n + w'.written.length = n + w.written.length + 1 := by
    rw [hwritten, List.length_append, List.length_singleton]
    rfl
  have hnext := hbelow k f hheld
  refine ⟨?_, ?_, ?_, ?_, next, hclient'.trans hclient, hcalls ▸ hrecorded, by omega, ?_, ?_⟩
  · rw [hwritten]
    exact Consecutive.concat_iff.mpr ⟨h.written, hsequence⟩
  · rw [hcalls, hwritten]
    rintro g (hg | ⟨j, hj⟩)
    · rcases List.mem_append.mp hg with hold | hlast
      · exact h.genuine g (.inl hold)
      · rw [List.mem_singleton.mp hlast]
        exact h.genuine f (.inr ⟨k, hheld⟩)
    · exact h.genuine g (.inr ⟨j, ((hholds j g).mp hj).2⟩)
  · exact fun i j a b hi hj =>
      h.single i j a b ((hholds i a).mp hi).2 ((hholds j b).mp hj).2
  · intro _ j g hj
    obtain ⟨hjk, hj⟩ := (hholds j g).mp hj
    have hne : g.sequence ≠ f.sequence := fun heq => hjk (h.single j k g f hj hheld heq)
    have hle := h.ahead hopen j g hj
    omega
  · exact fun j g hj => hbelow j g ((hholds j g).mp hj).2
  · intro _ m hm hnext
    obtain ⟨j, g, hj, hg⟩ := hcomplete hopen m (by omega) hnext
    refine ⟨j, g, (hholds j g).mpr ⟨?_, hj⟩, hg⟩
    rintro rfl
    rw [holds_inj hj hheld] at hg
    omega

/-- **One event that overtakes nothing keeps the order.** -/
theorem move (hmove : LinkMove kotlin w e w')
    (hturn : InTurn w e) : InOrder kotlin client n w' := by
  cases hmove with
  | idle hclient hcalls hwritten hsocket hkept hall =>
    exact h.idle hclient hcalls hwritten hsocket hkept hall
  | sealed hm hmax hgenuine hclient hcalls hwritten hsocket hholds hfree =>
    exact h.sealed hm hgenuine hclient hcalls hwritten hsocket hholds hfree
  | @wrote k f _ hopen hheld hclient hcalls hwritten hsocket hholds =>
    refine h.wrote hopen hheld ?_ hclient hcalls hwritten hholds
    rintro j g ⟨t, ht, htg⟩
    obtain ⟨s, hs, hsf⟩ := hheld
    exact hturn hopen rfl s f hs hsf j t g ht htg

/-- **A write out of turn leaves a gap.** -/
theorem gap_of_overtaking (hstep : LinkStep cipher kotlin w e w')
    (hturn : ¬ InTurn w e) : ¬ Consecutive Frame.sequence n w'.written := by
  cases e with
  | write k accepts =>
    -- the socket took the frame while another sender held an older one
    simp only [InTurn, not_forall, Nat.not_le] at hturn
    obtain ⟨hopen, rfl, ⟨locked, frame⟩, f, hs, rfl, j, t, g, ht, htg, holder⟩ := hturn
    simp only [LinkStep, Link.step, hs, hopen, and_self, if_true, Option.some.injEq] at hstep
    rw [← hstep]
    intro hconsecutive
    have hsequence := (Consecutive.concat_iff.mp hconsecutive).2
    have hlow := h.ahead hopen j g ⟨t, ht, htg⟩
    omega
  | enter | sealFrame | cancel => exact absurd trivial hturn

end

end InOrder

theorem LinkMove.written_extends (h : LinkMove kotlin w e w') : w.written <+: w'.written := by
  cases h with
  | idle _ _ hwritten => rw [hwritten]
  | sealed _ _ _ _ _ hwritten => rw [hwritten]
  | wrote _ _ _ _ hwritten =>
    rw [hwritten]
    exact List.prefix_append _ _

/-- In a run that ends without a gap, no write overtook another. -/
theorem runs_inTurn {es : List LinkEvent} (hrun : Runs (LinkStep cipher kotlin) w es w')
    (h : InOrder kotlin client n w) (hconsecutive : Consecutive Frame.sequence n w'.written) :
    Runs (InTurnStep cipher kotlin) w es w' := by
  induction hrun with
  | nil => exact .nil _
  | @cons s s' t e es first rest ih =>
    have hmove := step_linkMove first
    by_cases hturn : InTurn s e
    · exact .cons ⟨first, hturn⟩ (ih (h.move hmove hturn) hconsecutive)
    · have hgrows : s'.written <+: t.written :=
        rest.invariant (I := fun u => s'.written <+: u.written)
          (fun _ _ _ hu hstep => hu.trans (step_linkMove hstep).written_extends)
          (List.prefix_refl _)
      exact absurd (hconsecutive.of_prefix hgrows) (h.gap_of_overtaking first hturn)

/-! ## §4 — runs -/

/-- **The order of the client's writes.** In every run of the senders of one connection, the frames
handed to the socket carry the sequences from the first on without a gap if and only if no write
that the socket took came before an older frame; and then the relay opens every one of them, to what
was sealed. -/
theorem writes_in_order {relay : Session} {calls : List AeadCall}
    (hreads : client.codec = .json → Reads rust kotlin) (hpeers : Peers client relay)
    (hsend : client.sendSequence = n) (hreceive : relay.receiveSequence = n)
    (hrecorded : Recorded client calls n) {es : List LinkEvent}
    (hrun : Runs (LinkStep cipher kotlin) (.start client calls) es w) :
    (Consecutive Frame.sequence n w.written ↔
      Runs (InTurnStep cipher kotlin) (.start client calls) es w) ∧
    (Runs (InTurnStep cipher kotlin) (.start client calls) es w →
      relay.openAll w.calls rust (w.written.map Frame.raw)
        = .ok ({ relay with receiveSequence := n + w.written.length },
            w.written.map (·.call.plaintext))) := by
  have hfree : ∀ k f, ¬ Holds (.start client calls) k f := by
    rintro k f ⟨s, hs, -⟩
    cases hs
  have hstart : InOrder kotlin client n (.start client calls) := by
    refine ⟨trivial, ?_, ?_, ?_, n, ?_, hrecorded, le_refl _, ?_, ?_⟩
    · rintro f (hf | ⟨k, hk⟩)
      · cases hf
      · exact absurd hk (hfree k f)
    · exact fun j k f g hj => absurd hj (hfree j f)
    · exact fun _ k f hk => absurd hk (hfree k f)
    · rw [E2EESession.atSequence, ← hsend]
      rfl
    · exact fun k f hk => absurd hk (hfree k f)
    · intro _ m hm hnext
      have hlow : n ≤ m := hm
      omega
  have horder : Runs (InTurnStep cipher kotlin) (.start client calls) es w →
      InOrder kotlin client n w := fun h =>
    h.invariant (I := InOrder kotlin client n)
      (fun _ _ _ hi hstep => hi.move (step_linkMove hstep.1) hstep.2) hstart
  refine ⟨⟨runs_inTurn hrun hstart, fun h => (horder h).written⟩, ?_⟩
  intro hturn
  have hinorder := horder hturn
  obtain ⟨next, -, hcalls, -⟩ := hinorder.next
  have hwritten : Consecutive Frame.sequence relay.receiveSequence w.written :=
    hreceive ▸ hinorder.written
  have hopen := Session.openAll_consecutive hreads hcalls hpeers
    (fun f hf => hinorder.genuine f (.inl hf)) hwritten
  rw [hreceive] at hopen
  exact hopen

/-- A request and a keepalive, neither of which takes the lock, have both sealed. -/
def bothSealed : List LinkEvent :=
  [.enter 1 false, .enter 2 false, .sealFrame 1 [1], .sealFrame 2 [2]]

/-- The keepalive writes first. -/
def overtaking : List LinkEvent := bothSealed ++ [.write 2 true, .write 1 true]

/-- The request writes first. -/
def inTurn : List LinkEvent := bothSealed ++ [.write 1 true, .write 2 true]

/-- **A frame overtaken on its way to the socket**: sealed under 1 and 2, written as 2 and 1, and
the relay refuses the first it gets. -/
theorem writes_out_of_order :
    ∃ w, Runs (LinkStep openCipher compactKotlin) (.start sampleClient []) overtaking w ∧
      w.written.map Frame.sequence = [2, 1] ∧
      (sampleRelay.openAll w.calls compactRust (w.written.map Frame.raw)).map Prod.snd
        = .error (.invalidSequence 1 2) := by
  exact Runs.of_any (fun _ _ _ _ => id) (by decide +kernel)

theorem writes_in_order_both :
    ∃ w, Runs (LinkStep openCipher compactKotlin) (.start sampleClient []) inTurn w ∧
      Runs (InTurnStep openCipher compactKotlin) (.start sampleClient []) inTurn w ∧
      sampleRelay.openAll w.calls compactRust (w.written.map Frame.raw)
        = .ok ({ sampleRelay with receiveSequence := 1 + w.written.length },
            w.written.map (·.call.plaintext)) := by
  have hcomputed : ∃ w, Runs (LinkStep openCipher compactKotlin) (.start sampleClient []) inTurn w ∧
      Consecutive Frame.sequence 1 w.written :=
    Runs.of_any (fun _ _ _ _ => id) (by decide +kernel)
  obtain ⟨w, hrun, hconsecutive⟩ := hcomputed
  obtain ⟨hiff, hopens⟩ := writes_in_order (fun _ => reads_compact) peers_sample rfl rfl
    (recorded_nil sampleClient 1) hrun
  have hturn := hiff.mp hconsecutive
  exact ⟨w, hrun, hturn, hopens hturn⟩

end Lerdr.Transport
