/-
# Lerdr.Relay.Authority — who may do what, and until when.

Every hand-over was admitted by an answer of the store: a current credential of the session, with a
role that allows the action. The check comes before the hand-over and the lock of the store is free
in between, so a revocation can commit between the two; the one message that passed its check before
it is then still handed over. From the commit on, every further check refuses.
-/
import Lerdr.Relay.Moves
import Lerdr.Auth.Redemption
import Lerdr.Auth.Invariant

namespace Lerdr.Relay

open Lib Lerdr.Rust Lerdr.Auth
open Lerdr.Auth.AuthState

variable {tape : Tape} {w w' : Shared} {e : RelayEvent}
variable {id : Text} {s : AuthState} {version : UInt64}

/-! ## §1 — the store's answer -/

theorem authorize_eq_some {credential : Credential} (h : s.authorize id version = some credential) :
    credential.credentialId = id ∧ credential.version = version ∧ credential.revoked = false := by
  unfold AuthState.authorize at h
  cases hrecord : s.record id with
  | none => rw [hrecord] at h; cases h
  | some r =>
    rw [hrecord] at h
    simp only at h
    split at h
    · cases h
    · rename_i hlive
      simp only [not_or, Bool.not_eq_true, not_not] at hlive
      obtain rfl := Option.some.inj h
      exact ⟨credentialId_of_record hrecord, hlive.2, hlive.1⟩

theorem authorize_eq_none_iff :
    s.authorize id version = none ↔ ∀ r, s.record id = some r → Stale r version := by
  unfold AuthState.authorize
  cases s.record id with
  | none => simp
  | some r =>
    simp only
    by_cases hstale : r.credential.revoked = true ∨ r.credential.version ≠ version
    · rw [if_pos hstale]
      refine ⟨?_, fun _ => rfl⟩
      rintro - r' ⟨⟩
      exact hstale
    · rw [if_neg hstale]
      exact ⟨nofun, fun h => absurd (h r rfl) hstale⟩

/-- The random source does not give out this identifier in the stretch. -/
def NotDrawn (tape : Tape) (first last : Nat) (id : Text) : Prop :=
  ∀ p, first ≤ p → p < last → Base64.encode (tape p identifierBytes).toList ≠ id

/-- **What is not current stays so**, as long as its identifier is not given out again. -/
theorem authorize_stays_none {c : StoreCore} (call : Call) (h : c.state.authorize id version = none)
    (hfresh : NotDrawn tape c.drawn (c.perform tape call).1.drawn id) :
    (c.perform tape call).1.state.authorize id version = none := by
  rw [authorize_eq_none_iff] at h ⊢
  have hrecords := (StoreCore.storeStep_transaction tape c call).effect.records
  unfold record at h ⊢
  generalize (c.perform tape call).1.state.credentials = ys at hrecords
  cases hrecords with
  | same => exact h
  | @touched other f htouches =>
    by_cases hid : id = other
    · subst hid
      rw [Keyed.lookup_update_self htouches.credentialId]
      intro r hr
      obtain ⟨r₀, hr₀, rfl⟩ := Option.map_eq_some_iff.mp hr
      rw [Stale, htouches.revoked, htouches.version]
      exact h r₀ hr₀
    · rw [Keyed.lookup_update_of_ne htouches.credentialId hid]
      exact h
  | @revoked r₀ hop hrecord hlive hspare =>
    by_cases hid : id = r₀.credential.credentialId
    · subst hid
      rw [Keyed.lookup_update_self tombstone_credentialId]
      intro r hr
      obtain ⟨r₁, -, rfl⟩ := Option.map_eq_some_iff.mp hr
      exact .inl rfl
    · rw [Keyed.lookup_update_of_ne tombstone_credentialId hid]
      exact h
  | @minted s₀ i r₀ hcredentials hr₀ =>
    obtain ⟨p, hp, hp', hdrawn⟩ := hr₀.drawn
    have hne : r₀.credential.credentialId ≠ id := hdrawn ▸ hfresh p hp hp'
    have hnew := hr₀.credentialId_fresh
    rw [hcredentials] at hnew
    rw [Keyed.lookup_append_singleton hnew, if_neg hne]
    exact h
  | wiped =>
    intro r hr
    rw [Keyed.lookup_nil] at hr
    cases hr

/-- What an event does to the store is nothing, or one call. -/
theorem Move.core (h : Move tape w e w') :
    w'.core = w.core ∨ ∃ call, w'.core = (w.core.perform tape call).1 := by
  cases h with
  | stored call => exact .inr ⟨call, rfl⟩
  | handed _ _ _ _ hcore =>
    rcases hcore with rfl | ⟨call, -, rfl⟩
    · exact .inl rfl
    · exact .inr ⟨call, rfl⟩
  | administered => exact .inr ⟨_, rfl⟩
  | swept => exact .inl (disconnectCredentials_frame _ _ _).1
  | connected | moved | admitted | ended | closing => exact .inl rfl

theorem Move.drawn_le (h : Move tape w e w') : w.core.drawn ≤ w'.core.drawn := by
  rcases h.core with heq | ⟨call, heq⟩
  · rw [heq]
  · rw [heq]
    exact (StoreCore.storeStep_transaction tape w.core call).drawn_le

/-! ## §2 — what was handed over was authorized -/

/-- The hand-over was admitted by a current credential of the session's device; if a reader's, it is
something a reader may do. -/
def Authorized (h : HandOver) : Prop :=
  ∃ credential, h.current = some credential ∧
    credential.credentialId = h.identity.credentialId ∧
    credential.version = h.identity.credentialVersion ∧ credential.revoked = false ∧
    credential.deviceId = h.identity.deviceId ∧
    (credential.role = .reader → ReaderMay h.identity h.work.action (h.work.deviceId h.identity))

theorem authorized_of_check {identity : AuthenticatedIdentity} {work : Work}
    {current : Option Credential}
    (hcurrent : current = s.authorize identity.credentialId identity.credentialVersion)
    (hpass : authorize identity current work.action (work.deviceId identity) = none)
    (client : Nat) : Authorized ⟨client, identity, work, current⟩ := by
  obtain ⟨credential, hsome, hdevice, hrole⟩ := authorize_eq_none hpass
  obtain ⟨hid, hversion, hlive⟩ := authorize_eq_some (hcurrent.symm.trans hsome)
  refine ⟨credential, hsome, hid, hversion, hlive, hdevice, ?_⟩
  intro hreader
  rcases hrole with hcontroller | hmay
  · rw [hreader] at hcontroller
    cases hcontroller
  · exact hmay

/-- Everything admitted or handed over is authorized. -/
structure Enforced (w : Shared) : Prop where
  admitted : ∀ k a work current, w.actors k = some a → a.phase = .admitted work current →
    Authorized ⟨k, a.identity, work, current⟩
  handed : ∀ h ∈ w.handed, Authorized h

namespace Enforced

theorem put (h : Enforced w) {k : Nat} {a' : Actor}
    (ha' : ∀ work current, a'.phase = .admitted work current →
      Authorized ⟨k, a'.identity, work, current⟩) : Enforced (w.put k a') := by
  refine ⟨?_, h.handed⟩
  intro j b work current hb hphase
  rw [actors_put] at hb
  by_cases hj : j = k
  · rw [if_pos hj] at hb
    obtain rfl := Option.some.inj hb
    rw [hj]
    exact ha' work current hphase
  · rw [if_neg hj] at hb
    exact h.admitted j b work current hb hphase

theorem put_calm (h : Enforced w) {k : Nat} {a a' : Actor} (ha : w.actors k = some a)
    (hcalm : a.Calm a') : Enforced (w.put k a') := by
  refine h.put ?_
  intro work current hphase
  rw [hcalm.identity]
  rcases hcalm.phase with hsame | hopen
  · exact h.admitted k a work current ha (hsame ▸ hphase)
  · exact absurd hphase (hopen.ne_admitted work current)

theorem of_eq (h : Enforced w) (hactors : w'.actors = w.actors) (hhanded : w'.handed = w.handed) :
    Enforced w' :=
  ⟨hactors ▸ h.admitted, hhanded ▸ h.handed⟩

/-- **One event keeps it.** -/
theorem move (h : Enforced w) (hmove : Move tape w e w') : Enforced w' := by
  cases hmove with
  | stored call => exact h.of_eq rfl rfl
  | closing => exact h.of_eq rfl rfl
  | connected hfree _ =>
    unfold Shared.register
    refine Enforced.put ?_ ?_
    · exact h.of_eq rfl rfl
    intro work current hphase
    cases hphase
  | moved ha hcalm => exact h.put_calm ha hcalm
  | @admitted client opened a work current ha hidle hanswer hpass =>
    refine h.put ?_
    rintro _ _ ⟨⟩
    exact authorized_of_check hanswer hpass client
  | @handed _ client a a' work current core ha hphase hcalm hopen hcore =>
    have hnew := h.admitted client a work current ha hphase
    have hhanded : Enforced { w with
        core, handed := w.handed ++ [HandOver.mk client a.identity work current] } := by
      refine ⟨h.admitted, ?_⟩
      intro x hx
      rcases List.mem_append.mp hx with hx | hx
      · exact h.handed x hx
      · rw [List.mem_singleton.mp hx]
        exact hnew
    refine hhanded.put ?_
    intro work current hphase'
    exact absurd hphase' (hopen.ne_admitted work current)
  | @administered client now persist a scope inbound op outcome destroys ha hcommand =>
    unfold Shared.administer
    refine Enforced.put ?_ ?_
    · exact h.of_eq rfl rfl
    intro work current hphase
    rw [Actor.settle_phase] at hphase
    cases hphase
  | @swept client now a ha hidle =>
    unfold Shared.disconnectRevoked
    refine Enforced.put ⟨?_, ?_⟩ ?_
    · intro j b work current hb hphase
      obtain ⟨b₀, hb₀, hcalm, hphase'⟩ := of_disconnectCredentials hb
      rw [hcalm.identity]
      exact h.admitted j b₀ work current hb₀ (hphase'.symm.trans hphase)
    · rw [(disconnectCredentials_frame _ _ _).2.1]
      exact h.handed
    · intro work current hphase
      simp only at hphase
      split at hphase <;> cases hphase
  | ended ha hends =>
    refine h.put ?_
    intro work current hphase
    cases hphase

end Enforced

/-! ## §3 — after the commit -/

def Shared.handedBy (w : Shared) (client : Nat) : List HandOver :=
  w.handed.filter fun h => h.client = client

/-- Since a state in which the session stood at `phase` and had handed over `before`: its credential
is still not current, and it handed over nothing more, or the work it was admitted to then. -/
structure Fenced (k : Nat) (identity : AuthenticatedIdentity) (phase : Phase)
    (before : List HandOver) (w : Shared) : Prop where
  stale : w.core.state.authorize identity.credentialId identity.credentialVersion = none
  session : ∃ a, w.actors k = some a ∧ a.identity = identity ∧
    ((w.handedBy k = before ∧
        ∀ work current, a.phase = .admitted work current → phase = .admitted work current) ∨
      ((∀ work current, a.phase ≠ .admitted work current) ∧
        ∃ work current, phase = .admitted work current ∧
          w.handedBy k = before ++ [⟨k, identity, work, current⟩]))

namespace Fenced

variable {k : Nat} {identity : AuthenticatedIdentity} {phase : Phase} {before : List HandOver}

section

variable (h : Fenced k identity phase before w)
include h

/-- The session's own actor is rewritten, and is not newly admitted. -/
theorem put_self {a' : Actor} (ha' : ∀ a, w.actors k = some a → a'.identity = a.identity ∧
      ∀ work current, a'.phase = .admitted work current → a.phase = .admitted work current) :
    Fenced k identity phase before (w.put k a') := by
  obtain ⟨hstale, a, ha, hidentity, hhistory⟩ := h
  obtain ⟨hkeeps, hphase⟩ := ha' a ha
  refine ⟨hstale, a', by rw [actors_put, if_pos rfl], hkeeps.trans hidentity, ?_⟩
  rcases hhistory with ⟨hnone, hsame⟩ | ⟨hleft, hone⟩
  · exact .inl ⟨hnone, fun work current hp => hsame work current (hphase work current hp)⟩
  · exact .inr ⟨fun work current hp => hleft work current (hphase work current hp), hone⟩

theorem put_other {j : Nat} (hj : k ≠ j) (b : Actor) :
    Fenced k identity phase before (w.put j b) := by
  obtain ⟨hstale, a, ha, hsession⟩ := h
  exact ⟨hstale, a, by rw [actors_put, if_neg hj]; exact ha, hsession⟩

theorem put {j : Nat} {a a' : Actor}
    (ha : w.actors j = some a) (hidentity : a'.identity = a.identity)
    (hphase : ∀ work current, a'.phase = .admitted work current →
      a.phase = .admitted work current) : Fenced k identity phase before (w.put j a') := by
  by_cases hj : k = j
  · subst hj
    refine h.put_self ?_
    intro b hb
    obtain rfl := Option.some.inj (ha.symm.trans hb)
    exact ⟨hidentity, hphase⟩
  · exact h.put_other hj a'

/-- Nothing but the store and the registry's bookkeeping changed. -/
theorem of_eq (hactors : w'.actors = w.actors) (hhanded : w'.handed = w.handed)
    (hstale : w'.core.state.authorize identity.credentialId identity.credentialVersion = none) :
    Fenced k identity phase before w' := by
  obtain ⟨-, a, ha, hidentity, hhistory⟩ := h
  refine ⟨hstale, a, hactors ▸ ha, hidentity, ?_⟩
  unfold Shared.handedBy at hhistory ⊢
  rw [hhanded]
  exact hhistory

/-- A session hands over what it was admitted to: its own hand-over is the one admitted before, and
another's is none of this session's. -/
theorem handOver {client : Nat} {b b' : Actor} {work : Work}
    {current : Option Credential} {core : StoreCore} (hb : w.actors client = some b)
    (hphase : b.phase = .admitted work current) (hcalm : b.Calm b') (hopen : b'.phase.Open)
    (hstale : core.state.authorize identity.credentialId identity.credentialVersion = none) :
    Fenced k identity phase before (Shared.put { w with
      core, handed := w.handed ++ [HandOver.mk client b.identity work current] } client b') := by
  obtain ⟨-, a, ha, hidentity, hhistory⟩ := h
  by_cases hk : k = client
  · subst hk
    obtain rfl := Option.some.inj (ha.symm.trans hb)
    refine ⟨hstale, b', by rw [actors_put, if_pos rfl], hcalm.identity.trans hidentity,
      .inr ⟨hopen.ne_admitted, ?_⟩⟩
    rcases hhistory with ⟨hnone, hsame⟩ | ⟨hleft, -⟩
    · refine ⟨work, current, hsame work current hphase, ?_⟩
      rw [← hnone, ← hidentity]
      simp [Shared.handedBy, Shared.put]
    · exact absurd hphase (hleft work current)
  · refine ⟨hstale, a, by rw [actors_put, if_neg hk]; exact ha, hidentity, ?_⟩
    have hsame : (Shared.put { w with
        core, handed := w.handed ++ [HandOver.mk client b.identity work current] } client
          b').handedBy k = w.handedBy k := by
      simp [Shared.handedBy, Shared.put, Ne.symm hk]
    rw [hsame]
    exact hhistory

/-- The timer of a session fires. -/
theorem disconnectRevoked {client : Nat} {b : Actor} (hb : w.actors client = some b) :
    Fenced k identity phase before (w.disconnectRevoked client b) := by
  obtain ⟨b', hb', hcalm', -⟩ := exists_disconnectCredentials hb client b.pendingDisconnects
  have hswept : Fenced k identity phase before
      (w.disconnectCredentials client b.pendingDisconnects) := by
    obtain ⟨hcore, hhanded, -⟩ := disconnectCredentials_frame w client b.pendingDisconnects
    obtain ⟨hstale, a, ha, hidentity, hhistory⟩ := h
    obtain ⟨a', ha', hcalm, hphase⟩ := exists_disconnectCredentials ha client b.pendingDisconnects
    refine ⟨by rw [hcore]; exact hstale, a', ha', hcalm.identity.trans hidentity, ?_⟩
    unfold Shared.handedBy at hhistory ⊢
    rw [hhanded, hphase]
    exact hhistory
  unfold Shared.disconnectRevoked
  refine hswept.put hb' hcalm'.identity.symm ?_
  intro work current hp
  simp only at hp
  split at hp <;> cases hp

/-- **One event keeps it**: a check refuses, and a hand-over is of the work admitted before. -/
theorem move (hmove : Move tape w e w')
    (hfresh : NotDrawn tape w.core.drawn w'.core.drawn identity.credentialId) :
    Fenced k identity phase before w' := by
  have hstale' : w'.core.state.authorize identity.credentialId identity.credentialVersion
      = none := by
    rcases hmove.core with heq | ⟨call, heq⟩
    · rw [heq]
      exact h.stale
    · rw [heq] at hfresh ⊢
      exact authorize_stays_none call h.stale hfresh
  cases hmove with
  | stored call => exact h.of_eq rfl rfl hstale'
  | closing => exact h.of_eq rfl rfl hstale'
  | @connected client _ hfree _ =>
    obtain ⟨a, ha, -⟩ := h.session
    have hne : k ≠ client := by
      rintro rfl
      rw [hfree] at ha
      cases ha
    unfold Shared.register
    refine Fenced.put_other ?_ hne _
    exact h.of_eq rfl rfl h.stale
  | moved ha hcalm =>
    refine h.put ha hcalm.identity ?_
    intro work current hp
    rcases hcalm.phase with hsame | hopen
    · rwa [hsame] at hp
    · exact absurd hp (hopen.ne_admitted work current)
  | @admitted client opened b work current hb hidle hanswer hpass =>
    -- the check of this very session would have refused
    have hne : k ≠ client := by
      rintro rfl
      obtain ⟨a, ha, hidentity, -⟩ := h.session
      obtain rfl := Option.some.inj (ha.symm.trans hb)
      rw [hidentity, h.stale] at hanswer
      rw [hanswer] at hpass
      cases hpass
    exact h.put_other hne _
  | handed hb hphase hcalm hopen hcore => exact h.handOver hb hphase hcalm hopen hstale'
  | @administered client now persist b scope inbound op outcome destroys hb hcommand =>
    unfold Shared.administer at hstale' ⊢
    refine Fenced.put ?_ hb (Actor.settle_identity b _ _ _ _).1 ?_
    · exact h.of_eq rfl rfl hstale'
    intro work current hp
    rw [Actor.settle_phase] at hp
    cases hp
  | swept hb hidle => exact h.disconnectRevoked hb
  | ended ha hends =>
    refine h.put ha rfl ?_
    intro work current hp
    cases hp

end

end Fenced

/-! ## §4 — runs -/

/-- **Revocation and role enforcement.** In every run of the relay, whatever was handed over to the
router, to device administration or to the upload path was admitted by a current credential of the
session, and a reader's hand-over is a read-only action, one on its own push subscription, or the
revocation of its own device. And from any state in which the credential of a session is not current
(revoked, reset away or at another version) on, every further check of the session refuses: it hands
over nothing more, or only the one message that it had been admitted to before. -/
theorem revocation_enforced {core : StoreCore} {resetBootstrap : Option BootstrapRearm}
    {es es' : List RelayEvent} (hpre : Runs (RelayStep tape) (.start core resetBootstrap) es w)
    (hpost : Runs (RelayStep tape) w es' w') :
    (∀ h ∈ w'.handed, Authorized h) ∧
    ∀ k a, w.actors k = some a →
      w.core.state.authorize a.identity.credentialId a.identity.credentialVersion = none →
      NotDrawn tape w.core.drawn w'.core.drawn a.identity.credentialId →
        w'.handedBy k = w.handedBy k ∨
        ∃ work current, a.phase = .admitted work current ∧
          w'.handedBy k = w.handedBy k ++ [⟨k, a.identity, work, current⟩] := by
  have hstart : Enforced (Shared.start core resetBootstrap) := by
    refine ⟨?_, List.forall_mem_nil _⟩
    intro k a work current ha
    cases ha
  have henforced : Enforced w' :=
    hpost.invariant (I := Enforced) (fun _ _ _ h hstep => h.move (step_move hstep))
      (hpre.invariant (I := Enforced) (fun _ _ _ h hstep => h.move (step_move hstep)) hstart)
  refine ⟨henforced.handed, ?_⟩
  intro k a ha hstale hfresh
  -- the identifiers drawn so far are among those of the whole stretch
  have hfenced : w.core.drawn ≤ w'.core.drawn ∧ (w'.core.drawn ≤ w'.core.drawn →
      Fenced k a.identity a.phase (w.handedBy k) w') := by
    refine hpost.invariant (I := fun x => w.core.drawn ≤ x.core.drawn ∧
      (x.core.drawn ≤ w'.core.drawn → Fenced k a.identity a.phase (w.handedBy k) x)) ?_ ?_
    · rintro x e y ⟨hle, hx⟩ hstep
      have hmove := step_move hstep
      refine ⟨hle.trans hmove.drawn_le, ?_⟩
      intro hy
      refine (hx (hmove.drawn_le.trans hy)).move hmove ?_
      exact fun p hp hp' => hfresh p (hle.trans hp) (hp'.trans_le hy)
    · exact ⟨le_refl _, fun _ => ⟨hstale, a, ha, rfl, .inl ⟨rfl, fun _ _ => id⟩⟩⟩
  obtain ⟨-, b, -, -, hhistory⟩ := hfenced.2 (le_refl _)
  rcases hhistory with ⟨hnone, -⟩ | ⟨-, hone⟩
  · exact .inl hnone
  · exact .inr hone

/-! ### Two controllers, one revoking the other -/

/-- The session of a controller of `twoControllers`. -/
def sampleIdentity (id : Text) : AuthenticatedIdentity where
  deviceId := id
  credentialId := id
  role := .controller
  locale := "en".toList
  credentialVersion := 1

/-- A completed handshake of it. -/
def authenticates (id : Text) : RelayEvent :=
  .call
    { op := .complete { kind := .credential, id, version := 1, locale := "en".toList } true
      now := 0
      persist := .ok () }

def bothConnect : List RelayEvent :=
  [ authenticates ['a'], authenticates ['b'],
    .connect 1 (sampleIdentity ['a']), .connect 2 (sampleIdentity ['b']) ]

def secondRevokesFirst : List RelayEvent :=
  [ .frame 2 (.message { type := "revoke_device".toList, protocol := 3, deviceId := ['a'] }),
    .handOver 2 none 0 (.ok ()), .administer 2 0 (.ok ()) ]

/-- A message of the first passes its check. -/
def firstIsAdmitted : List RelayEvent :=
  [.frame 1 (.message { type := "acknowledge_pane".toList, protocol := 3 })]

/-- **Handed over after the commit**: the first session's message passed its check, the second
session's revocation commits, and the message goes to the router. -/
theorem handed_after_revocation :
    ∃ w w', Runs (RelayStep zeroTape) (.start (twoControllers 1) none)
        (bothConnect ++ firstIsAdmitted ++ secondRevokesFirst) w ∧
      w.core.state.authorize ['a'] 1 = none ∧ w.handedBy 1 = [] ∧
      Runs (RelayStep zeroTape) w [.handOver 1 none 1 (.ok ())] w' ∧
      (w'.handedBy 1).length = 1 := by
  have hcomputed : ∃ w, Runs (RelayStep zeroTape) (.start (twoControllers 1) none)
      (bothConnect ++ firstIsAdmitted ++ secondRevokesFirst) w ∧
      w.core.state.authorize ['a'] 1 = none ∧ w.handedBy 1 = [] ∧
      (([.handOver 1 none 1 (.ok ())] : List RelayEvent).foldlM (Shared.step zeroTape) w).any
        (fun w' => (w'.handedBy 1).length = 1) = true :=
    Runs.of_any (fun _ _ _ _ => id) (by decide +kernel)
  obtain ⟨w, hrun, hstale, hbefore, hlast⟩ := hcomputed
  obtain ⟨w', hrun', hafter⟩ := Runs.of_any (fun _ _ _ _ => id) hlast
  exact ⟨w, w', hrun, hstale, hbefore, hrun', hafter⟩

/-- The same message, arriving after the commit, is not handed over. -/
theorem revocation_enforced_after_commit :
    ∃ w w', Runs (RelayStep zeroTape) (.start (twoControllers 1) none)
        (bothConnect ++ secondRevokesFirst) w ∧
      Runs (RelayStep zeroTape) w firstIsAdmitted w' ∧ w'.handed.length = 1 ∧
      (∀ h ∈ w'.handed, Authorized h) ∧ w'.handedBy 1 = w.handedBy 1 := by
  have hcomputed : ∃ w, Runs (RelayStep zeroTape) (.start (twoControllers 1) none)
      (bothConnect ++ secondRevokesFirst) w ∧ w.core.state.authorize ['a'] 1 = none ∧
      (w.actors 1).map (fun a => (a.identity, a.phase)) = some (sampleIdentity ['a'], .idle) ∧
      (firstIsAdmitted.foldlM (Shared.step zeroTape) w).any
        (fun w' => w'.handed.length = 1 ∧ w'.core.drawn = 0) = true :=
    Runs.of_any (fun _ _ _ _ => id) (by decide +kernel)
  obtain ⟨w, hpre, hstale, hactor, hlast⟩ := hcomputed
  obtain ⟨a, ha, heq⟩ := Option.map_eq_some_iff.mp hactor
  obtain ⟨hidentity, hphase⟩ := Prod.mk.inj heq
  obtain ⟨w', hpost, hlength, hdrawn⟩ := Runs.of_any (fun _ _ _ _ => id) hlast
  obtain ⟨hhanded, hlater⟩ := revocation_enforced hpre hpost
  refine ⟨w, w', hpre, hpost, hlength, hhanded, ?_⟩
  have hfresh : NotDrawn zeroTape w.core.drawn w'.core.drawn a.identity.credentialId := by
    intro p _ hp
    omega
  rcases hlater 1 a ha (by rw [hidentity]; exact hstale) hfresh with hsame | ⟨_, _, hadmitted, -⟩
  · exact hsame
  · rw [hphase] at hadmitted
    cases hadmitted

end Lerdr.Relay
