/-
# Lerdr.Relay.Fence — registrations against the sweep of a destroyed credential.

`disconnect_credentials` and the registration callback take one lock, so a registration comes wholly
before a sweep or wholly after it. Before it, the sweep finds the session and tells it to close;
after it, the callback finds the fence and turns the session away, whenever its handshake finished.

One session is passed over: the requester. Its own close is not the sweep's work but that of the
turn the sweep is part of, which fires the requester's kill switch next if its own credential was
among the destroyed ones. The sweep is an event of its own here, by any requester and for any pairs,
beside the turn of the timer that is its only caller in the source.
-/
import Lerdr.Relay.Sweep

namespace Lerdr.Relay

open Lib Lerdr.Rust Lerdr.Auth

variable {tape : Tape} {w w' : Shared}

/-! ## §1 — sweeps among the events -/

/-- An event of the relay, or one sweep of the registry. -/
inductive FenceEvent where
  | relay (event : RelayEvent)
  | sweep (requester : Nat) (pairs : List (Text × UInt64))

/-- One event, if it can happen. -/
def Shared.fenceStep (tape : Tape) (w : Shared) : FenceEvent → Option Shared
  | .relay event => w.step tape event
  | .sweep requester pairs => some (w.disconnectCredentials requester pairs)

/-- The step relation of the relay with sweeps. -/
def FenceStep (tape : Tape) (w : Shared) (e : FenceEvent) (w' : Shared) : Prop :=
  w.fenceStep tape e = some w'

namespace FenceEvent

/-- What the event sweeps: the pairs of a sweep, or those pending at the session whose timer
fires. -/
def pairs (w : Shared) : FenceEvent → List (Text × UInt64)
  | .sweep _ pairs => pairs
  | .relay (.timer client _) => ((w.actors client).map Actor.pendingDisconnects).getD []
  | .relay _ => []

/-- The session is the requester of a sweep, outside the turn that would close it too. -/
def Spares (k : Nat) : FenceEvent → Prop
  | .sweep requester _ => k = requester
  | .relay _ => False

end FenceEvent

/-! ## §2 — what an event does to one session -/

/-- Where its own credential is to be disconnected, the session will close itself. -/
def Actor.Vowed (a : Actor) : Prop :=
  ∀ pair ∈ a.pendingDisconnects, pair.1 = a.identity.credentialId → a.selfDisconnect = true

/-- The session goes on: as the one it was, and told to close if it was told before. -/
structure Actor.Continues (a a' : Actor) : Prop where
  identity : a'.identity = a.identity
  registered : a'.registered = a.registered
  fired : a.fired = true → a'.fired = true
  vowed : a.Vowed → a'.Vowed

namespace Actor

theorem Continues.refl (a : Actor) : a.Continues a := ⟨rfl, rfl, id, id⟩

theorem Calm.continues {a a' : Actor} (h : a.Calm a') : a.Continues a' := by
  refine ⟨h.identity, h.registered, h.fired, ?_⟩
  intro hvowed pair hpair hown
  rw [h.selfDisconnect]
  rw [h.pendingDisconnects] at hpair
  rw [h.identity] at hown
  exact hvowed pair hpair hown

/-- The end of a command keeps the vow, if the command's outcome does. -/
theorem continues_settle (a : Actor) (scope : RequestScope) (inbound : Inbound)
    {outcome : AdminOutcome} (now : Int)
    (hself : ∀ pair ∈ outcome.disconnects, pair.1 = a.identity.credentialId →
      outcome.selfDisconnect = true) :
    a.Continues (a.settle scope inbound outcome now) := by
  obtain ⟨hidentity, hregistered, hfired⟩ := settle_identity a scope inbound outcome now
  refine ⟨hidentity, hregistered, fun h => hfired.trans h, ?_⟩
  intro hvowed pair hpair hown
  rw [hidentity] at hown
  unfold settle at hpair ⊢
  cases hresult : outcome.result with
  | error error =>
    rw [hresult] at hpair
    exact hvowed pair hpair hown
  | ok data =>
    rw [hresult] at hpair
    simp only at hpair ⊢
    split at hpair
    · rename_i hdestroys
      rw [if_pos hdestroys]
      show (a.selfDisconnect || outcome.selfDisconnect) = true
      rcases List.mem_append.mp hpair with hold | hnew
      · rw [hvowed pair hold hown, Bool.true_or]
      · rw [hself pair hnew hown, Bool.or_true]
    · rename_i hnone
      rw [if_neg hnone]
      exact hvowed pair hpair hown

end Actor

/-- A revocation vows for the requester's own credential, and a reset always does. -/
theorem Command.vows {client : Nat} {a : Actor} {scope : RequestScope} {inbound : Inbound}
    {op : StoreOp} {outcome : Except AuthError Payload → AdminOutcome} {destroys : List Destroyed}
    (h : Command w client a scope inbound op outcome destroys) (reply : Except AuthError Payload) :
    ∀ pair ∈ (outcome reply).disconnects, pair.1 = a.identity.credentialId →
      (outcome reply).selfDisconnect = true := by
  intro pair hpair hown
  cases h with
  | rename _ =>
    unfold adminRename at hpair
    split at hpair <;> cases hpair
  | revoke _ =>
    unfold adminRevoke at hpair ⊢
    split at hpair
    · obtain rfl := List.mem_singleton.mp hpair
      exact decide_eq_true hown
    · cases hpair
    · cases hpair
  | reset _ =>
    unfold adminReset at hpair ⊢
    split at hpair
    · rfl
    · cases hpair

/-- **A session found after an event**: it was there before and goes on, or it has just registered,
below the fences there are or not. -/
def Arises (w : Shared) (k : Nat) (a' : Actor) : Prop :=
  (∃ a, w.actors k = some a ∧ a.Continues a') ∨
    (w.actors k = none ∧ a'.identity ∈ w.accepted ∧ a'.registered = !w.refuses a'.identity ∧
      a'.fired = w.refuses a'.identity ∧ a'.pendingDisconnects = [])

theorem Arises.of_put {k j : Nat} {a b a' : Actor} (hk : (w.put j b).actors k = some a')
    (hj : w.actors j = some a) (hcontinues : a.Continues b) : Arises w k a' := by
  rw [actors_put] at hk
  by_cases hkj : k = j
  · rw [if_pos hkj] at hk
    obtain rfl := Option.some.inj hk
    exact .inl ⟨a, by rw [hkj]; exact hj, hcontinues⟩
  · rw [if_neg hkj] at hk
    exact .inl ⟨a', hk, .refl a'⟩

theorem Arises.of_sweep {requester k : Nat} {pairs : List (Text × UInt64)} {a' : Actor}
    (hk : (w.disconnectCredentials requester pairs).actors k = some a') : Arises w k a' := by
  obtain ⟨a, ha, hcalm, -⟩ := of_disconnectCredentials hk
  exact .inl ⟨a, ha, hcalm.continues⟩

/-- The turn of the timer, at the session it belongs to. -/
theorem continues_disconnectRevoked (a : Actor) :
    a.Continues { a with
      revokedAt := none
      pendingDisconnects := []
      selfDisconnect := false
      fired := a.fired || a.selfDisconnect
      phase := if a.selfDisconnect then .exited else .idle } := by
  refine ⟨rfl, rfl, ?_, ?_⟩
  · intro hfired
    show (a.fired || a.selfDisconnect) = true
    rw [hfired, Bool.true_or]
  · intro _ pair hpair
    cases hpair

theorem Move.arises {e : RelayEvent} (h : Move tape w e w') {k : Nat} {a' : Actor}
    (hk : w'.actors k = some a') : Arises w k a' := by
  cases h with
  | stored call => exact .inl ⟨a', hk, .refl a'⟩
  | closing => exact .inl ⟨a', hk, .refl a'⟩
  | @connected client identity hfree hcommitted =>
    unfold Shared.register at hk
    rw [actors_put] at hk
    by_cases hkc : k = client
    · rw [if_pos hkc] at hk
      obtain rfl := Option.some.inj hk
      exact .inr ⟨by rw [hkc]; exact hfree, hcommitted, rfl, rfl, rfl⟩
    · rw [if_neg hkc] at hk
      exact .inl ⟨a', hk, .refl a'⟩
  | moved ha hcalm => exact .of_put hk ha hcalm.continues
  | admitted ha hidle hanswer hpass => exact .of_put hk ha ⟨rfl, rfl, id, id⟩
  | handed ha hphase hcalm hopen hcore => exact .of_put (w := w) hk ha hcalm.continues
  | @administered client now persist a scope inbound op outcome destroys ha hcommand =>
    exact .of_put (w := w) hk ha (a.continues_settle scope inbound now (hcommand.vows _))
  | @swept client now a ha hidle =>
    unfold Shared.disconnectRevoked at hk
    rw [actors_put] at hk
    by_cases hkc : k = client
    · rw [if_pos hkc] at hk
      obtain rfl := Option.some.inj hk
      exact .inl ⟨a, by rw [hkc]; exact ha, continues_disconnectRevoked a⟩
    · rw [if_neg hkc] at hk
      exact .of_sweep hk
  | ended ha hends => exact .of_put hk ha ⟨rfl, rfl, fun _ => rfl, id⟩

theorem Move.blocked_le {e : RelayEvent} (h : Move tape w e w') (id : Text) :
    w.blocked id ≤ w'.blocked id := by
  cases h with
  | @swept client now a ha hidle =>
    exact blocked_le_disconnectCredentials w client a.pendingDisconnects id
  | _ => exact UInt64.le_refl _

theorem disconnectCredentials_accepted (w : Shared) (requester : Nat)
    (pairs : List (Text × UInt64)) :
    (w.disconnectCredentials requester pairs).accepted = w.accepted := by
  induction pairs generalizing w with
  | nil => rfl
  | cons pair pairs ih =>
    refine (ih (Shared.fence requester w pair)).trans ?_
    unfold Shared.fence
    split <;> rfl

/-- An identity waits for its session only if it is valid. -/
theorem Move.accepted {e : RelayEvent} (h : Move tape w e w')
    (hvalid : ∀ i ∈ w.accepted, i.isValid = true) : ∀ i ∈ w'.accepted, i.isValid = true := by
  cases h with
  | stored call =>
    intro i hi
    rcases List.mem_append.mp hi with hold | hnew
    · exact hvalid i hold
    · split at hnew
      · split at hnew
        · rename_i hok
          rw [List.mem_singleton.mp hnew]
          exact hok
        · cases hnew
      · cases hnew
  | @connected client identity hfree hcommitted =>
    intro i hi
    exact hvalid i (List.mem_of_mem_erase hi)
  | @swept client now a ha hidle =>
    have hsame : (w.disconnectCredentials client a.pendingDisconnects).accepted = w.accepted :=
      disconnectCredentials_accepted w client a.pendingDisconnects
    intro i hi
    exact hvalid i (hsame ▸ hi)
  | _ => exact hvalid

/-! ## §3 — runs with sweeps -/

section Events

variable {e : FenceEvent}

theorem FenceStep.arises (h : FenceStep tape w e w') {k : Nat} {a' : Actor}
    (hk : w'.actors k = some a') : Arises w k a' := by
  cases e with
  | relay event => exact (step_move h).arises hk
  | sweep requester pairs =>
    obtain rfl := Option.some.inj h
    exact .of_sweep hk

theorem FenceStep.blocked_le (h : FenceStep tape w e w') (id : Text) :
    w.blocked id ≤ w'.blocked id := by
  cases e with
  | relay event => exact (step_move h).blocked_le id
  | sweep requester pairs =>
    obtain rfl := Option.some.inj h
    exact blocked_le_disconnectCredentials w requester pairs id

theorem FenceStep.accepted (h : FenceStep tape w e w')
    (hvalid : ∀ i ∈ w.accepted, i.isValid = true) : ∀ i ∈ w'.accepted, i.isValid = true := by
  cases e with
  | relay event => exact (step_move h).accepted hvalid
  | sweep requester pairs =>
    obtain rfl := Option.some.inj h
    rw [disconnectCredentials_accepted]
    exact hvalid

end Events

/-- What is kept in every run: identities are valid, a session the registry does not have was told
to close, and each session closes itself with its own credential. -/
structure Orderly (w : Shared) : Prop where
  accepted : ∀ i ∈ w.accepted, i.isValid = true
  identity : ∀ k a, w.actors k = some a → a.identity.isValid = true
  unregistered : ∀ k a, w.actors k = some a → a.registered = false → a.fired = true
  vowed : ∀ k a, w.actors k = some a → a.Vowed

theorem Orderly.start (core : StoreCore) (resetBootstrap : Option BootstrapRearm) :
    Orderly (.start core resetBootstrap) := by
  refine ⟨List.forall_mem_nil _, ?_, ?_, ?_⟩
  all_goals
    intro k a ha
    cases ha

theorem Orderly.step {e : FenceEvent} (h : Orderly w) (hstep : FenceStep tape w e w') :
    Orderly w' := by
  refine ⟨hstep.accepted h.accepted, ?_, ?_, ?_⟩
  · intro k a' ha'
    rcases hstep.arises ha' with ⟨a, ha, hcontinues⟩ | ⟨-, hcommitted, -⟩
    · rw [hcontinues.identity]
      exact h.identity k a ha
    · exact h.accepted _ hcommitted
  · intro k a' ha' hregistered
    rcases hstep.arises ha' with ⟨a, ha, hcontinues⟩ | ⟨-, -, hadmitted, hrefused, -⟩
    · rw [hcontinues.registered] at hregistered
      exact hcontinues.fired (h.unregistered k a ha hregistered)
    · rw [hregistered] at hadmitted
      rw [hrefused]
      exact (Bool.not_eq_false' _).mp hadmitted.symm
  · intro k a' ha'
    rcases hstep.arises ha' with ⟨a, ha, hcontinues⟩ | ⟨-, -, -, -, hnone⟩
    · exact hcontinues.vowed (h.vowed k a ha)
    · intro pair hpair
      rw [hnone] at hpair
      cases hpair

theorem AuthenticatedIdentity.ne_blank {i : AuthenticatedIdentity} (h : i.isValid = true) :
    i.credentialId ≠ [] ∧ i.credentialVersion ≠ 0 := by
  simp only [AuthenticatedIdentity.isValid, Bool.and_eq_true, Bool.not_eq_true',
    decide_eq_true_eq] at h
  refine ⟨?_, h.1.2⟩
  intro hid
  have hempty := h.1.1.2
  rw [hid] at hempty
  cases hempty

/-- The session is one of the credential, at the version or below. -/
def Actor.BoundTo (a : Actor) (credentialId : Text) (through : UInt64) : Prop :=
  a.identity.credentialId = credentialId ∧ a.identity.credentialVersion ≤ through

/-- **The fence stands**: every session of the credential has been told to close, the spared ones
apart, and none that was not there when it was raised is in the registry. -/
structure Fences (credentialId : Text) (through : UInt64) (spared there : Nat → Prop)
    (w : Shared) : Prop where
  blocked : through ≤ w.blocked credentialId
  fired : ∀ k a, w.actors k = some a → a.BoundTo credentialId through → ¬ spared k →
    a.fired = true
  late : ∀ k a, w.actors k = some a → a.BoundTo credentialId through → ¬ there k →
    a.registered = false

variable {credentialId : Text} {through : UInt64} {spared there : Nat → Prop}

theorem Fences.step {e : FenceEvent} (h : Fences credentialId through spared there w)
    (horderly : Orderly w) (hstep : FenceStep tape w e w') :
    Fences credentialId through spared there w' := by
  have hrefused : ∀ k a', w'.actors k = some a' → a'.BoundTo credentialId through →
      (∃ a, w.actors k = some a ∧ a.Continues a') ∨ (a'.fired = true ∧ a'.registered = false) := by
    intro k a' ha' hbound
    rcases hstep.arises ha' with hold | ⟨-, hcommitted, hadmitted, hfired, -⟩
    · exact .inl hold
    · obtain ⟨hid, -⟩ := AuthenticatedIdentity.ne_blank (horderly.accepted _ hcommitted)
      have hle : a'.identity.credentialVersion ≤ w.blocked a'.identity.credentialId := by
        rw [hbound.1]
        exact UInt64.le_trans hbound.2 h.blocked
      have hrefuses : w.refuses a'.identity = true := by simp [Shared.refuses, hid, hle]
      rw [hrefuses] at hadmitted hfired
      exact .inr ⟨hfired, hadmitted⟩
  refine ⟨UInt64.le_trans h.blocked (hstep.blocked_le credentialId), ?_, ?_⟩
  · intro k a' ha' hbound hspared
    rcases hrefused k a' ha' hbound with ⟨a, ha, hcontinues⟩ | ⟨hfired, -⟩
    · unfold Actor.BoundTo at hbound
      rw [hcontinues.identity] at hbound
      exact hcontinues.fired (h.fired k a ha hbound hspared)
    · exact hfired
  · intro k a' ha' hbound hthere
    rcases hrefused k a' ha' hbound with ⟨a, ha, hcontinues⟩ | ⟨-, hregistered⟩
    · unfold Actor.BoundTo at hbound
      rw [hcontinues.identity] at hbound
      rw [hcontinues.registered]
      exact h.late k a ha hbound hthere
    · exact hregistered

/-- **A sweep raises the fence**, at every session but its requester. -/
theorem Fences.sweep (horderly : Orderly w) (requester : Nat) {pairs : List (Text × UInt64)}
    (hpair : (credentialId, through) ∈ pairs) (hid : credentialId ≠ []) (hzero : through ≠ 0) :
    Fences credentialId through (· = requester) (fun k => w.actors k ≠ none)
      (w.disconnectCredentials requester pairs) := by
  refine ⟨le_blocked_of_mem w requester hpair hid hzero, ?_, ?_⟩
  · intro k a' ha' hbound hspared
    rw [actors_disconnectCredentials] at ha'
    obtain ⟨a, ha, rfl⟩ := Option.map_eq_some_iff.mp ha'
    show (a.fired || pairs.any fun pair => Closes requester k a pair) = true
    cases hregistered : a.registered with
    | false => rw [horderly.unregistered k a ha hregistered, Bool.true_or]
    | true =>
      have hcloses : Closes requester k a (credentialId, through) :=
        ⟨hspared, hregistered, hbound.1, hbound.2, hid, hzero⟩
      rw [List.any_eq_true.mpr ⟨_, hpair, decide_eq_true hcloses⟩, Bool.or_true]
  · intro k a' ha' _ hthere
    obtain ⟨a, ha, -⟩ := of_disconnectCredentials ha'
    exact absurd (fun hnone => by cases hnone.symm.trans ha) hthere

/-- **A timer's turn raises it at every session**: where the requester's own credential is among the
destroyed ones, the turn goes on to fire its kill switch. -/
theorem Fences.turn (horderly : Orderly w) {client : Nat} {a : Actor}
    (ha : w.actors client = some a) (hpair : (credentialId, through) ∈ a.pendingDisconnects)
    (hid : credentialId ≠ []) (hzero : through ≠ 0) :
    Fences credentialId through (fun _ => False) (fun k => w.actors k ≠ none)
      (w.disconnectRevoked client a) := by
  have hsweep := Fences.sweep horderly client hpair hid hzero
  have hother : ∀ k b, k ≠ client → (w.disconnectRevoked client a).actors k = some b →
      (w.disconnectCredentials client a.pendingDisconnects).actors k = some b := by
    intro k b hk hb
    unfold Shared.disconnectRevoked at hb
    rw [actors_put, if_neg hk] at hb
    exact hb
  refine ⟨hsweep.blocked, ?_, ?_⟩
  · intro k b hb hbound _
    by_cases hk : k = client
    · unfold Shared.disconnectRevoked at hb
      rw [actors_put, if_pos hk] at hb
      obtain rfl := Option.some.inj hb
      show (a.fired || a.selfDisconnect) = true
      rw [horderly.vowed client a ha _ hpair hbound.1.symm, Bool.or_true]
    · exact hsweep.fired k b (hother k b hk hb) hbound hk
  · intro k b hb hbound hthere
    by_cases hk : k = client
    · exact absurd (fun hnone => by rw [hk] at hnone; cases hnone.symm.trans ha) hthere
    · exact hsweep.late k b (hother k b hk hb) hbound hthere

theorem FenceStep.raises {e : FenceEvent} (horderly : Orderly w) (h : FenceStep tape w e w')
    (hpair : (credentialId, through) ∈ e.pairs w) (hid : credentialId ≠ [])
    (hzero : through ≠ 0) :
    Fences credentialId through e.Spares (fun k => w.actors k ≠ none) w' := by
  cases e with
  | sweep requester pairs =>
    obtain rfl := Option.some.inj h
    exact .sweep horderly requester hpair hid hzero
  | relay event =>
    cases event with
    | timer client now =>
      simp only [FenceEvent.pairs] at hpair
      cases ha : w.actors client with
      | none =>
        rw [ha] at hpair
        cases hpair
      | some a =>
        rw [ha] at hpair
        simp only [FenceStep, Shared.fenceStep, Shared.step, ha] at h
        split at h
        · obtain rfl := Option.some.inj h
          exact .turn horderly ha hpair hid hzero
        · cases h
    | _ => cases hpair

/-- **The disconnect fence against registrations.** In every run of sessions and sweeps: after a
sweep of a credential through a version, whichever sessions register and whatever else happens
before and after it, a session of the credential at that version or below is in the registry only if
it has been told to close, the requester of the sweep alone excepted, and no such session that was
not there at the sweep is in the registry later. Where the sweep is the one of a session's own turn,
the requester is no exception. -/
theorem sweep_fences_registrations {core : StoreCore} {resetBootstrap : Option BootstrapRearm}
    {before after : List FenceEvent} {e : FenceEvent} {m m' : Shared}
    (hbefore : Runs (FenceStep tape) (.start core resetBootstrap) before m)
    (hsweep : FenceStep tape m e m') (hafter : Runs (FenceStep tape) m' after w)
    (hpair : (credentialId, through) ∈ e.pairs m) :
    ∀ k a, w.actors k = some a → a.BoundTo credentialId through →
      (a.registered = true → a.fired = true ∨ e.Spares k) ∧
      (m.actors k = none → a.registered = false) := by
  intro k a ha hbound
  have hm : Orderly m :=
    hbefore.invariant (I := Orderly) (fun _ _ _ h hstep => h.step hstep)
      (.start core resetBootstrap)
  have hm' : Orderly m' := hm.step hsweep
  have horderly : Orderly w :=
    hafter.invariant (I := Orderly) (fun _ _ _ h hstep => h.step hstep) hm'
  -- the session's own identity rules out the pairs that a sweep skips
  obtain ⟨hid, hversion⟩ := AuthenticatedIdentity.ne_blank (horderly.identity k a ha)
  rw [hbound.1] at hid
  have hzero : through ≠ 0 := by
    rintro rfl
    have hle := UInt64.le_iff_toNat_le.mp hbound.2
    rw [UInt64.toNat_zero] at hle
    exact hversion (UInt64.toNat_inj.mp (Nat.le_zero.mp hle))
  have hfences := hafter.invariant
    (I := fun w => Orderly w ∧ Fences credentialId through e.Spares (fun k => m.actors k ≠ none) w)
    (fun _ _ _ h hstep => ⟨h.1.step hstep, h.2.step h.1 hstep⟩)
    ⟨hm', hsweep.raises hm hpair hid hzero⟩
  refine ⟨?_, ?_⟩
  · intro _
    by_cases hspared : e.Spares k
    · exact .inr hspared
    · exact .inl (hfences.2.fired k a ha hbound hspared)
  · intro hnone
    exact hfences.2.late k a ha hbound fun hthere => hthere hnone

/-! ### A handshake that finished before the sweep, and the requester itself -/

/-- The handshakes of both controllers finish, but only the second one's session registers; it
revokes the first one's credential. -/
def secondRevokesUnregistered : List FenceEvent :=
  ([authenticates ['a'], authenticates ['b'], .connect 2 (sampleIdentity ['b'])]
    ++ secondRevokesFirst).map .relay

/-- The first one's session registers after the sweep, and is turned away. -/
theorem sweep_fences_registrations_late :
    ∃ m m' w, Runs (FenceStep zeroTape) (.start (twoControllers 1) none)
        secondRevokesUnregistered m ∧
      FenceStep zeroTape m (.relay (.timer 2 250)) m' ∧
      Runs (FenceStep zeroTape) m' [.relay (.connect 1 (sampleIdentity ['a']))] w ∧
      ∃ a, w.actors 1 = some a ∧ a.identity = sampleIdentity ['a'] ∧ a.registered = false := by
  have hcomputed : ∃ m, Runs (FenceStep zeroTape) (.start (twoControllers 1) none)
      secondRevokesUnregistered m ∧ m.actors 1 = none ∧
      (FenceEvent.relay (.timer 2 250)).pairs m = [(['a'], 2)] ∧
      (m.fenceStep zeroTape (.relay (.timer 2 250))).any (fun m' =>
        ([FenceEvent.relay (.connect 1 (sampleIdentity ['a']))].foldlM (Shared.fenceStep zeroTape)
          m').any fun w => (w.actors 1).map Actor.identity = some (sampleIdentity ['a'])) = true :=
    Runs.of_any (fun _ _ _ _ => id) (by decide +kernel)
  obtain ⟨m, hrun, hnone, hpairs, hrest⟩ := hcomputed
  obtain ⟨m', hm', hlast⟩ := Option.any_eq_true _ _ |>.mp hrest
  obtain ⟨w, hrun', hactor⟩ := Runs.of_any (fun _ _ _ _ => id) hlast
  obtain ⟨a, ha, hidentity⟩ := Option.map_eq_some_iff.mp hactor
  have hpair : ((['a'], 2) : Text × UInt64) ∈ (FenceEvent.relay (.timer 2 250)).pairs m := by
    rw [hpairs]
    exact List.mem_singleton_self _
  have hbound : a.BoundTo ['a'] 2 := by
    unfold Actor.BoundTo
    rw [hidentity]
    decide
  exact ⟨m, m', w, hrun, hm', hrun', a, ha, hidentity,
    (sweep_fences_registrations hrun hm' hrun' hpair 1 a ha hbound).2 hnone⟩

/-- The first controller revokes its own credential. -/
def firstRevokesItself : List RelayEvent :=
  [ .frame 1 (.message { type := "revoke_device".toList, protocol := 3, deviceId := ['a'] }),
    .handOver 1 none 0 (.ok ()), .administer 1 0 (.ok ()) ]

/-- **The requester outlives its own sweep**: right after the sweep of its own credential, and until
its turn goes on, the requester is in the registry and has not been told to close. -/
theorem requester_outlives_sweep :
    ∃ m w, Runs (FenceStep zeroTape) (.start (twoControllers 1) none)
        ((bothConnect ++ firstRevokesItself).map .relay) m ∧
      (m.actors 1).map Actor.pendingDisconnects = some [(['a'], 2)] ∧
      FenceStep zeroTape m (.sweep 1 [(['a'], 2)]) w ∧
      (w.actors 1).map (fun a => (a.identity.credentialId, a.identity.credentialVersion,
        a.registered, a.fired)) = some (['a'], 1, true, false) := by
  have hcomputed : ∃ m, Runs (FenceStep zeroTape) (.start (twoControllers 1) none)
      ((bothConnect ++ firstRevokesItself).map .relay) m ∧
      (m.actors 1).map Actor.pendingDisconnects = some [(['a'], 2)] ∧
      (m.fenceStep zeroTape (.sweep 1 [(['a'], 2)])).any (fun w =>
        (w.actors 1).map (fun a => (a.identity.credentialId, a.identity.credentialVersion,
          a.registered, a.fired)) = some (['a'], 1, true, false)) = true :=
    Runs.of_any (fun _ _ _ _ => id) (by decide +kernel)
  obtain ⟨m, hrun, hpending, hrest⟩ := hcomputed
  obtain ⟨w, hw, hactor⟩ := Option.any_eq_true _ _ |>.mp hrest
  exact ⟨m, w, hrun, hpending, hw, of_decide_eq_true hactor⟩

end Lerdr.Relay
