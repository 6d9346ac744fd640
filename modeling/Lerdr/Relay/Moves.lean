/-
# Lerdr.Relay.Moves — what one event can do to the relay.

`Move` lists the ways the state can change; `step_move` says that these are all. What holds of every
run of the relay is proved from the list.
-/
import Lerdr.Relay.Actors
import Lerdr.Auth.Effects

namespace Lerdr.Relay

open Lerdr.Rust Lerdr.Auth

/-! ## §1 — one actor -/

/-- The actor is at work or waiting: not admitted to a hand-over, and not gone. -/
def Phase.Open : Phase → Prop
  | .admitted .. | .exited => False
  | .idle | .renaming .. | .revoking .. | .resetting .. => True

theorem Phase.Open.ne_admitted {phase : Phase} (h : phase.Open) (work : Work)
    (current : Option Credential) : phase ≠ .admitted work current := by
  rintro rfl
  exact h

theorem Phase.Open.ne_exited {phase : Phase} (h : phase.Open) : phase ≠ .exited := by
  rintro rfl
  exact h

/-- The actor goes on with its identity, its place in the registry and its deferred disconnects, and
is not admitted to anything new. -/
structure Actor.Calm (a a' : Actor) : Prop where
  identity : a'.identity = a.identity
  registered : a'.registered = a.registered
  fired : a.fired = true → a'.fired = true
  revokedAt : a'.revokedAt = a.revokedAt
  pendingDisconnects : a'.pendingDisconnects = a.pendingDisconnects
  selfDisconnect : a'.selfDisconnect = a.selfDisconnect
  phase : a'.phase = a.phase ∨ a'.phase.Open

/-- The frame ends the session. -/
def Opened.Evicts (caps : NegotiatedCaps) : Opened → Prop
  | .rejected | .malformed => True
  | .binary none => caps.live uploadBinaryCapability = true
  | _ => False

namespace Actor

theorem calm_enqueue (a : Actor) (replies : List Reply) : Calm a (a.enqueue replies) :=
  ⟨rfl, rfl, id, rfl, rfl, rfl, .inl rfl⟩

theorem check_cases (a : Actor) (current : Option Credential) (requestId : Text) (work : Work) :
    Calm a (a.check current requestId work) ∨
      (authorize a.identity current work.action (work.deviceId a.identity) = none ∧
        a.check current requestId work = { a with phase := .admitted work current }) := by
  unfold check
  cases hauthorize : authorize a.identity current work.action (work.deviceId a.identity) with
  | some error => exact .inl (calm_enqueue a _)
  | none => exact .inr ⟨rfl, rfl⟩

/-- A frame is answered, ends the session, or is admitted. -/
theorem handleFrame_cases (a : Actor) (current : Option Credential) (opened : Opened) :
    Calm a (a.handleFrame current opened) ∨
    (opened.Evicts a.caps ∧ a.handleFrame current opened = a.evict) ∨
    ∃ work, authorize a.identity current work.action (work.deviceId a.identity) = none ∧
      a.handleFrame current opened = { a with phase := .admitted work current } := by
  cases opened with
  | rejected => exact .inr (.inl ⟨trivial, rfl⟩)
  | malformed => exact .inr (.inl ⟨trivial, rfl⟩)
  | undecodable requestId => exact .inl (calm_enqueue a _)
  | binary chunk =>
    cases hlive : a.caps.live uploadBinaryCapability with
    | false =>
      simp only [handleFrame, hlive, Bool.not_false, if_true]
      exact .inl (calm_enqueue a _)
    | true =>
      simp only [handleFrame, hlive, Bool.not_true, Bool.false_eq_true, if_false]
      cases chunk with
      | none => exact .inr (.inl ⟨hlive, rfl⟩)
      | some chunk =>
        rcases check_cases a current [] (.chunk chunk) with hcalm | ⟨hpass, heq⟩
        · exact .inl hcalm
        · exact .inr (.inr ⟨.chunk chunk, hpass, heq⟩)
  | message inbound =>
    simp only [handleFrame]
    cases screen a.caps inbound with
    | settled caps replies => exact .inl ⟨rfl, rfl, id, rfl, rfl, rfl, .inl rfl⟩
    | passed scope =>
      rcases check_cases a current inbound.requestId (.text scope inbound) with hcalm | ⟨hpass, heq⟩
      · exact .inl hcalm
      · exact .inr (.inr ⟨.text scope inbound, hpass, heq⟩)

section

variable (a : Actor) (scope : RequestScope) (inbound : Inbound)

theorem settle_phase
    (outcome : AdminOutcome) (now : Int) : (a.settle scope inbound outcome now).phase = .idle := by
  unfold settle
  cases outcome.result with
  | error error => rfl
  | ok data =>
    simp only
    split <;> rfl

theorem settle_identity (outcome : AdminOutcome) (now : Int) :
    (a.settle scope inbound outcome now).identity = a.identity ∧
      (a.settle scope inbound outcome now).registered = a.registered ∧
      (a.settle scope inbound outcome now).fired = a.fired := by
  unfold settle
  cases outcome.result with
  | error error => exact ⟨rfl, rfl, rfl⟩
  | ok data =>
    simp only
    split <;> exact ⟨rfl, rfl, rfl⟩

/-- A command that destroys nothing leaves the deferred disconnects alone. -/
theorem settle_calm {outcome : AdminOutcome}
    (now : Int) (hself : outcome.selfDisconnect = false) (hnone : outcome.disconnects = []) :
    Calm a (a.settle scope inbound outcome now) := by
  obtain ⟨hidentity, hregistered, hfired⟩ := settle_identity a scope inbound outcome now
  have hphase := settle_phase a scope inbound outcome now
  have hkept : (a.settle scope inbound outcome now).revokedAt = a.revokedAt ∧
      (a.settle scope inbound outcome now).pendingDisconnects = a.pendingDisconnects ∧
      (a.settle scope inbound outcome now).selfDisconnect = a.selfDisconnect := by
    unfold settle
    cases outcome.result with
    | error error => exact ⟨rfl, rfl, rfl⟩
    | ok data =>
      simp only [hself, hnone, Bool.false_eq_true, ne_eq, not_true_eq_false, or_self, if_false]
      exact ⟨rfl, rfl, rfl⟩
  obtain ⟨hrevokedAt, hpending, hkeptSelf⟩ := hkept
  refine ⟨hidentity, hregistered, fun h => hfired.trans h, hrevokedAt, hpending, hkeptSelf,
    .inr ?_⟩
  rw [hphase]
  trivial

end

end Actor

/-! ## §2 — the relay -/

/-- The event ends the actor, the timer apart. -/
def Ends (w : Shared) : RelayEvent → Nat → Prop
  | .evict client, k | .stop client, k => client = k
  | .frame client opened, k =>
    client = k ∧ ∀ a, w.actors client = some a → opened.Evicts a.caps
  | _, _ => False

/-- The store operation of a device administration command, with its outcome and what it destroys.
-/
inductive Command (w : Shared) (client : Nat) (a : Actor) (scope : RequestScope)
    (inbound : Inbound) :
    StoreOp → (Except AuthError Payload → AdminOutcome) → List Destroyed → Prop
  | rename {credentialId : Text} (phase : a.phase = .renaming scope inbound credentialId) :
      Command w client a scope inbound (.renameDevice credentialId inbound.name) adminRename []
  | revoke {credentialId : Text} (phase : a.phase = .revoking scope inbound credentialId) :
      Command w client a scope inbound (.revokeDevice credentialId) (adminRevoke a.identity)
        (w.destroyedByRevoke client credentialId)
  | reset {active : List Credential} (phase : a.phase = .resetting scope inbound active) :
      Command w client a scope inbound (.resetDevices w.resetBootstrap a.identity.locale)
        (adminReset active) (w.destroyedByReset client)

/-- What an event can do. -/
inductive Move (tape : Tape) (w : Shared) : RelayEvent → Shared → Prop
  | stored (call : Call) : Move tape w (.call call) (w.storeCall tape call)
  | connected {client : Nat} {identity : AuthenticatedIdentity} (free : w.actors client = none)
      (committed : identity ∈ w.accepted) :
      Move tape w (.connect client identity) (w.register client identity)
  | moved {e : RelayEvent} {client : Nat} {a a' : Actor} (actor : w.actors client = some a)
      (calm : a.Calm a') : Move tape w e (w.put client a')
  | admitted {client : Nat} {opened : Opened} {a : Actor} {work : Work}
      {current : Option Credential} (actor : w.actors client = some a) (idle : a.phase = .idle)
      (answer : current =
        w.core.state.authorize a.identity.credentialId a.identity.credentialVersion)
      (passes : authorize a.identity current work.action (work.deviceId a.identity) = none) :
      Move tape w (.frame client opened) (w.put client { a with phase := .admitted work current })
  | handed {e : RelayEvent} {client : Nat} {a a' : Actor} {work : Work}
      {current : Option Credential} {core : StoreCore} (actor : w.actors client = some a)
      (phase : a.phase = .admitted work current) (calm : a.Calm a')
      (left : a'.phase.Open)
      (core_eq : core = w.core ∨ ∃ call : Call, (∀ id, call.op ≠ .revokeDevice id) ∧
        core = (w.core.perform tape call).1) :
      Move tape w e ({ w with
        core
        handed := w.handed ++ [HandOver.mk client a.identity work current] }.put client a')
  | administered {client : Nat} {now : Int} {persist : Except StoreError Unit} {a : Actor}
      {scope : RequestScope} {inbound : Inbound} {op : StoreOp}
      {outcome : Except AuthError Payload → AdminOutcome} {destroys : List Destroyed}
      (actor : w.actors client = some a)
      (command : Command w client a scope inbound op outcome destroys) :
      Move tape w (.administer client now persist)
        (w.administer tape client a scope inbound ⟨op, now, persist⟩ outcome destroys now)
  | swept {client : Nat} {now : Int} {a : Actor} (actor : w.actors client = some a)
      (idle : a.phase = .idle) : Move tape w (.timer client now) (w.disconnectRevoked client a)
  | ended {e : RelayEvent} {client : Nat} {a : Actor} (actor : w.actors client = some a)
      (ends : Ends w e client) : Move tape w e (w.put client a.evict)
  | closing : Move tape w .shutdown { w with shutdown := true }

theorem adminCreateInvitation_calm (reply : Except AuthError Payload) :
    (adminCreateInvitation reply).selfDisconnect = false ∧
      (adminCreateInvitation reply).disconnects = [] := by
  unfold adminCreateInvitation
  split <;> exact ⟨rfl, rfl⟩

theorem dispatch_move {tape : Tape} {w : Shared} {e : RelayEvent} {client : Nat} {a : Actor}
    {work : Work} {current : Option Credential} (actor : w.actors client = some a)
    (phase : a.phase = .admitted work current) (now : Int) (persist : Except StoreError Unit) :
    Move tape w e ({ w with
      handed := w.handed ++ [HandOver.mk client a.identity work current] }.dispatch tape client a
        work now persist) := by
  -- the actor either goes on to another access, or has its answer
  have hgo : ∀ next : Phase, next.Open → Move tape w e ({ w with
      handed := w.handed ++ [HandOver.mk client a.identity work current] }.put client
        { a with phase := next }) :=
    fun next hopen => .handed actor phase ⟨rfl, rfl, id, rfl, rfl, rfl, .inr hopen⟩ hopen (.inl rfl)
  have hsettle : ∀ (scope : RequestScope) (inbound : Inbound) (outcome : AdminOutcome)
      (core : StoreCore), outcome.selfDisconnect = false → outcome.disconnects = [] →
      (core = w.core ∨ ∃ call : Call, (∀ id, call.op ≠ .revokeDevice id) ∧
        core = (w.core.perform tape call).1) →
      Move tape w e ({ w with
        core
        handed := w.handed ++ [HandOver.mk client a.identity work current] }.put client
          (a.settle scope inbound outcome now)) := by
    intro scope inbound outcome core hself hnone hcore
    refine .handed actor phase (a.settle_calm scope inbound now hself hnone) ?_ hcore
    rw [Actor.settle_phase]
    trivial
  cases work with
  | chunk chunk => exact hgo .idle trivial
  | text scope inbound =>
    simp only [Shared.dispatch]
    by_cases hlist : scope.action.operation = "device_list".toList
    · rw [if_pos hlist]
      exact hsettle scope inbound _ w.core rfl rfl (.inl rfl)
    by_cases hcreate : scope.action.operation = "create_device_invitation".toList
    · rw [if_neg hlist, if_pos hcreate]
      obtain ⟨hself, hnone⟩ := adminCreateInvitation_calm (w.core.perform tape
        ⟨.createInvitation inbound.name inbound.role a.identity.locale, now, persist⟩).2
      refine hsettle scope inbound _ _ hself hnone (.inr ⟨_, ?_, rfl⟩)
      intro id hid
      cases hid
    by_cases hrename : scope.action.operation = "rename_device".toList
    · rw [if_neg hlist, if_neg hcreate, if_pos hrename]
      cases credentialIdFor w.core.state.list inbound.deviceId with
      | none => exact hsettle scope inbound _ w.core rfl rfl (.inl rfl)
      | some credentialId => exact hgo (.renaming scope inbound credentialId) trivial
    by_cases hrevoke : scope.action.operation = "revoke_device".toList
    · rw [if_neg hlist, if_neg hcreate, if_neg hrename, if_pos hrevoke]
      cases credentialIdFor w.core.state.list inbound.deviceId with
      | none => exact hsettle scope inbound _ w.core rfl rfl (.inl rfl)
      | some credentialId => exact hgo (.revoking scope inbound credentialId) trivial
    by_cases hreset : scope.action.operation = "reset_devices".toList
    · rw [if_neg hlist, if_neg hcreate, if_neg hrename, if_neg hrevoke, if_pos hreset]
      exact hgo (.resetting scope inbound w.core.state.list) trivial
    · rw [if_neg hlist, if_neg hcreate, if_neg hrename, if_neg hrevoke, if_neg hreset]
      exact hgo .idle trivial

/-- **What an event can do**, for every event and state. -/
theorem step_move {tape : Tape} {w w' : Shared} {e : RelayEvent} (h : RelayStep tape w e w') :
    Move tape w e w' := by
  unfold RelayStep at h
  cases e with
  | call call =>
    obtain rfl := Option.some.inj h
    exact .stored call
  | connect client identity =>
    simp only [Shared.step] at h
    split at h
    · rename_i hfree
      obtain rfl := Option.some.inj h
      exact .connected hfree.1 hfree.2
    · cases h
  | advertise client capabilities =>
    simp only [Shared.step] at h
    split at h
    · rename_i a ha
      split at h
      · obtain rfl := Option.some.inj h
        exact .moved ha ⟨rfl, rfl, id, rfl, rfl, rfl, .inl rfl⟩
      · cases h
    · cases h
  | frame client opened =>
    simp only [Shared.step] at h
    split at h
    · rename_i a ha
      split at h
      · rename_i hidle
        obtain rfl := Option.some.inj h
        rcases a.handleFrame_cases (w.core.state.authorize a.identity.credentialId
          a.identity.credentialVersion) opened with hcalm | ⟨hevicts, heq⟩ | ⟨work, hpass, heq⟩
        · exact .moved ha hcalm
        · rw [heq]
          refine .ended ha ⟨rfl, ?_⟩
          intro b hb
          rwa [← Option.some.inj (ha.symm.trans hb)]
        · rw [heq]
          exact .admitted ha hidle.1 rfl hpass
      · cases h
    · cases h
  | handOver client targetError now persist =>
    simp only [Shared.step] at h
    split at h
    · rename_i a ha
      split at h
      · obtain rfl := Option.some.inj h
        exact .moved ha ⟨rfl, rfl, id, rfl, rfl, rfl, .inr trivial⟩
      · rename_i hphase _
        obtain rfl := Option.some.inj h
        exact dispatch_move ha hphase now persist
      · cases h
    · cases h
  | administer client now persist =>
    simp only [Shared.step] at h
    split at h
    · rename_i a ha
      split at h
      · rename_i hphase
        obtain rfl := Option.some.inj h
        exact .administered ha (.rename hphase)
      · rename_i hphase
        obtain rfl := Option.some.inj h
        exact .administered ha (.revoke hphase)
      · rename_i hphase
        obtain rfl := Option.some.inj h
        exact .administered ha (.reset hphase)
      · cases h
    · cases h
  | timer client now =>
    simp only [Shared.step] at h
    split at h
    · rename_i a ha
      split at h
      · rename_i hdue
        obtain rfl := Option.some.inj h
        exact .swept ha hdue.1
      · cases h
    · cases h
  | fire client =>
    simp only [Shared.step] at h
    split at h
    · rename_i a ha
      obtain rfl := Option.some.inj h
      exact .moved ha ⟨rfl, rfl, fun _ => rfl, rfl, rfl, rfl, .inl rfl⟩
    · cases h
  | evict client | stop client =>
    simp only [Shared.step] at h
    split at h
    · rename_i a ha
      split at h
      · obtain rfl := Option.some.inj h
        exact .ended ha rfl
      · cases h
    · cases h
  | shutdown =>
    obtain rfl := Option.some.inj h
    exact .closing

/-! ## §3 — small facts about the updates -/

theorem actors_put (w : Shared) (client : Nat) (a : Actor) (k : Nat) :
    (w.put client a).actors k = if k = client then some a else w.actors k :=
  Function.update_apply _ _ _ _

/-- The fence closes this session. -/
def Closes (requester k : Nat) (a : Actor) (pair : Text × UInt64) : Prop :=
  k ≠ requester ∧ a.registered = true ∧ a.identity.credentialId = pair.1 ∧
    a.identity.credentialVersion ≤ pair.2 ∧ pair.1 ≠ [] ∧ pair.2 ≠ 0

instance (requester k : Nat) (a : Actor) (pair : Text × UInt64) :
    Decidable (Closes requester k a pair) :=
  inferInstanceAs (Decidable (_ ∧ _ ∧ _ ∧ _ ∧ _ ∧ _))

theorem actors_fence (requester : Nat) (w : Shared) (pair : Text × UInt64) (k : Nat) :
    (Shared.fence requester w pair).actors k
      = (w.actors k).map fun a =>
        { a with fired := a.fired || decide (Closes requester k a pair) } := by
  unfold Shared.fence Closes
  by_cases hskip : pair.1 = [] ∨ pair.2 = 0
  · have hopen : ¬ (pair.1 ≠ [] ∧ pair.2 ≠ 0) := fun h => hskip.elim h.1 h.2
    rw [if_pos hskip]
    simp [hopen]
  · rw [if_neg hskip]
    rw [not_or] at hskip
    show (w.actors k).map _ = _
    congr 1
    funext a
    by_cases hclose : k ≠ requester ∧ a.registered = true ∧ a.identity.credentialId = pair.1 ∧
        a.identity.credentialVersion ≤ pair.2
    · rw [if_pos hclose]
      simp [hclose, hskip]
    · rw [if_neg hclose]
      simp [hclose, hskip]

/-- **The close of the fences**: every actor as before, with its kill switch fired if one of the
fences closes it. -/
theorem actors_disconnectCredentials (w : Shared) (requester : Nat) (pairs : List (Text × UInt64))
    (k : Nat) :
    (w.disconnectCredentials requester pairs).actors k = (w.actors k).map fun a =>
      { a with fired := a.fired || pairs.any fun pair => Closes requester k a pair } := by
  induction pairs generalizing w with
  | nil => simp [Shared.disconnectCredentials]
  | cons pair pairs ih =>
    have hrest := ih (Shared.fence requester w pair)
    rw [actors_fence, Option.map_map] at hrest
    refine Eq.trans hrest ?_
    congr 1
    funext a
    simp only [Function.comp_apply, List.any_cons, Bool.or_assoc]
    rfl

theorem exists_disconnectCredentials {w : Shared} {k : Nat} {a : Actor} (ha : w.actors k = some a)
    (requester : Nat) (pairs : List (Text × UInt64)) :
    ∃ a', (w.disconnectCredentials requester pairs).actors k = some a' ∧ a.Calm a' ∧
      a'.phase = a.phase := by
  rw [actors_disconnectCredentials, ha]
  refine ⟨_, rfl, ⟨rfl, rfl, ?_, rfl, rfl, rfl, .inl rfl⟩, rfl⟩
  intro hfired
  simp only [hfired, Bool.true_or]

theorem of_disconnectCredentials {w : Shared} {requester : Nat} {pairs : List (Text × UInt64)}
    {k : Nat} {a' : Actor} (h : (w.disconnectCredentials requester pairs).actors k = some a') :
    ∃ a, w.actors k = some a ∧ a.Calm a' ∧ a'.phase = a.phase := by
  cases ha : w.actors k with
  | none => rw [actors_disconnectCredentials, ha] at h; cases h
  | some a =>
    obtain ⟨b, hb, hcalm, hphase⟩ := exists_disconnectCredentials ha requester pairs
    obtain rfl := Option.some.inj (hb.symm.trans h)
    exact ⟨a, rfl, hcalm, hphase⟩

theorem disconnectCredentials_frame (w : Shared) (requester : Nat)
    (pairs : List (Text × UInt64)) :
    (w.disconnectCredentials requester pairs).core = w.core ∧
      (w.disconnectCredentials requester pairs).handed = w.handed ∧
      (w.disconnectCredentials requester pairs).destroyed = w.destroyed := by
  induction pairs generalizing w with
  | nil => exact ⟨rfl, rfl, rfl⟩
  | cons pair pairs ih =>
    obtain ⟨hcore, hhanded, hdestroyed⟩ := ih (Shared.fence requester w pair)
    have hfence : (Shared.fence requester w pair).core = w.core ∧
        (Shared.fence requester w pair).handed = w.handed ∧
        (Shared.fence requester w pair).destroyed = w.destroyed := by
      unfold Shared.fence
      split <;> exact ⟨rfl, rfl, rfl⟩
    exact ⟨hcore.trans hfence.1, hhanded.trans hfence.2.1, hdestroyed.trans hfence.2.2⟩

end Lerdr.Relay
