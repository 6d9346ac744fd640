/-
# Lerdr.Relay.Sweep — are the sessions of a destroyed credential closed?

A command that revokes a credential, or resets them all, is answered at once; the sessions of what
it destroyed are closed 250 ms later, from a timer in the loop of the session that gave the command.
The loop looks at its kill switch before it looks at the timer, so a requester that goes away in
between takes the pending disconnects with it.

Where no session ends while its timer is armed, nothing is lost: what a command destroyed is *owed*
by its session until the timer fires, and *swept* from then on. A swept credential stays so: the
registry refuses its later sessions.
-/
import Lerdr.Relay.Authority

namespace Lerdr.Relay

open Lib Lerdr.Rust Lerdr.Auth
open Lerdr.Auth.AuthState

variable {tape : Tape} {w w' : Shared} {e : RelayEvent}

/-! ## §1 — the fences -/

theorem le_max_left_u64 (a b : UInt64) : a ≤ max a b := by
  show a ≤ if a ≤ b then b else a
  split
  · assumption
  · exact UInt64.le_refl a

theorem le_max_right_u64 (a b : UInt64) : b ≤ max a b := by
  show b ≤ if a ≤ b then b else a
  split
  · exact UInt64.le_refl b
  · rename_i hlt
    exact (UInt64.le_total a b).resolve_left hlt

theorem blocked_le_fence (requester : Nat) (w : Shared) (pair : Text × UInt64) (id : Text) :
    w.blocked id ≤ (Shared.fence requester w pair).blocked id := by
  unfold Shared.fence
  split
  · exact UInt64.le_refl _
  · show _ ≤ Function.update w.blocked pair.1 _ id
    rw [Function.update_apply]
    split
    · rename_i hid
      rw [hid]
      exact le_max_left_u64 _ _
    · exact UInt64.le_refl _

theorem blocked_le_disconnectCredentials (w : Shared) (requester : Nat)
    (pairs : List (Text × UInt64)) (id : Text) :
    w.blocked id ≤ (w.disconnectCredentials requester pairs).blocked id := by
  induction pairs generalizing w with
  | nil => exact UInt64.le_refl _
  | cons pair pairs ih => exact UInt64.le_trans (blocked_le_fence requester w pair id) (ih _)

/-- Every pair that is not skipped is a fence afterwards. -/
theorem le_blocked_of_mem (w : Shared) (requester : Nat) {pairs : List (Text × UInt64)}
    {pair : Text × UInt64} (hmem : pair ∈ pairs) (hid : pair.1 ≠ []) (hversion : pair.2 ≠ 0) :
    pair.2 ≤ (w.disconnectCredentials requester pairs).blocked pair.1 := by
  induction pairs generalizing w with
  | nil => cases hmem
  | cons first pairs ih =>
    rcases List.mem_cons.mp hmem with rfl | hmem
    · refine UInt64.le_trans ?_
        (blocked_le_disconnectCredentials (Shared.fence requester w pair) requester pairs pair.1)
      unfold Shared.fence
      rw [if_neg (not_or.mpr ⟨hid, hversion⟩)]
      show pair.2 ≤ Function.update w.blocked pair.1 _ pair.1
      rw [Function.update_self]
      exact le_max_right_u64 _ _
    · exact ih (Shared.fence requester w first) hmem

theorem disconnectCredentials_requester (w : Shared) (requester : Nat)
    (pairs : List (Text × UInt64)) :
    (w.disconnectCredentials requester pairs).actors requester = w.actors requester := by
  rw [actors_disconnectCredentials]
  cases w.actors requester with
  | none => rfl
  | some a =>
    have hskip : (pairs.any fun pair => decide (Closes requester requester a pair)) = false := by
      simp [Closes]
    simp only [Option.map_some, hskip, Bool.or_false]

/-! ## §2 — what an actor owes -/

/-- The actor goes on, and owes at least what it owed. -/
structure Actor.Keeps (a a' : Actor) : Prop where
  identity : a'.identity = a.identity
  registered : a'.registered = a.registered
  fired : a.fired = true → a'.fired = true
  revokedAt : a.revokedAt ≠ none → a'.revokedAt ≠ none
  pendingDisconnects : a.pendingDisconnects ⊆ a'.pendingDisconnects
  phase : a.phase ≠ .exited → a'.phase ≠ .exited

namespace Actor

theorem Calm.keeps {a a' : Actor} (h : a.Calm a') : a.Keeps a' where
  identity := h.identity
  registered := h.registered
  fired := h.fired
  revokedAt := by rw [h.revokedAt]; exact id
  pendingDisconnects := by rw [h.pendingDisconnects]; exact List.Subset.refl _
  phase := by
    intro hlive
    rcases h.phase with hsame | hopen
    · rw [hsame]
      exact hlive
    · exact hopen.ne_exited

theorem keeps_admitted (a : Actor) (work : Work) (current : Option Credential) :
    a.Keeps { a with phase := .admitted work current } :=
  ⟨rfl, rfl, id, id, List.Subset.refl _, fun _ h => by cases h⟩

/-- The end of a command adds to what is pending, and disarms nothing. -/
theorem keeps_settle (a : Actor) (scope : RequestScope) (inbound : Inbound)
    (outcome : AdminOutcome) (now : Int) : a.Keeps (a.settle scope inbound outcome now) := by
  obtain ⟨hidentity, hregistered, hfired⟩ := settle_identity a scope inbound outcome now
  have hphase : (a.settle scope inbound outcome now).phase ≠ .exited := by
    rw [settle_phase]
    exact fun h => by cases h
  have hkept : (a.revokedAt ≠ none → (a.settle scope inbound outcome now).revokedAt ≠ none) ∧
      a.pendingDisconnects ⊆ (a.settle scope inbound outcome now).pendingDisconnects := by
    unfold settle
    cases outcome.result with
    | error error => exact ⟨id, List.Subset.refl _⟩
    | ok data =>
      simp only
      split
      · exact ⟨fun _ => Option.some_ne_none _, List.subset_append_left _ _⟩
      · exact ⟨id, List.Subset.refl _⟩
  exact ⟨hidentity, hregistered, fun h => hfired.trans h, hkept.1, hkept.2, fun _ => hphase⟩

/-- A command that destroyed something arms the timer, with its disconnects pending. -/
theorem settle_arms (a : Actor) (scope : RequestScope) (inbound : Inbound) {outcome : AdminOutcome}
    (now : Int) (hok : outcome.result.isOk = true) {pair : Text × UInt64}
    (hpair : pair ∈ outcome.disconnects) :
    (a.settle scope inbound outcome now).revokedAt ≠ none ∧
      pair ∈ (a.settle scope inbound outcome now).pendingDisconnects := by
  have hsome : outcome.selfDisconnect = true ∨ outcome.disconnects ≠ [] :=
    .inr (List.ne_nil_of_mem hpair)
  unfold settle
  cases hresult : outcome.result with
  | error error => rw [hresult] at hok; cases hok
  | ok data =>
    simp only [if_pos hsome]
    exact ⟨Option.some_ne_none _, List.mem_append_right _ hpair⟩

end Actor

/-! ## §3 — owed, and swept -/

/-- The session that destroyed the credential is there, with the disconnect pending. -/
def Owed (d : Destroyed) (w : Shared) : Prop :=
  ∃ a, w.actors d.client = some a ∧ a.phase ≠ .exited ∧ a.revokedAt ≠ none ∧
    ∃ through, (d.credentialId, through) ∈ a.pendingDisconnects ∧ d.version ≤ through ∧
      d.credentialId ≠ [] ∧ through ≠ 0

/-- The fence stands, and every other session of the credential has been told to close. -/
structure Swept (d : Destroyed) (w : Shared) : Prop where
  credentialId : d.credentialId ≠ []
  blocked : d.version ≤ w.blocked d.credentialId
  fired : ∀ k a, k ≠ d.client → w.actors k = some a → a.identity.credentialId = d.credentialId →
    a.identity.credentialVersion ≤ d.version → a.fired = true

variable {d : Destroyed}

theorem Owed.put_other (h : Owed d w) {k : Nat} (hk : d.client ≠ k) (a' : Actor) :
    Owed d (w.put k a') := by
  obtain ⟨a, ha, howed⟩ := h
  exact ⟨a, by rw [actors_put, if_neg hk]; exact ha, howed⟩

theorem Owed.put (h : Owed d w) {k : Nat} {a a' : Actor} (ha : w.actors k = some a)
    (hkeeps : a.Keeps a') : Owed d (w.put k a') := by
  by_cases hk : d.client = k
  · obtain ⟨b, hb, hlive, harmed, through, hmem, hthrough⟩ := h
    rw [hk] at hb
    obtain rfl := Option.some.inj (ha.symm.trans hb)
    exact ⟨a', by rw [actors_put, if_pos hk], hkeeps.phase hlive, hkeeps.revokedAt harmed, through,
      hkeeps.pendingDisconnects hmem, hthrough⟩
  · exact h.put_other hk a'

theorem Swept.put (h : Swept d w) {k : Nat} {a' : Actor}
    (ha' : k ≠ d.client → a'.identity.credentialId = d.credentialId →
      a'.identity.credentialVersion ≤ d.version → a'.fired = true) : Swept d (w.put k a') := by
  refine ⟨h.credentialId, h.blocked, ?_⟩
  intro j b hj hb hid hversion
  rw [actors_put] at hb
  by_cases hjk : j = k
  · rw [if_pos hjk] at hb
    obtain rfl := Option.some.inj hb
    exact ha' (hjk ▸ hj) hid hversion
  · rw [if_neg hjk] at hb
    exact h.fired j b hj hb hid hversion

theorem Swept.put_same (h : Swept d w) {k : Nat} {a a' : Actor} (ha : w.actors k = some a)
    (hidentity : a'.identity = a.identity) (hfired : a.fired = true → a'.fired = true) :
    Swept d (w.put k a') := by
  refine h.put ?_
  intro hk hid hversion
  rw [hidentity] at hid hversion
  exact hfired (h.fired k a hk ha hid hversion)

/-- The fences keep what is swept. -/
theorem Swept.disconnectCredentials (h : Swept d w) (requester : Nat)
    (pairs : List (Text × UInt64)) : Swept d (w.disconnectCredentials requester pairs) := by
  refine ⟨h.credentialId, ?_, ?_⟩
  · exact UInt64.le_trans h.blocked (blocked_le_disconnectCredentials w requester pairs _)
  · intro k a' hk ha' hid hversion
    obtain ⟨a, ha, hcalm, -⟩ := of_disconnectCredentials ha'
    rw [hcalm.identity] at hid hversion
    exact hcalm.fired (h.fired k a hk ha hid hversion)

/-- What is kept in every run: the store is valid, a session that is not registered was told to
close, and what was destroyed is owed or swept. -/
structure Tended (w : Shared) : Prop where
  valid : Valid w.core.state
  unregistered : ∀ k a, w.actors k = some a → a.registered = false → a.fired = true
  destroyed : ∀ d ∈ w.destroyed, Owed d w ∨ Swept d w

/-- **The timer fires**: what its session owed is swept. -/
theorem Owed.swept (h : Owed d w) (hunregistered : ∀ k a, w.actors k = some a →
    a.registered = false → a.fired = true) {a : Actor} (ha : w.actors d.client = some a) :
    Swept d (w.disconnectCredentials d.client a.pendingDisconnects) := by
  obtain ⟨b, hb, -, -, through, hmem, hthrough, hid, hversion⟩ := h
  obtain rfl := Option.some.inj (ha.symm.trans hb)
  refine ⟨hid, UInt64.le_trans hthrough (le_blocked_of_mem w d.client hmem hid hversion), ?_⟩
  intro k c' hk hc' hcid hcversion
  rw [actors_disconnectCredentials] at hc'
  obtain ⟨c, hc, rfl⟩ := Option.map_eq_some_iff.mp hc'
  show (c.fired || a.pendingDisconnects.any fun pair => Closes d.client k c pair) = true
  cases hregistered : c.registered with
  | false => rw [hunregistered k c hc hregistered, Bool.true_or]
  | true =>
    have hcloses : Closes d.client k c (d.credentialId, through) :=
      ⟨hk, hregistered, hcid, UInt64.le_trans hcversion hthrough, hid, hversion⟩
    rw [List.any_eq_true.mpr ⟨_, hmem, decide_eq_true hcloses⟩, Bool.or_true]

/-! ## §4 — one event -/

/-- The credentials a reset listed before it wiped the store are all there is to disconnect. -/
def Shared.Listed (w : Shared) (active : List Credential) : Prop :=
  ∀ r ∈ w.core.state.credentials, r.credential.revoked = false →
    ∃ c ∈ active, c.revoked = false ∧ c.credentialId = r.credential.credentialId ∧
      r.credential.version ≤ c.version

/-- **When an event loses no disconnect**: no version wraps; a reset finds the live credentials it
listed; and an actor that ends, other than by its own timer, has none armed. -/
def LosesNone (w : Shared) : RelayEvent → Prop
  | .call call => ¬ Wraps w.core.state call.op
  | .administer client _ _ => ∀ a, w.actors client = some a →
    match a.phase with
    | .revoking _ _ credentialId => ¬ Wraps w.core.state (.revokeDevice credentialId)
    | .resetting _ _ active => w.Listed active
    | _ => True
  | e => ∀ k a, Ends w e k → w.actors k = some a → a.revokedAt = none

/-- The steps of the relay that lose no disconnect. -/
def SweepStep (tape : Tape) (w : Shared) (e : RelayEvent) (w' : Shared) : Prop :=
  RelayStep tape w e w' ∧ LosesNone w e

theorem valid_perform (hvalid : Valid w.core.state) {call : Call}
    (hwrap : ¬ Wraps w.core.state call.op) : Valid (w.core.perform tape call).1.state :=
  (StoreCore.storeStep_transaction tape w.core call).effect.valid hvalid hwrap

theorem not_wraps {s : AuthState} {op : StoreOp} (h : ∀ id, op ≠ .revokeDevice id) :
    ¬ Wraps s op := by
  rintro ⟨r, hop, -⟩
  exact h _ hop

/-- A successful revocation answers with the credential, at a version past the destroyed one. -/
theorem revoke_reply {c : StoreCore} (hvalid : Valid c.state) {id : Text} {now : Int}
    {persist : Except StoreError Unit} (hwrap : ¬ Wraps c.state (.revokeDevice id))
    {r : CredentialRecord} (hr : c.state.record id = some r)
    (hok : (c.perform tape ⟨.revokeDevice id, now, persist⟩).2.isOk = true) :
    ∃ credential,
      (c.perform tape ⟨.revokeDevice id, now, persist⟩).2 = .ok (.credential credential) ∧
      credential.credentialId = id ∧ r.credential.version ≤ credential.version ∧
      credential.version ≠ 0 := by
  have hid := credentialId_of_record hr
  have hrecord := hvalid.records r (Keyed.mem_of_lookup hr)
  cases hreply : (c.perform tape ⟨.revokeDevice id, now, persist⟩).2 with
  | error error => rw [hreply] at hok; cases hok
  | ok payload =>
    have hresult := (StoreCore.storeStep_transaction tape c
      ⟨.revokeDevice id, now, persist⟩).result_of_reply_ok hreply
    simp only [StoreCore.transaction, AuthState.perform, Answer.map, revoke, hr] at hresult
    by_cases hlast : activeController r = true ∧ c.state.activeControllers = 1
    · rw [if_pos hlast] at hresult
      cases hresult
    rw [if_neg hlast] at hresult
    cases hrevoked : r.credential.revoked with
    | true =>
      rw [hrevoked, if_pos rfl] at hresult
      obtain rfl := Except.ok.inj hresult
      exact ⟨_, rfl, hid, UInt64.le_refl _, hrecord.version⟩
    | false =>
      rw [hrevoked, if_neg Bool.false_ne_true] at hresult
      obtain rfl := Except.ok.inj hresult
      have hmax : r.credential.version ≠ u64Max := by
        intro hmax
        subst hid
        exact hwrap ⟨r, rfl, hr, hrevoked, hlast, hmax⟩
      exact ⟨_, rfl, hid, le_succ hmax, succ_ne_zero hmax⟩

/-- **What a successful command destroyed has its disconnect among the outcome's.** -/
theorem Command.disconnects {client : Nat} {a : Actor} {scope : RequestScope} {inbound : Inbound}
    {op : StoreOp} {outcome : Except AuthError Payload → AdminOutcome} {destroys : List Destroyed}
    (hcommand : Command w client a scope inbound op outcome destroys)
    (hvalid : Valid w.core.state) {now : Int} {persist : Except StoreError Unit}
    (ha : w.actors client = some a) (hnone : LosesNone w (.administer client now persist))
    (hok : (w.core.perform tape ⟨op, now, persist⟩).2.isOk = true) (hd : d ∈ destroys) :
    d.client = client ∧ (outcome (w.core.perform tape ⟨op, now, persist⟩).2).result.isOk = true ∧
      ∃ through, (d.credentialId, through) ∈
          (outcome (w.core.perform tape ⟨op, now, persist⟩).2).disconnects ∧
        d.version ≤ through ∧ d.credentialId ≠ [] ∧ through ≠ 0 := by
  have hphase := hnone a ha
  cases hcommand with
  | rename _ => cases hd
  | @revoke credentialId phase =>
    rw [phase] at hphase
    unfold Shared.destroyedByRevoke at hd
    cases hr : w.core.state.record credentialId with
    | none => rw [hr] at hd; cases hd
    | some r =>
      rw [hr] at hd
      obtain rfl := List.mem_singleton.mp hd
      obtain ⟨credential, hreply, hid, hversion, hzero⟩ := revoke_reply hvalid hphase hr hok
      rw [hreply]
      refine ⟨rfl, rfl, credential.version, ?_, hversion, ?_, hzero⟩
      · rw [← hid]
        exact List.mem_singleton_self _
      · have hrecord := hvalid.records r (Keyed.mem_of_lookup hr)
        rw [← credentialId_of_record hr]
        exact hrecord.credentialId
  | @reset active phase =>
    rw [phase] at hphase
    unfold Shared.destroyedByReset at hd
    obtain ⟨r, hr, rfl⟩ := List.mem_map.mp hd
    obtain ⟨hmem, hlive⟩ := List.mem_filter.mp hr
    obtain ⟨c, hc, hclive, hcid, hcversion⟩ := hphase r hmem (by simpa using hlive)
    cases hreply : (w.core.perform tape ⟨.resetDevices w.resetBootstrap a.identity.locale, now,
      persist⟩).2 with
    | error error => rw [hreply] at hok; cases hok
    | ok payload =>
      refine ⟨rfl, rfl, c.version, ?_, hcversion, (hvalid.records r hmem).credentialId, ?_⟩
      · rw [← hcid]
        exact List.mem_map.mpr ⟨c, List.mem_filter.mpr ⟨hc, by simp [hclive]⟩, rfl⟩
      · -- a listed version is at least a valid one
        intro hzero
        rw [hzero] at hcversion
        apply (hvalid.records r hmem).version
        rw [UInt64.le_iff_toNat_le, UInt64.toNat_zero] at hcversion
        exact UInt64.toNat_inj.mp (Nat.le_zero.mp hcversion)

namespace Tended

/-- Nothing but the store and the histories nobody reads changed. -/
theorem of_eq (h : Tended w) (hactors : w'.actors = w.actors) (hblocked : w'.blocked = w.blocked)
    (hdestroyed : w'.destroyed = w.destroyed) (hvalid : Valid w'.core.state) : Tended w' := by
  refine ⟨hvalid, hactors ▸ h.unregistered, ?_⟩
  intro d hd
  rw [hdestroyed] at hd
  rcases h.destroyed d hd with howed | hswept
  · unfold Owed at howed ⊢
    rw [hactors]
    exact .inl howed
  · refine .inr ⟨hswept.credentialId, ?_, ?_⟩
    · rw [hblocked]
      exact hswept.blocked
    · rw [hactors]
      exact hswept.fired

/-- A session that is not registered has been told to close: one actor is rewritten. -/
theorem unregistered_put
    (h : ∀ j b, w.actors j = some b → b.registered = false → b.fired = true) {k : Nat} {a' : Actor}
    (ha' : a'.registered = false → a'.fired = true) :
    ∀ j b, (w.put k a').actors j = some b → b.registered = false → b.fired = true := by
  intro j b hb
  rw [actors_put] at hb
  split at hb
  · obtain rfl := Option.some.inj hb
    exact ha'
  · exact h j b hb

theorem put (h : Tended w) {k : Nat} {a a' : Actor} (ha : w.actors k = some a)
    (hkeeps : a.Keeps a') : Tended (w.put k a') := by
  refine ⟨h.valid, unregistered_put h.unregistered ?_, ?_⟩
  · intro hregistered
    rw [hkeeps.registered] at hregistered
    exact hkeeps.fired (h.unregistered k a ha hregistered)
  · intro d hd
    rcases h.destroyed d hd with howed | hswept
    · exact .inl (howed.put ha hkeeps)
    · exact .inr (hswept.put_same ha hkeeps.identity hkeeps.fired)

theorem destroy (h : Tended w) {ds : List Destroyed} (hds : ∀ d ∈ ds, Owed d w) :
    Tended { w with destroyed := w.destroyed ++ ds } := by
  refine ⟨h.valid, h.unregistered, ?_⟩
  intro d hd
  rcases List.mem_append.mp hd with hold | hnew
  · rcases h.destroyed d hold with howed | hswept
    · exact .inl howed
    · exact .inr ⟨hswept.credentialId, hswept.blocked, hswept.fired⟩
  · exact .inl (hds d hnew)

/-- A new session: below a fence it is told to close at once. -/
theorem register (h : Tended w) {client : Nat} (hfree : w.actors client = none)
    (identity : AuthenticatedIdentity) : Tended (w.register client identity) := by
  unfold Shared.register
  have hsame : Tended { w with accepted := w.accepted.erase identity } :=
    h.of_eq rfl rfl rfl h.valid
  refine ⟨h.valid, unregistered_put h.unregistered ?_, ?_⟩
  · intro hregistered
    simpa using hregistered
  · intro d hd
    rcases hsame.destroyed d hd with howed | hswept
    · refine .inl (howed.put_other ?_ _)
      rintro rfl
      obtain ⟨a, ha, -⟩ := howed
      cases hfree.symm.trans ha
    · refine .inr (hswept.put ?_)
      intro _ hid hversion
      have hne : identity.credentialId ≠ [] := hid ▸ hswept.credentialId
      have hle : identity.credentialVersion ≤ w.blocked identity.credentialId :=
        UInt64.le_trans hversion (hid ▸ hswept.blocked)
      simp [Shared.refuses, hne, hle]

/-- The timer: what the session owed is swept, and what others owe is still owed. -/
theorem disconnectRevoked (h : Tended w) {client : Nat} {a : Actor}
    (ha : w.actors client = some a) : Tended (w.disconnectRevoked client a) := by
  obtain ⟨hcore, -, hdestroyed⟩ := disconnectCredentials_frame w client a.pendingDisconnects
  have hself := (disconnectCredentials_requester w client a.pendingDisconnects).trans ha
  have hfired : a.fired = true → (a.fired || a.selfDisconnect) = true := by
    intro hfired
    rw [hfired, Bool.true_or]
  unfold Shared.disconnectRevoked
  refine ⟨?_, unregistered_put ?_ (fun hr => hfired (h.unregistered client a ha hr)), ?_⟩
  · show Valid (w.disconnectCredentials client a.pendingDisconnects).core.state
    rw [hcore]
    exact h.valid
  · intro j b hb hregistered
    obtain ⟨b₀, hb₀, hcalm, -⟩ := of_disconnectCredentials hb
    rw [hcalm.registered] at hregistered
    exact hcalm.fired (h.unregistered j b₀ hb₀ hregistered)
  · intro d hd
    replace hd : d ∈ w.destroyed := hdestroyed ▸ hd
    rcases h.destroyed d hd with howed | hswept
    · by_cases hclient : d.client = client
      · subst hclient
        exact .inr ((howed.swept h.unregistered ha).put_same hself rfl hfired)
      · obtain ⟨b, hb, hlive, harmed, hpending⟩ := howed
        obtain ⟨b', hb', hcalm, hphase⟩ :=
          exists_disconnectCredentials hb client a.pendingDisconnects
        refine .inl (Owed.put_other ⟨b', hb', ?_, ?_, ?_⟩ hclient _)
        · rw [hphase]
          exact hlive
        · rw [hcalm.revokedAt]
          exact harmed
        · rw [hcalm.pendingDisconnects]
          exact hpending
    · exact .inr ((hswept.disconnectCredentials client a.pendingDisconnects).put_same hself rfl
        hfired)

/-- An actor that owes nothing ends. -/
theorem evict (h : Tended w) {client : Nat} {a : Actor} (ha : w.actors client = some a)
    (hnone : a.revokedAt = none) : Tended (w.put client a.evict) := by
  refine ⟨h.valid, unregistered_put h.unregistered (fun _ => rfl), ?_⟩
  intro d hd
  rcases h.destroyed d hd with howed | hswept
  · refine .inl (howed.put_other ?_ _)
    rintro rfl
    obtain ⟨b, hb, -, harmed, -⟩ := howed
    obtain rfl := Option.some.inj (ha.symm.trans hb)
    exact harmed hnone
  · exact .inr (hswept.put_same ha rfl fun _ => rfl)

/-- **One event that loses no disconnect keeps it.** -/
theorem move (h : Tended w) (hmove : Move tape w e w') (hnone : LosesNone w e) : Tended w' := by
  cases hmove with
  | stored call => exact h.of_eq rfl rfl rfl (valid_perform h.valid hnone)
  | closing => exact h.of_eq rfl rfl rfl h.valid
  | connected hfree _ => exact h.register hfree _
  | moved ha hcalm => exact h.put ha hcalm.keeps
  | admitted ha hidle hanswer hpass => exact h.put ha (Actor.keeps_admitted _ _ _)
  | @handed _ client a a' work current core ha hphase hcalm hopen hcore =>
    have hvalid : Valid core.state := by
      rcases hcore with rfl | ⟨call, hop, rfl⟩
      · exact h.valid
      · exact valid_perform h.valid (not_wraps hop)
    have hhanded : Tended { w with
        core, handed := w.handed ++ [HandOver.mk client a.identity work current] } :=
      h.of_eq rfl rfl rfl hvalid
    exact hhanded.put ha hcalm.keeps
  | @administered client now persist a scope inbound op outcome destroys ha hcommand =>
    have hwrap : ¬ Wraps w.core.state op := by
      have hphase := hnone a ha
      cases hcommand with
      | rename phase => exact not_wraps fun id hid => by cases hid
      | revoke phase =>
        rw [phase] at hphase
        exact hphase
      | reset phase => exact not_wraps fun id hid => by cases hid
    have hstored : Tended { w with core := (w.core.perform tape ⟨op, now, persist⟩).1 } :=
      h.of_eq rfl rfl rfl (valid_perform h.valid hwrap)
    refine Tended.destroy (hstored.put ha (Actor.keeps_settle a scope inbound _ now)) ?_
    intro d hd
    split at hd
    · rename_i hok
      obtain ⟨hclient, hresult, through, hmem, hthrough⟩ :=
        hcommand.disconnects h.valid ha hnone hok hd
      obtain ⟨harmed, hpending⟩ := a.settle_arms scope inbound now hresult hmem
      refine ⟨_, by rw [actors_put, if_pos hclient], ?_, harmed, through, hpending, hthrough⟩
      rw [Actor.settle_phase]
      exact fun hexited => by cases hexited
    · cases hd
  | swept ha hidle => exact h.disconnectRevoked ha
  | @ended _ client a ha hends =>
    refine h.evict ha ?_
    cases e with
    | evict k | stop k => exact hnone client a hends ha
    | frame k opened => exact hnone client a hends ha
    | _ => exact hends.elim

end Tended

/-! ## §5 — runs -/

/-- **Revocation disconnects are not lost.** In every run from a store `validate` accepts, whose
events lose no disconnect (no revocation wraps a version, a reset wipes no live credential that it
had not listed, and no session ends with its timer armed): once the session of a successful revoke
or reset has ended, the fence of each credential the command destroyed stands, and every live
session of it has been told to close. -/
theorem disconnects_not_lost {core : StoreCore} {resetBootstrap : Option BootstrapRearm}
    {es : List RelayEvent} (hvalid : core.state.validate = .ok ())
    (hrun : Runs (SweepStep tape) (.start core resetBootstrap) es w) :
    ∀ d ∈ w.destroyed, ∀ a, w.actors d.client = some a → a.phase = .exited →
      d.version ≤ w.blocked d.credentialId ∧
      ∀ k b, w.actors k = some b → b.phase ≠ .exited →
        b.identity.credentialId = d.credentialId → b.identity.credentialVersion ≤ d.version →
        b.fired = true := by
  have hstart : Tended (Shared.start core resetBootstrap) := by
    refine ⟨validate_iff.mp hvalid, ?_, List.forall_mem_nil _⟩
    intro k a ha
    cases ha
  have htended : Tended w :=
    hrun.invariant (I := Tended) (fun _ _ _ h hstep => h.move (step_move hstep.1) hstep.2) hstart
  intro d hd a ha hexited
  rcases htended.destroyed d hd with ⟨b, hb, hlive, -⟩ | hswept
  · obtain rfl := Option.some.inj (ha.symm.trans hb)
    exact absurd hexited hlive
  · refine ⟨hswept.blocked, ?_⟩
    intro k b hb hlive hid hversion
    have hne : k ≠ d.client := by
      rintro rfl
      obtain rfl := Option.some.inj (ha.symm.trans hb)
      exact hlive hexited
    exact hswept.fired k b hne hb hid hversion

/-- The peer of the second session closes, and its actor ends. -/
def secondLeaves : List RelayEvent := [.fire 2, .stop 2]

/-- **A disconnect lost**: the second session revokes the first one's credential, is answered, and
its peer closes before the timer fires; the first session is not told. -/
theorem disconnect_lost :
    (twoControllers 1).state.validate = .ok () ∧
    ∃ w, Runs (RelayStep zeroTape) (.start (twoControllers 1) none)
        (bothConnect ++ secondRevokesFirst ++ secondLeaves) w ∧
      w.destroyed = [⟨2, ['a'], 1⟩] ∧ (w.actors 2).map (·.phase) = some .exited ∧
      (w.actors 1).map (fun a => (a.identity, a.phase, a.fired))
        = some (sampleIdentity ['a'], .idle, false) :=
  ⟨by decide +kernel, Runs.of_any (fun _ _ _ _ => id) (by decide +kernel)⟩

/-- The second session has found the credential it is to revoke. -/
def beforeRevocation : List RelayEvent := bothConnect ++ secondRevokesFirst.take 2

/-- Its timer fires before its peer closes. -/
def sweptInTime : List RelayEvent := [.timer 2 250, .fire 2]

/-- A test of what an event loses. -/
def losesNone (w : Shared) : RelayEvent → Bool
  | .call call =>
    match call.op with
    | .revokeDevice _ => false
    | _ => true
  | .administer client _ _ => (w.actors client).all fun a =>
    match a.phase with
    | .revoking _ _ id => (w.core.state.record id).all (·.credential.version ≠ u64Max)
    | _ => false
  | .evict k | .stop k | .frame k _ => (w.actors k).all (·.revokedAt = none)
  | _ => true

theorem LosesNone.of_test {e : RelayEvent} (h : losesNone w e = true) : LosesNone w e := by
  cases e with
  | call call =>
    refine not_wraps fun id hop => ?_
    rw [losesNone, hop] at h
    cases h
  | administer client =>
    intro a ha
    simp only [losesNone, ha, Option.all_some] at h
    split at h
    · next hphase =>
      rw [hphase]
      exact not_wraps_revoke h
    · cases h
  | evict k | stop k =>
    rintro _ a rfl ha
    rw [losesNone, ha] at h
    exact of_decide_eq_true h
  | frame k opened =>
    rintro _ a ⟨rfl, -⟩ ha
    rw [losesNone, ha] at h
    exact of_decide_eq_true h
  | _ => exact fun _ _ hends _ => hends.elim

/-- Where the timer fires in time, the first session has been told. -/
theorem disconnects_not_lost_in_time :
    ∃ w, Runs (SweepStep zeroTape) (.start (twoControllers 1) none)
        (beforeRevocation ++ (.administer 2 0 (.ok ()) :: (sweptInTime ++ [.stop 2]))) w ∧
      w.destroyed = [⟨2, ['a'], 1⟩] ∧
      ∃ a b, w.actors 2 = some a ∧ a.phase = .exited ∧ w.actors 1 = some b ∧
        b.identity = sampleIdentity ['a'] ∧ b.phase = .idle ∧ b.fired = true := by
  have hcomputed : ∃ w, Runs (SweepStep zeroTape) (.start (twoControllers 1) none)
      (beforeRevocation ++ (.administer 2 0 (.ok ()) :: (sweptInTime ++ [.stop 2]))) w ∧
      w.destroyed = [⟨2, ['a'], 1⟩] ∧ (w.actors 2).map Actor.phase = some .exited ∧
      (w.actors 1).map (fun b => (b.identity, b.phase)) = some (sampleIdentity ['a'], .idle) :=
    Runs.of_any (f := fun w e => if losesNone w e then w.step zeroTape e else none)
      (fun _ _ _ _ hstep => (Option.ite_none_right_eq_some.mp hstep).symm.imp_right .of_test)
      (by decide +kernel)
  obtain ⟨w, hrun, hdestroyed, hactor, hpeer⟩ := hcomputed
  obtain ⟨a, ha, hexited⟩ := Option.map_eq_some_iff.mp hactor
  obtain ⟨b, hb, heq⟩ := Option.map_eq_some_iff.mp hpeer
  obtain ⟨hidentity, hidle⟩ := Prod.mk.inj heq
  refine ⟨w, hrun, hdestroyed, a, b, ha, hexited, hb, hidentity, hidle, ?_⟩
  obtain ⟨-, hfired⟩ := disconnects_not_lost (by decide +kernel) hrun ⟨2, ['a'], 1⟩
    (by rw [hdestroyed]; exact List.mem_singleton_self _) a ha hexited
  refine hfired 1 b hb ?_ ?_ ?_
  · rw [hidle]
    exact fun h => by cases h
  · rw [hidentity]
    rfl
  · rw [hidentity]
    exact UInt64.le_refl 1

end Lerdr.Relay
