/-
# Lerdr.Auth.Effects — what one operation of the store can do.

An operation changes the records and the invitation in a handful of ways, listed by `RecordsEffect`
and `InvitationEffect`; `perform_effect` says that these are all, for every operation, clock and
random source. What holds of every run is proved from the two lists, not from the operations.
-/
import Lerdr.Auth.Store

namespace Lerdr.Auth

open Lib Lerdr.Rust
open Lerdr.E2ee (AuthSelector secretBytes)

/-! ## §1 — small facts about the operations -/

@[simp] theorem Answer.isOk_map {α β : Type} (a : Answer α) (f : α → β) :
    (a.map f).result.isOk = a.result.isOk := by
  unfold Answer.map
  cases a.result <;> rfl

namespace AuthState

variable {s : AuthState}

theorem decodeSecret_encode (secret : Block secretBytes) :
    decodeSecret (Base64.encode secret.toList) = .ok secret := by
  rw [decodeSecret, Base64.decode_encode, Option.bind_some, Block.ofBytes_toList]
  rfl

theorem decodeSecret_nil : decodeSecret [] = .error .failed := rfl

theorem encode_block_ne_nil {n : Nat} (block : Block n) (h : 0 < n) :
    Base64.encode block.toList ≠ [] := by
  apply Base64.encode_ne_nil
  intro hnil
  have hlength := block.toList_length
  rw [hnil, List.length_nil] at hlength
  omega

theorem credentialId_of_record {id : Text} {r : CredentialRecord}
    (h : s.record id = some r) : r.credential.credentialId = id := by
  unfold record at h
  have hkey := Keyed.key_of_lookup h
  exact hkey

theorem record_eq_none_iff {id : Text} :
    s.record id = none ↔ id ∉ s.credentials.map (·.credential.credentialId) :=
  Keyed.lookup_eq_none_iff

theorem tombstone_deviceId (r : CredentialRecord) :
    (tombstone r).credential.deviceId = r.credential.deviceId := rfl

theorem tombstone_credentialId (r : CredentialRecord) :
    (tombstone r).credential.credentialId = r.credential.credentialId := rfl

section

variable (s : AuthState) (id : Text)

theorem dropPending_eq : s.dropPending id =
    { s with invitation := s.invitation.filter (·.pendingCredentialId ≠ id) } := by
  obtain ⟨⟨schema, invitation, credentials⟩, rearm⟩ := s
  cases invitation with
  | none => rfl
  | some i => by_cases h : i.pendingCredentialId = id <;> simp [dropPending, h, Option.filter]

@[simp] theorem dropPending_credentials :
    (s.dropPending id).credentials = s.credentials := by
  rw [dropPending_eq]

@[simp] theorem dropPending_rearmBootstrap :
    (s.dropPending id).rearmBootstrap = s.rearmBootstrap := by
  rw [dropPending_eq]

@[simp] theorem dropPending_schemaVersion :
    (s.dropPending id).schemaVersion = s.schemaVersion := by
  rw [dropPending_eq]

theorem dropPending_invitation :
    (s.dropPending id).invitation = s.invitation.filter (·.pendingCredentialId ≠ id) := by
  rw [dropPending_eq]

end

/-- A drawn identifier comes from the tape and is not taken. -/
theorem uniqueId_spec {device : Bool} {tape : Tape} {drawn drawn' tries : Nat}
    {id : Text} (h : s.uniqueId device tape drawn tries = (some id, drawn')) :
    (∃ p, drawn ≤ p ∧ p < drawn' ∧ id = Base64.encode (tape p identifierBytes).toList) ∧
    (device = true → id ∉ s.credentials.map (·.credential.deviceId)) ∧
    (device = false → id ∉ s.credentials.map (·.credential.credentialId)) := by
  induction tries generalizing drawn with
  | zero => simp [uniqueId] at h
  | succ tries ih =>
    rw [uniqueId] at h
    split at h
    · obtain ⟨⟨p, hlo, hhi, hid⟩, hfresh⟩ := ih h
      exact ⟨⟨p, by omega, hhi, hid⟩, hfresh⟩
    · rename_i htaken
      simp only [Prod.mk.injEq, Option.some.injEq] at h
      obtain ⟨rfl, rfl⟩ := h
      refine ⟨⟨drawn, le_refl _, Nat.lt_succ_self _, rfl⟩, ?_, ?_⟩
      · rintro rfl
        simpa [taken] using htaken
      · rintro rfl
        rw [← record_eq_none_iff]
        simpa [taken] using htaken

theorem drawn_le_uniqueId (s : AuthState) (device : Bool) (tape : Tape) (drawn tries : Nat) :
    drawn ≤ (s.uniqueId device tape drawn tries).2 := by
  induction tries generalizing drawn with
  | zero => exact le_refl _
  | succ tries ih =>
    rw [uniqueId]
    split
    · exact (Nat.le_succ drawn).trans (ih (drawn + 1))
    · exact Nat.le_succ drawn

/-! ## §2 — redemption -/

def minted (s : AuthState) (i : Invitation) (r : CredentialRecord) : AuthState :=
  { s with
    credentials := s.credentials ++ [r]
    invitation := some { i with pendingCredentialId := r.credential.credentialId } }

/-- A stretch of the random source: the calls of `fill` that one operation made. -/
structure Draws where
  tape : Tape
  first : Nat
  last : Nat

/-- The text is an identifier drawn in the stretch. -/
def Draws.Mem (d : Draws) (id : Text) : Prop :=
  ∃ p, d.first ≤ p ∧ p < d.last ∧ id = Base64.encode (d.tape p identifierBytes).toList

/-- What is true of a record a redemption adds. -/
structure Minted (s : AuthState) (i : Invitation) (draws : Draws) (r : CredentialRecord) :
    Prop where
  deviceId_fresh : r.credential.deviceId ∉ s.credentials.map (·.credential.deviceId)
  credentialId_fresh : r.credential.credentialId ∉ s.credentials.map (·.credential.credentialId)
  deviceId_ne_nil : r.credential.deviceId ≠ []
  version : r.credential.version = 1
  revoked : r.credential.revoked = false
  role : r.credential.role = i.role
  secret : ∃ secret : Block secretBytes, r.secret = Base64.encode secret.toList
  drawn : draws.Mem r.credential.credentialId

theorem Draws.Mem.ne_nil {d : Draws} {id : Text} (h : d.Mem id) : id ≠ [] := by
  obtain ⟨p, -, -, rfl⟩ := h
  exact encode_block_ne_nil _ (by decide)

/-- How a redemption can end. -/
inductive Redemption (s : AuthState) (draws : Draws) : Answer AuthOutcome → Prop
  | refused : Redemption s draws ⟨s, .error .failed, false⟩
  | expired : Redemption s draws ⟨{ s with invitation := none }, .error .invitationExpired, true⟩
  | reissued {i : Invitation} {r : CredentialRecord} (invitation : s.invitation = some i)
      (pending : i.pendingCredentialId ≠ []) (record : s.record i.pendingCredentialId = some r) :
      Redemption s draws ⟨s, issuedOutcome r, false⟩
  | minted {i : Invitation} {r : CredentialRecord} {secret : Block secretBytes}
      (invitation : s.invitation = some i) (pending : i.pendingCredentialId = [])
      (record : Minted s i draws r) :
      Redemption s draws ⟨s.minted i r,
        .ok { identity := identity r.credential, credentialSecret := some secret }, true⟩

theorem mint_spec {i : Invitation} (selector : AuthSelector) (now : Int)
    (tape : Tape) (drawn : Nat) (hinv : s.invitation = some i)
    (hpending : i.pendingCredentialId = []) :
    Redemption s ⟨tape, drawn, (s.mint i selector now tape drawn).2⟩
      (s.mint i selector now tape drawn).1 := by
  unfold mint
  have hlo := drawn_le_uniqueId s true tape drawn 8
  rcases hdevice : s.uniqueId true tape drawn 8 with ⟨device?, d₁⟩
  rcases hcredential : s.uniqueId false tape d₁ 8 with ⟨credential?, d₂⟩
  rw [hdevice] at hlo
  simp only [hcredential]
  cases device? with
  | none => exact .refused
  | some deviceId =>
    cases credential? with
    | none => exact .refused
    | some credentialId =>
      obtain ⟨⟨q, -, -, hdeviceId⟩, hdeviceFresh, -⟩ := uniqueId_spec hdevice
      obtain ⟨⟨p, hp, hp', hid⟩, -, hcredentialFresh⟩ := uniqueId_spec hcredential
      have hrecord : Minted s i ⟨tape, drawn, d₂ + 1⟩
          { credential := mintedCredential deviceId credentialId i selector.locale now
            secret := Base64.encode (tape d₂ secretBytes).toList } := by
        refine ⟨hdeviceFresh rfl, hcredentialFresh rfl, ?_, rfl, rfl, rfl, ⟨_, rfl⟩, p, ?_, ?_, hid⟩
        · show deviceId ≠ []
          rw [hdeviceId]
          exact encode_block_ne_nil _ (by decide)
        · exact le_trans hlo hp
        · exact Nat.lt_succ_of_lt hp'
      exact .minted hinv hpending hrecord

/-- **The four ends of a redemption.** -/
theorem redeemInvitation_spec (s : AuthState) (selector : AuthSelector) (now : Int) (tape : Tape)
    (drawn : Nat) :
    Redemption s ⟨tape, drawn, (s.redeemInvitation selector now tape drawn).2⟩
      (s.redeemInvitation selector now tape drawn).1 := by
  unfold redeemInvitation
  cases hinv : s.invitation with
  | none => exact .refused
  | some i =>
    by_cases hmatch : i.invitationId ≠ selector.id ∨ i.version ≠ selector.version
    · simp only [if_pos hmatch]
      exact .refused
    by_cases hexpired : i.expiresAtMs ≤ now
    · simp only [if_neg hmatch, if_pos hexpired]
      exact .expired
    by_cases hpending : i.pendingCredentialId ≠ []
    · simp only [if_neg hmatch, if_neg hexpired, if_pos hpending]
      cases hrecord : s.record i.pendingCredentialId with
      | none => exact .refused
      | some r => exact .reissued hinv hpending hrecord
    · simp only [if_neg hmatch, if_neg hexpired, if_neg hpending]
      exact mint_spec selector now tape drawn hinv (not_not.mp hpending)

/-! ## §3 — effects -/

/-- A rewrite that leaves a record's identity, authority and secret alone. -/
structure Touches (f : CredentialRecord → CredentialRecord) : Prop where
  deviceId : ∀ r, (f r).credential.deviceId = r.credential.deviceId
  credentialId : ∀ r, (f r).credential.credentialId = r.credential.credentialId
  role : ∀ r, (f r).credential.role = r.credential.role
  version : ∀ r, (f r).credential.version = r.credential.version
  revoked : ∀ r, (f r).credential.revoked = r.credential.revoked
  secret : ∀ r, (f r).secret = r.secret

theorem touches_refresh (now : Int) (locale : Text) : Touches (refresh now locale) :=
  ⟨fun _ => rfl, fun _ => rfl, fun _ => rfl, fun _ => rfl, fun _ => rfl, fun _ => rfl⟩

theorem touches_setName (name : Text) : Touches (setName name) :=
  ⟨fun _ => rfl, fun _ => rfl, fun _ => rfl, fun _ => rfl, fun _ => rfl, fun _ => rfl⟩

/-- The operation replaces the invitation. -/
def Installs : StoreOp → Prop
  | .createInvitation .. | .resetDevices .. => True
  | _ => False

instance : DecidablePred Installs
  | .createInvitation .. => isTrue trivial
  | .resetDevices .. => isTrue trivial
  | .resolve _ => isFalse id
  | .complete .. => isFalse id
  | .authorize .. => isFalse id
  | .listDevices => isFalse id
  | .renameDevice .. => isFalse id
  | .revokeDevice _ => isFalse id

def Wipes : StoreOp → Prop
  | .resetDevices .. => True
  | _ => False

/-- What an operation can do to the records. -/
inductive RecordsEffect (op : StoreOp) (draws : Draws) (xs : List CredentialRecord) :
    List CredentialRecord → Prop
  | same : RecordsEffect op draws xs xs
  | touched (id : Text) {f : CredentialRecord → CredentialRecord} (touches : Touches f) :
      RecordsEffect op draws xs (Keyed.update (·.credential.credentialId) id f xs)
  | revoked {r : CredentialRecord} (op_eq : op = .revokeDevice r.credential.credentialId)
      (record : Keyed.lookup (·.credential.credentialId) r.credential.credentialId xs = some r)
      (live : r.credential.revoked = false)
      (spare : ¬ (activeController r = true ∧ xs.countP activeController = 1)) :
      RecordsEffect op draws xs
        (Keyed.update (·.credential.credentialId) r.credential.credentialId tombstone xs)
  | minted {s : AuthState} {i : Invitation} {r : CredentialRecord}
      (records : s.credentials = xs) (record : Minted s i draws r) :
      RecordsEffect op draws xs (xs ++ [r])
  | wiped (wipes : Wipes op) : RecordsEffect op draws xs []

/-- The invitation after one more failed attempt. -/
def charge (i : Invitation) (now : Int) : Invitation :=
  { i with
    failedAttempts := i.failedAttempts + 1
    nextAttemptAtMs := addI64 now (1000 * 2 ^ ((i.failedAttempts + 1 - 1).toNat % 64)) }

/-- A freshly installed invitation. -/
structure Installed (i : Invitation) : Prop where
  invitationId : i.invitationId ≠ []
  version : i.version = 1
  secret : ∃ secret : Block secretBytes, i.secret = Base64.encode secret.toList
  failedAttempts : i.failedAttempts = 0
  pendingCredentialId : i.pendingCredentialId = []

/-- What an operation can do to the invitation. -/
inductive InvitationEffect (op : StoreOp) (now : Int) (draws : Draws) (inv : Option Invitation) :
    Option Invitation → Prop
  | same : InvitationEffect op now draws inv inv
  | dropped : InvitationEffect op now draws inv none
  | rearmed {i : Invitation} (expiresAtMs : Int) (invitation : inv = some i) :
      InvitationEffect op now draws inv (some { i with expiresAtMs })
  | charged {i : Invitation} (invitation : inv = some i)
      (limit : i.failedAttempts + 1 < maxInviteAttempts) :
      InvitationEffect op now draws inv (some (charge i now))
  | reserved {i : Invitation} {id : Text} (invitation : inv = some i)
      (pending : i.pendingCredentialId = []) (drawn : draws.Mem id) :
      InvitationEffect op now draws inv (some { i with pendingCredentialId := id })
  | installed {i : Invitation} (installs : Installs op) (installed : Installed i) :
      InvitationEffect op now draws inv (some i)

/-- What an operation can do to the state, and when it may say that there is nothing to persist. -/
structure Effect (op : StoreOp) (now : Int) (draws : Draws) (s s' : AuthState) (mutated : Bool) :
    Prop where
  records : RecordsEffect op draws s.credentials s'.credentials
  invitation : InvitationEffect op now draws s.invitation s'.invitation
  rearmBootstrap : s'.rearmBootstrap = s.rearmBootstrap
  schemaVersion : s.schemaVersion = storeSchemaVersion → s'.schemaVersion = storeSchemaVersion
  unmutated : mutated = false → s' = s

theorem Effect.refl (op : StoreOp) (now : Int) (draws : Draws) (s : AuthState) (mutated : Bool) :
    Effect op now draws s s mutated :=
  ⟨.same, .same, rfl, id, fun _ => rfl⟩

theorem Effect.dropped (op : StoreOp) (now : Int) (draws : Draws) (s : AuthState) :
    Effect op now draws s { s with invitation := none } true :=
  ⟨.same, .dropped, rfl, id, nofun⟩

theorem invitationEffect_dropPending {op : StoreOp} {now : Int} {draws : Draws} {s t : AuthState}
    (id : Text) (h : t.invitation = s.invitation) :
    InvitationEffect op now draws s.invitation (t.dropPending id).invitation := by
  rw [dropPending_invitation, h]
  cases s.invitation with
  | none => exact .same
  | some i =>
    by_cases hi : i.pendingCredentialId = id
    · simp only [hi, Option.filter, ne_eq, not_true_eq_false, decide_false]
      exact .dropped
    · simp only [hi, Option.filter, ne_eq, not_false_eq_true, decide_true]
      exact .same

/-! ## §4 — every operation has one of these effects -/

theorem resolve_effect (op : StoreOp) (draws : Draws) (s : AuthState) (selector : AuthSelector)
    (now : Int) :
    Effect op now draws s (s.resolve selector now).state (s.resolve selector now).mutated := by
  unfold resolve
  cases selector.kind with
  | credential => exact .refl _ _ _ _ _
  | invitation =>
    simp only [resolveInvitation]
    cases hinv : s.invitation with
    | none => exact .refl _ _ _ _ _
    | some i =>
      by_cases hmatch : i.invitationId ≠ selector.id ∨ i.version ≠ selector.version
      · simp only [if_pos hmatch]
        exact .refl _ _ _ _ _
      by_cases hexpired : i.expiresAtMs ≤ now
      · simp only [if_neg hmatch, if_pos hexpired]
        split
        · exact ⟨.same, .rearmed _ hinv, rfl, id, nofun⟩
        · exact .dropped _ _ _ _
      · simp only [if_neg hmatch, if_neg hexpired]
        exact .refl _ _ _ _ _

theorem recordFailedInvitation_effect (op : StoreOp) (draws : Draws) (s : AuthState)
    (selector : AuthSelector) (now : Int) :
    Effect op now draws s (s.recordFailedInvitation selector now).state
      (s.recordFailedInvitation selector now).mutated := by
  unfold recordFailedInvitation
  cases hinv : s.invitation with
  | none => exact .refl _ _ _ _ _
  | some i =>
    by_cases hmatch : i.invitationId ≠ selector.id ∨ i.version ≠ selector.version
    · simp only [if_pos hmatch]
      exact .refl _ _ _ _ _
    by_cases hbootstrap : i.invitationId = bootstrapInvitationId
    · simp only [if_neg hmatch, if_pos hbootstrap]
      exact .refl _ _ _ _ _
    by_cases hexpired : i.expiresAtMs ≤ now
    · simp only [if_neg hmatch, if_neg hbootstrap, if_pos hexpired]
      exact .dropped _ _ _ _
    by_cases hburned : maxInviteAttempts ≤ i.failedAttempts + 1
    · simp only [if_neg hmatch, if_neg hbootstrap, if_neg hexpired, if_pos hburned]
      exact .dropped _ _ _ _
    · simp only [if_neg hmatch, if_neg hbootstrap, if_neg hexpired, if_neg hburned]
      exact ⟨.same, .charged hinv (UInt32.not_le.mp hburned), rfl, id, nofun⟩

theorem redemption_effect {op : StoreOp} {now : Int} {draws : Draws}
    {a : Answer AuthOutcome} (h : Redemption s draws a) :
    Effect op now draws s a.state a.mutated := by
  cases h with
  | refused => exact .refl _ _ _ _ _
  | expired => exact .dropped _ _ _ _
  | reissued => exact .refl _ _ _ _ _
  | minted hinv hpending hrecord =>
    exact ⟨.minted rfl hrecord, .reserved hinv hpending hrecord.drawn, rfl, id, nofun⟩

theorem completeCredential_effect (op : StoreOp) (draws : Draws) (s : AuthState)
    (selector : AuthSelector) (now : Int) :
    Effect op now draws s (s.completeCredential selector now).1
      (s.completeCredential selector now).2.isOk := by
  unfold completeCredential
  cases hrecord : s.record selector.id with
  | none => exact .refl _ _ _ _ _
  | some r =>
    by_cases hstale : r.credential.revoked = true ∨ r.credential.version ≠ selector.version
    · simp only [if_pos hstale]
      exact .refl _ _ _ _ _
    · simp only [if_neg hstale]
      refine ⟨?_, invitationEffect_dropPending _ rfl, ?_, ?_, nofun⟩
      · rw [dropPending_credentials]
        exact .touched _ (touches_refresh _ _)
      · rw [dropPending_rearmBootstrap]
        rfl
      · rw [dropPending_schemaVersion]
        exact id

theorem complete_effect (op : StoreOp) (s : AuthState) (selector : AuthSelector)
    (authenticated : Bool) (now : Int) (tape : Tape) (drawn : Nat) :
    Effect op now ⟨tape, drawn, (s.complete selector authenticated now tape drawn).2⟩ s
      (s.complete selector authenticated now tape drawn).1.state
      (s.complete selector authenticated now tape drawn).1.mutated := by
  unfold complete
  cases authenticated with
  | false =>
    cases selector.kind with
    | credential => exact .refl _ _ _ _ _
    | invitation => exact recordFailedInvitation_effect op _ s selector now
  | true =>
    cases selector.kind with
    | credential => exact completeCredential_effect op _ s selector now
    | invitation => exact redemption_effect (redeemInvitation_spec s selector now tape drawn)

theorem rename_effect (op : StoreOp) (now : Int) (draws : Draws) (s : AuthState)
    (credentialId name : Text) :
    Effect op now draws s (s.rename credentialId name).state
      (s.rename credentialId name).mutated := by
  unfold rename
  by_cases hname : (!validText (trim name) maxNameBytes) = true
  · simp only [if_pos hname]
    exact .refl _ _ _ _ _
  simp only [if_neg hname]
  cases s.record credentialId with
  | none => exact .refl _ _ _ _ _
  | some r => exact ⟨.touched _ (touches_setName _), .same, rfl, id, nofun⟩

theorem revoke_effect (now : Int) (draws : Draws) (s : AuthState) (credentialId : Text) :
    Effect (.revokeDevice credentialId) now draws s (s.revoke credentialId).state
      (s.revoke credentialId).mutated := by
  unfold revoke
  cases hrecord : s.record credentialId with
  | none => exact .refl _ _ _ _ _
  | some r =>
    obtain rfl := credentialId_of_record hrecord
    by_cases hlast : activeController r = true ∧ s.activeControllers = 1
    · simp only [if_pos hlast]
      exact .refl _ _ _ _ _
    simp only [if_neg hlast]
    cases hrevoked : r.credential.revoked with
    | true =>
      rw [if_pos rfl]
      refine ⟨?_, invitationEffect_dropPending _ rfl, dropPending_rearmBootstrap _ _, ?_, nofun⟩
      · rw [dropPending_credentials]
        exact .same
      · rw [dropPending_schemaVersion]
        exact id
    | false =>
      rw [if_neg Bool.false_ne_true]
      refine ⟨?_, invitationEffect_dropPending _ rfl, ?_, ?_, nofun⟩
      · rw [dropPending_credentials]
        exact .revoked rfl hrecord hrevoked hlast
      · rw [dropPending_rearmBootstrap]
        rfl
      · rw [dropPending_schemaVersion]
        exact id

theorem create_effect (draws : Draws) (s : AuthState) (name role locale : Text) (now : Int)
    (tape : Tape) (drawn : Nat) :
    Effect (.createInvitation name role locale) now draws s
      (s.create name role locale now tape drawn).1.state
      (s.create name role locale now tape drawn).1.mutated := by
  unfold create
  cases validateMetadata name role locale with
  | error e => exact .refl _ _ _ _ _
  | ok valid =>
    refine ⟨.same, .installed trivial ⟨?_, rfl, ⟨_, rfl⟩, rfl, rfl⟩, rfl, id, nofun⟩
    exact encode_block_ne_nil _ (by decide)

theorem bootstrapInvitationId_ne_nil : bootstrapInvitationId ≠ [] := by decide +kernel

theorem reset_effect (draws : Draws) (s : AuthState) (rearm : Option BootstrapRearm) (locale : Text)
    (now : Int) :
    Effect (.resetDevices rearm locale) now draws s (s.reset rearm locale now).state
      (s.reset rearm locale now).mutated := by
  unfold reset
  cases rearm with
  | none => exact ⟨.wiped trivial, .dropped, rfl, fun _ => rfl, nofun⟩
  | some rearm =>
    simp only
    cases validateMetadata rearm.name "controller".toList locale with
    | error e => exact .refl _ _ _ _ _
    | ok valid =>
      refine ⟨.wiped trivial, .installed trivial ?_, rfl, fun _ => rfl, nofun⟩
      exact ⟨bootstrapInvitationId_ne_nil, rfl, ⟨_, rfl⟩, rfl, rfl⟩

/-- **What an operation can do**, for every operation, clock and random source. -/
theorem perform_effect (s : AuthState) (now : Int) (tape : Tape) (drawn : Nat) (op : StoreOp) :
    Effect op now ⟨tape, drawn, (s.perform now tape drawn op).2⟩ s
      (s.perform now tape drawn op).1.state (s.perform now tape drawn op).1.mutated := by
  cases op with
  | resolve selector => exact resolve_effect _ _ s selector now
  | complete selector authenticated =>
    exact complete_effect _ s selector authenticated now tape drawn
  | authorize credentialId version => exact .refl _ _ _ _ _
  | listDevices => exact .refl _ _ _ _ _
  | renameDevice credentialId name => exact rename_effect _ _ _ s credentialId name
  | revokeDevice credentialId => exact revoke_effect _ _ s credentialId
  | createInvitation name role locale => exact create_effect _ s name role locale now tape drawn
  | resetDevices rearm locale => exact reset_effect _ s rearm locale now

end AuthState

variable {tape : Tape}

open AuthState

/-- Memory after a call is the operation's, whether or not the write succeeded. -/
theorem StoreCore.perform_memory (tape : Tape) (c : StoreCore) (call : Call) :
    (c.perform tape call).1.state = (c.state.perform call.now tape c.drawn call.op).1.state ∧
    (c.perform tape call).1.drawn = (c.state.perform call.now tape c.drawn call.op).2 := by
  simp only [StoreCore.perform, StoreCore.transact]
  split
  · split <;> exact ⟨rfl, rfl⟩
  · exact ⟨rfl, rfl⟩

theorem StoreStep.effect {c c' : StoreCore} {t : Transaction} (h : StoreStep tape c t c') :
    Effect t.call.op t.call.now ⟨tape, c.drawn, c'.drawn⟩ c.state c'.state t.mutated := by
  obtain ⟨hstate, hdrawn⟩ := StoreCore.perform_memory tape c t.call
  rw [h.1] at hstate hdrawn
  rw [hstate, hdrawn, h.2.2]
  exact perform_effect c.state t.call.now tape c.drawn t.call.op

/-- An operation that failed in memory is answered with an error. -/
theorem StoreCore.perform_reply_isOk {c : StoreCore} {call : Call}
    (h : (c.state.perform call.now tape c.drawn call.op).1.result.isOk = false) :
    (c.perform tape call).2.isOk = false := by
  simp only [StoreCore.perform, StoreCore.transact]
  split
  · split
    · exact h
    · rfl
  · exact h

theorem StoreCore.storeStep_transaction (tape : Tape) (c : StoreCore) (call : Call) :
    StoreStep tape c (c.transaction tape call) (c.perform tape call).1 :=
  ⟨rfl, rfl, rfl⟩

/-- An answer that is no error is the operation's. -/
theorem StoreStep.result_of_reply_ok {c c' : StoreCore} {t : Transaction}
    {payload : Payload} (h : StoreStep tape c t c') (hreply : t.reply = .ok payload) :
    t.result = .ok payload := by
  rw [h.2.1]
  have hperform : (c.perform tape t.call).2 = .ok payload := by rw [h.1, hreply]
  simp only [StoreCore.perform, StoreCore.transact] at hperform
  split at hperform
  · split at hperform
    · exact hperform
    · cases hperform
  · exact hperform

end Lerdr.Auth
