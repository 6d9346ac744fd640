/-
# Lerdr.Auth.Invariant — what every run of the store keeps.

`validate` holds after every operation, revoked credentials stay revoked, versions do not go back,
the last active controller is not revoked, and a stale or revoked credential opens nothing. The one
way out is the version counter: revoking a credential at `u64::MAX` wraps it to zero, which
`validate` rejects. `Wraps` names that step, and the run theorem is about runs without it.
-/
import Lerdr.Auth.Effects
import Lerdr.Lib.Runs

namespace Lerdr.Auth

open Lib Lerdr.Rust
open Lerdr.E2ee (AuthSelector)

namespace AuthState

variable {r : CredentialRecord} {s : AuthState} {f : CredentialRecord → CredentialRecord}
  {id : Text} {now : Int} {draws : Draws} {mutated : Bool} {op : StoreOp} {v : UInt64}
  {version : UInt64}

/-! ## §1 — what `validate` accepts -/

/-- A record `validate` accepts. -/
structure ValidRecord (r : CredentialRecord) : Prop where
  deviceId : r.credential.deviceId ≠ []
  credentialId : r.credential.credentialId ≠ []
  version : r.credential.version ≠ 0
  scrubbed : r.credential.revoked = true → r.secret = []
  secret : r.credential.revoked = false → (decodeSecret r.secret).isOk = true

/-- An invitation `validate` accepts. -/
structure ValidInvitation (i : Invitation) : Prop where
  invitationId : i.invitationId ≠ []
  version : i.version ≠ 0
  secret : (decodeSecret i.secret).isOk = true
  failedAttempts : i.failedAttempts < maxInviteAttempts

/-- A state `validate` accepts. -/
structure Valid (s : AuthState) : Prop where
  records : ∀ r ∈ s.credentials, ValidRecord r
  deviceIds : (s.credentials.map (·.credential.deviceId)).Nodup
  credentialIds : (s.credentials.map (·.credential.credentialId)).Nodup
  invitation : ∀ i, s.invitation = some i → ValidInvitation i

theorem validateCredentials_cons_iff {records : List CredentialRecord}
    {devices credentials : List Text} :
    validateCredentials (r :: records) devices credentials = .ok () ↔
      ValidRecord r ∧ r.credential.deviceId ∉ devices ∧ r.credential.credentialId ∉ credentials ∧
        validateCredentials records (r.credential.deviceId :: devices)
          (r.credential.credentialId :: credentials) = .ok () := by
  simp only [validateCredentials]
  split_ifs with hidentity hduplicate hscrubbed hsecret
  · simp only [false_iff]
    rintro ⟨hr, -⟩
    rcases hidentity with h | h | h
    · exact hr.deviceId h
    · exact hr.credentialId h
    · exact hr.version h
  · simp only [false_iff]
    rintro ⟨-, hdevice, hcredential, -⟩
    exact hduplicate.elim hdevice hcredential
  · simp only [false_iff]
    rintro ⟨hr, -⟩
    exact hscrubbed.2 (hr.scrubbed hscrubbed.1)
  · simp only [false_iff]
    rintro ⟨hr, -⟩
    exact absurd (hr.secret hsecret.1) (by simp [hsecret.2])
  · push Not at hidentity hduplicate
    have hr : ValidRecord r :=
      ⟨hidentity.1, hidentity.2.1, hidentity.2.2, fun h => by simpa [h] using hscrubbed,
        fun h => by simpa [h] using hsecret⟩
    exact ⟨fun h => ⟨hr, hduplicate.1, hduplicate.2, h⟩, fun h => h.2.2.2⟩

theorem validateCredentials_iff {records : List CredentialRecord}
    {devices credentials : List Text} :
    validateCredentials records devices credentials = .ok () ↔
      (∀ r ∈ records, ValidRecord r) ∧
      (records.map (·.credential.deviceId)).Nodup ∧
      (records.map (·.credential.credentialId)).Nodup ∧
      ∀ r ∈ records, r.credential.deviceId ∉ devices ∧ r.credential.credentialId ∉ credentials := by
  induction records generalizing devices credentials with
  | nil => simp [validateCredentials]
  | cons r records ih =>
    rw [validateCredentials_cons_iff, ih]
    simp only [List.map_cons, List.nodup_cons, List.mem_cons, List.mem_map, not_or, not_exists,
      not_and, forall_eq_or_imp]
    constructor
    · rintro ⟨hr, hdevice, hcredential, hrecords, hdevices, hcredentials, hfresh⟩
      exact ⟨⟨hr, hrecords⟩, ⟨fun x hx => (hfresh x hx).1.1, hdevices⟩,
        ⟨fun x hx => (hfresh x hx).2.1, hcredentials⟩, ⟨hdevice, hcredential⟩,
        fun x hx => ⟨(hfresh x hx).1.2, (hfresh x hx).2.2⟩⟩
    · rintro ⟨⟨hr, hrecords⟩, ⟨hdevice', hdevices⟩, ⟨hcredential', hcredentials⟩,
        ⟨hdevice, hcredential⟩, hfresh⟩
      exact ⟨hr, hdevice, hcredential, hrecords, hdevices, hcredentials,
        fun x hx => ⟨⟨hdevice' x hx, (hfresh x hx).1⟩, ⟨hcredential' x hx, (hfresh x hx).2⟩⟩⟩

theorem validateInvitation_iff {inv : Option Invitation} :
    validateInvitation inv = .ok () ↔ ∀ i, inv = some i → ValidInvitation i := by
  cases inv with
  | none => simp [validateInvitation]
  | some i =>
    simp only [validateInvitation, Option.some.injEq, forall_eq']
    split_ifs with hidentity hsecret hattempts
    · simp only [false_iff]
      exact fun h => hidentity.elim h.invitationId h.version
    · simp only [false_iff]
      exact fun h => absurd h.secret (by simp [hsecret])
    · simp only [false_iff]
      exact fun h => absurd h.failedAttempts (UInt32.not_lt.mpr hattempts)
    · push Not at hidentity
      exact ⟨fun _ =>
        ⟨hidentity.1, hidentity.2, by simpa using hsecret, UInt32.not_le.mp hattempts⟩,
        fun _ => rfl⟩

/-- **`validate` accepts exactly the valid states.** -/
theorem validate_iff : s.validate = .ok () ↔ Valid s := by
  have hsplit : s.validate = .ok () ↔
      validateCredentials s.credentials [] [] = .ok () ∧
        validateInvitation s.invitation = .ok () := by
    unfold validate
    cases validateCredentials s.credentials [] [] with
    | error e => simp [bind, Except.bind]
    | ok u => simp [bind, Except.bind]
  rw [hsplit, validateCredentials_iff, validateInvitation_iff]
  constructor
  · rintro ⟨⟨hrecords, hdevices, hcredentials, -⟩, hinv⟩
    exact ⟨hrecords, hdevices, hcredentials, hinv⟩
  · rintro ⟨hrecords, hdevices, hcredentials, hinv⟩
    exact ⟨⟨hrecords, hdevices, hcredentials, fun _ _ => ⟨nofun, nofun⟩⟩, hinv⟩

/-! ## §2 — the step -/

/-- `u64::MAX`. -/
def u64Max : UInt64 := 0xffffffffffffffff

/-- The operation revokes a live credential whose version has no successor. -/
def Wraps (s : AuthState) (op : StoreOp) : Prop :=
  ∃ r : CredentialRecord, op = .revokeDevice r.credential.credentialId ∧
    s.record r.credential.credentialId = some r ∧ r.credential.revoked = false ∧
    ¬ (activeController r = true ∧ s.activeControllers = 1) ∧ r.credential.version = u64Max

theorem not_wraps_revoke {s : AuthState} {id : Text}
    (h : (s.record id).all (·.credential.version ≠ u64Max) = true) :
    ¬ Wraps s (.revokeDevice id) := by
  rintro ⟨r, hop, hr, -, -, hmax⟩
  rw [StoreOp.revokeDevice.inj hop, hr] at h
  exact of_decide_eq_true h hmax

theorem toNat_succ (h : v ≠ u64Max) : (v + 1).toNat = v.toNat + 1 := by
  have hlt := v.toNat_lt
  have hne : v.toNat ≠ 18446744073709551615 := fun heq => h (UInt64.toNat_inj.mp heq)
  rw [UInt64.toNat_add]
  simp only [UInt64.toNat_one]
  omega

theorem le_succ (h : v ≠ u64Max) : v ≤ v + 1 := by
  rw [UInt64.le_iff_toNat_le, toNat_succ h]
  omega

theorem succ_ne_zero (h : v ≠ u64Max) : v + 1 ≠ 0 := by
  intro hzero
  have := toNat_succ h
  rw [hzero] at this
  simp at this

theorem validRecord_tombstone (hr : ValidRecord r)
    (h : r.credential.version ≠ u64Max) : ValidRecord (tombstone r) :=
  ⟨hr.deviceId, hr.credentialId, succ_ne_zero h, fun _ => rfl, nofun⟩

theorem validRecord_touched (hf : Touches f) (hr : ValidRecord r) : ValidRecord (f r) where
  deviceId := by rw [hf.deviceId]; exact hr.deviceId
  credentialId := by rw [hf.credentialId]; exact hr.credentialId
  version := by rw [hf.version]; exact hr.version
  scrubbed := by rw [hf.revoked, hf.secret]; exact hr.scrubbed
  secret := by rw [hf.revoked, hf.secret]; exact hr.secret

theorem validRecord_minted {i : Invitation} (h : Minted s i draws r) : ValidRecord r where
  deviceId := h.deviceId_ne_nil
  credentialId := h.drawn.ne_nil
  version := by rw [h.version]; decide
  scrubbed := by rw [h.revoked]; nofun
  secret := by
    obtain ⟨secret, hsecret⟩ := h.secret
    rw [hsecret, decodeSecret_encode]
    exact fun _ => rfl

theorem validRecord_update {xs : List CredentialRecord} (hxs : ∀ r ∈ xs, ValidRecord r)
    (hf : ∀ r, Keyed.lookup (·.credential.credentialId) id xs = some r → ValidRecord (f r)) :
    ∀ r ∈ Keyed.update (·.credential.credentialId) id f xs, ValidRecord r := by
  intro y hy
  rcases Keyed.mem_update hy with hmem | ⟨r, hr, rfl⟩
  · exact hxs y hmem
  · exact hf r hr

/-- **An operation that wraps no version keeps the state valid.** -/
theorem Effect.valid {s s' : AuthState}
    (h : Effect op now draws s s' mutated) (hs : Valid s) (hwrap : ¬ Wraps s op) : Valid s' := by
  obtain ⟨hrecords, hinvitation, -, -, -⟩ := h
  have hvalid : (∀ r ∈ s'.credentials, ValidRecord r) ∧
      (s'.credentials.map (·.credential.deviceId)).Nodup ∧
      (s'.credentials.map (·.credential.credentialId)).Nodup := by
    generalize s'.credentials = ys at hrecords
    cases hrecords with
    | same => exact ⟨hs.records, hs.deviceIds, hs.credentialIds⟩
    | touched id hf =>
      rw [Keyed.map_update hf.deviceId, Keyed.map_update hf.credentialId]
      refine ⟨validRecord_update hs.records ?_, hs.deviceIds, hs.credentialIds⟩
      exact fun r hr => validRecord_touched hf (hs.records r (Keyed.mem_of_lookup hr))
    | @revoked r hop hrecord hlive hspare =>
      have hversion : r.credential.version ≠ u64Max :=
        fun hmax => hwrap ⟨r, hop, hrecord, hlive, hspare, hmax⟩
      rw [Keyed.map_update tombstone_deviceId, Keyed.map_update tombstone_credentialId]
      refine ⟨validRecord_update hs.records ?_, hs.deviceIds, hs.credentialIds⟩
      intro r' hr'
      obtain rfl := Option.some.inj (hrecord.symm.trans hr')
      exact validRecord_tombstone (hs.records r (Keyed.mem_of_lookup hrecord)) hversion
    | @minted s₀ i r hcredentials hr =>
      have hdevice := hr.deviceId_fresh
      have hcredential := hr.credentialId_fresh
      rw [hcredentials] at hdevice hcredential
      refine ⟨?_, ?_, ?_⟩
      · intro y hy
        rcases List.mem_append.mp hy with hmem | hmem
        · exact hs.records y hmem
        · rw [List.mem_singleton.mp hmem]
          exact validRecord_minted hr
      · rw [List.map_append, List.map_singleton, ← List.concat_eq_append]
        exact hs.deviceIds.concat hdevice
      · rw [List.map_append, List.map_singleton, ← List.concat_eq_append]
        exact hs.credentialIds.concat hcredential
    | wiped => exact ⟨nofun, List.nodup_nil, List.nodup_nil⟩
  refine ⟨hvalid.1, hvalid.2.1, hvalid.2.2, ?_⟩
  generalize hinv' : s'.invitation = inv' at hinvitation
  cases hinvitation with
  | same => exact hs.invitation
  | dropped => exact nofun
  | @rearmed i expires hinv =>
    have hi := hs.invitation i hinv
    rintro _ ⟨⟩
    exact ⟨hi.invitationId, hi.version, hi.secret, hi.failedAttempts⟩
  | @charged i hinv hlimit =>
    have hi := hs.invitation i hinv
    rintro _ ⟨⟩
    exact ⟨hi.invitationId, hi.version, hi.secret, hlimit⟩
  | @reserved i id hinv hpending hdrawn =>
    have hi := hs.invitation i hinv
    rintro _ ⟨⟩
    exact ⟨hi.invitationId, hi.version, hi.secret, hi.failedAttempts⟩
  | @installed i hop hinstalled =>
    rintro _ ⟨⟩
    obtain ⟨secret, hsecret⟩ := hinstalled.secret
    refine ⟨hinstalled.invitationId, ?_, ?_, ?_⟩
    · rw [hinstalled.version]; decide
    · rw [hsecret, decodeSecret_encode]; rfl
    · rw [hinstalled.failedAttempts]; decide

/-- The later record is at least as far: revocation and version only move one way. -/
structure Advances (r r' : CredentialRecord) : Prop where
  revoked : r.credential.revoked = true → r'.credential.revoked = true
  version : r.credential.version ≤ r'.credential.version

theorem Advances.refl (r : CredentialRecord) : Advances r r := ⟨id, UInt64.le_refl _⟩

theorem Advances.trans {r r' r'' : CredentialRecord} (h : Advances r r') (h' : Advances r' r'') :
    Advances r r'' :=
  ⟨h'.revoked ∘ h.revoked, UInt64.le_trans h.version h'.version⟩

theorem advances_tombstone (h : r.credential.version ≠ u64Max) :
    Advances r (tombstone r) :=
  ⟨fun _ => rfl, le_succ h⟩

theorem advances_touched (hf : Touches f) (r : CredentialRecord) : Advances r (f r) :=
  ⟨by rw [hf.revoked]; exact id, by rw [hf.version]; exact UInt64.le_refl _⟩

/-- A record is still there after an update that keeps identifiers, and no worse off. -/
theorem advances_update {id id' : Text} {xs : List CredentialRecord}
    (hkey : ∀ r, (f r).credential.credentialId = r.credential.credentialId)
    (hf : ∀ r, Keyed.lookup (·.credential.credentialId) id' xs = some r → Advances r (f r))
    (hr : Keyed.lookup (·.credential.credentialId) id xs = some r) :
    ∃ r', Keyed.lookup (·.credential.credentialId) id
      (Keyed.update (·.credential.credentialId) id' f xs) = some r' ∧ Advances r r' := by
  by_cases hid : id = id'
  · subst hid
    exact ⟨f r, by rw [Keyed.lookup_update_self hkey, hr]; rfl, hf r hr⟩
  · exact ⟨r, by rw [Keyed.lookup_update_of_ne hkey hid]; exact hr, .refl r⟩

/-- **Nothing but a reset takes a record away**, and nothing takes back a revocation or a version.
-/
theorem Effect.advances {s s' : AuthState} (h : Effect op now draws s s' mutated)
    (hwrap : ¬ Wraps s op)
    (hwipe : Wipes op → mutated = false) (hr : s.record id = some r) :
    ∃ r', s'.record id = some r' ∧ Advances r r' := by
  have hrecords := h.records
  simp only [record] at hr ⊢
  generalize hys : s'.credentials = ys at hrecords
  cases hrecords with
  | same => exact ⟨r, hr, .refl r⟩
  | touched id' hf => exact advances_update hf.credentialId (fun r _ => advances_touched hf r) hr
  | @revoked r₀ hop hrecord hlive hspare =>
    have hversion : r₀.credential.version ≠ u64Max :=
      fun hmax => hwrap ⟨r₀, hop, hrecord, hlive, hspare, hmax⟩
    refine advances_update tombstone_credentialId ?_ hr
    intro r₁ hr₁
    obtain rfl := Option.some.inj (hrecord.symm.trans hr₁)
    exact advances_tombstone hversion
  | @minted s₀ i r₀ hcredentials hr₀ =>
    have hfresh := hr₀.credentialId_fresh
    rw [hcredentials] at hfresh
    refine ⟨r, ?_, .refl r⟩
    rw [Keyed.lookup_append_singleton hfresh, if_neg, hr]
    rintro rfl
    rw [Keyed.lookup_eq_none_iff.mpr hfresh] at hr
    cases hr
  | wiped hwipes =>
    rw [h.unmutated (hwipe hwipes)] at hys
    rw [hys] at hr
    cases hr

theorem activeController_touched (hf : Touches f)
    (r : CredentialRecord) : activeController (f r) = activeController r := by
  rw [activeController, activeController, hf.revoked, hf.role]

theorem activeController_tombstone (r : CredentialRecord) :
    activeController (tombstone r) = false := rfl

theorem countP_eq_of_map_eq {α : Type} {p : α → Bool} {xs ys : List α} (h : xs.map p = ys.map p) :
    xs.countP p = ys.countP p := by
  have hcount : ∀ zs : List α, zs.countP p = (zs.map p).countP id := by
    intro zs
    rw [List.countP_map]
    rfl
  rw [hcount, hcount, h]

/-- **The last active controller stays**, unless the store is reset. -/
theorem Effect.controllers {s s' : AuthState} (h : Effect op now draws s s' mutated)
    (hwipe : Wipes op → mutated = false)
    (hs : 0 < s.activeControllers) :
    0 < s'.activeControllers := by
  have hrecords := h.records
  simp only [activeControllers] at hs ⊢
  generalize hys : s'.credentials = ys at hrecords
  cases hrecords with
  | same => exact hs
  | touched id hf =>
    rw [countP_eq_of_map_eq (Keyed.map_update (activeController_touched hf))]
    exact hs
  | @revoked r hop hrecord hlive hspare =>
    have hcount := Keyed.countP_update (f := tombstone) (p := activeController) hrecord
    rw [activeController_tombstone, if_neg Bool.false_ne_true] at hcount
    by_cases hr : activeController r = true
    · rw [if_pos hr] at hcount
      have : s.credentials.countP activeController ≠ 1 := fun h1 => hspare ⟨hr, h1⟩
      omega
    · rw [if_neg hr] at hcount
      omega
  | minted hcredentials hr =>
    rw [List.countP_append]
    omega
  | wiped hwipes =>
    rw [h.unmutated (hwipe hwipes)] at hys
    rw [hys] at hs
    exact absurd hs (by decide)

/-! ## §3 — stale credentials -/

/-- A credential the store does not accept at this version. -/
def Stale (r : CredentialRecord) (version : UInt64) : Prop :=
  r.credential.revoked = true ∨ r.credential.version ≠ version

section

variable (hr : s.record id = some r) (hstale : Stale r version)
include hr hstale

theorem resolve_stale (locale : Text) (now : Int) :
    (s.resolve ⟨.credential, id, version, locale⟩ now).result.isOk = false := by
  simp only [resolve, resolveCredential, hr]
  by_cases hrevoked : r.credential.revoked = true
  · rw [if_pos hrevoked]
    rfl
  · rw [if_neg hrevoked, if_pos (hstale.resolve_left hrevoked)]
    rfl

theorem complete_stale (locale : Text) (authenticated : Bool)
    (now : Int) (tape : Tape) (drawn : Nat) :
    (s.complete ⟨.credential, id, version, locale⟩ authenticated now tape drawn).1.result.isOk
      = false := by
  cases authenticated with
  | false => rfl
  | true =>
    unfold Stale at hstale
    simp only [complete, completeCredential, hr, Bool.not_true, Bool.false_eq_true, if_false]
    rw [if_pos hstale]
    rfl

theorem authorize_stale : s.authorize id version = none := by
  simp only [authorize, hr]
  exact if_pos hstale

end

/-- **A redemption hands out a live credential at its current version.** -/
theorem redeemInvitation_live (hs : Valid s) {selector : AuthSelector}
    {tape : Tape} {drawn : Nat} {outcome : AuthOutcome}
    (h : (s.redeemInvitation selector now tape drawn).1.result = .ok outcome) :
    ∃ r, (s.redeemInvitation selector now tape drawn).1.state.record outcome.identity.credentialId
        = some r ∧ ¬ Stale r outcome.identity.credentialVersion := by
  have hspec := redeemInvitation_spec s selector now tape drawn
  generalize (s.redeemInvitation selector now tape drawn).1 = a at h hspec
  cases hspec with
  | refused => cases h
  | expired => cases h
  | @reissued i r hinv hpending hrecord =>
    obtain ⟨secret, hsecret, rfl⟩ : ∃ secret, decodeSecret r.secret = .ok secret ∧
        outcome = { identity := identity r.credential, credentialSecret := some secret } := by
      simp only [issuedOutcome] at h
      cases hsecret : decodeSecret r.secret with
      | error e => rw [hsecret] at h; cases h
      | ok secret => rw [hsecret] at h; exact ⟨secret, rfl, (Except.ok.inj h).symm⟩
    have hid := credentialId_of_record hrecord
    refine ⟨r, by rw [identity, hid]; exact hrecord, ?_⟩
    rintro (hrevoked | hversion)
    · have hscrubbed := (hs.records r (Keyed.mem_of_lookup hrecord)).scrubbed hrevoked
      rw [hscrubbed, decodeSecret_nil] at hsecret
      cases hsecret
    · exact hversion rfl
  | @minted i r secret hinv hpending hr =>
    obtain rfl := Except.ok.inj h
    refine ⟨r, ?_, ?_⟩
    · simp only [record, AuthState.minted, identity]
      rw [Keyed.lookup_append_singleton hr.credentialId_fresh, if_pos rfl]
    · rintro (hrevoked | hversion)
      · rw [hr.revoked] at hrevoked
        cases hrevoked
      · exact hversion rfl

end AuthState

variable {tape : Tape} {t : Transaction}

/-! ## §4 — runs -/

open AuthState

def Transaction.Resets (t : Transaction) : Prop := Wipes t.call.op ∧ t.mutated = true

theorem Transaction.unmutated_of_not_resets (h : ¬ t.Resets)
    (hop : Wipes t.call.op) : t.mutated = false :=
  Bool.eq_false_iff.mpr fun hm => h ⟨hop, hm⟩

/-- Steps that wrap no version. -/
def SafeStep (tape : Tape) (c : StoreCore) (t : Transaction) (c' : StoreCore) : Prop :=
  ¬ Wraps c.state t.call.op ∧ StoreStep tape c t c'

theorem SafeStep.valid {c : StoreCore} {c' : StoreCore}
    (hc : Valid c.state) (h : SafeStep tape c t c') : Valid c'.state :=
  h.2.effect.valid hc h.1

/-- Along a stretch without a reset: the record is still there, and no worse off. -/
theorem runs_advances {c c' : StoreCore} {ts : List Transaction}
    (hrun : Runs (SafeStep tape) c ts c') (hresets : ∀ t ∈ ts, ¬ t.Resets) {id : Text}
    {r : CredentialRecord} (hr : c.state.record id = some r) :
    ∃ r', c'.state.record id = some r' ∧ Advances r r' := by
  refine hrun.stays (P := fun c => ∃ r', c.state.record id = some r' ∧ Advances r r') ?_ hresets
    ⟨r, hr, .refl r⟩
  rintro c t c' ⟨r', hr', hadvances⟩ ht hstep
  obtain ⟨r'', hr'', hadvances'⟩ :=
    hstep.2.effect.advances hstep.1 (Transaction.unmutated_of_not_resets ht) hr'
  exact ⟨r'', hr'', hadvances.trans hadvances'⟩

/-- **The invariant of the auth store.** From any document `validate` accepts, along any run of its
operations, with any clock, any random source and any writes failing, in which no step revokes a
live credential at version `u64::MAX`: `validate` holds; from any state on, until a reset, every
credential stays, revoked ones stay revoked and versions do not decrease, and there stays an active
controller once there is one; and a credential that is revoked, or presented at another version than
its own, is not resolved, not completed and not authorized, nor handed out by a redemption. -/
theorem authStore_invariant {tape : Tape} {c c' : StoreCore} {ts : List Transaction}
    (hvalid : c.state.validate = .ok ()) (hrun : Runs (SafeStep tape) c ts c') :
    c'.state.validate = .ok () ∧
    ((∀ t ∈ ts, ¬ t.Resets) →
      (∀ id r, c.state.record id = some r → ∃ r', c'.state.record id = some r' ∧
        (r.credential.revoked = true → r'.credential.revoked = true) ∧
        r.credential.version ≤ r'.credential.version) ∧
      (0 < c.state.activeControllers → 0 < c'.state.activeControllers)) ∧
    (∀ id version r, c'.state.record id = some r →
      (r.credential.revoked = true ∨ r.credential.version ≠ version) →
      ∀ (call : Call) (locale : Text) (authenticated : Bool),
        (call.op = .resolve ⟨.credential, id, version, locale⟩ ∨
          call.op = .complete ⟨.credential, id, version, locale⟩ authenticated →
          (c'.perform tape call).2.isOk = false) ∧
        (call.op = .authorize id version → (c'.perform tape call).2 = .ok (.authorized none))) ∧
    (∀ selector now drawn outcome,
      (c'.state.redeemInvitation selector now tape drawn).1.result = .ok outcome →
      ∃ r, (c'.state.redeemInvitation selector now tape drawn).1.state.record
          outcome.identity.credentialId = some r ∧
        r.credential.revoked = false ∧
        r.credential.version = outcome.identity.credentialVersion) := by
  have hvalid' : Valid c'.state :=
    hrun.invariant (I := fun c => Valid c.state) (fun _ _ _ => SafeStep.valid)
      (validate_iff.mp hvalid)
  refine ⟨validate_iff.mpr hvalid', ?_, ?_, ?_⟩
  · intro hresets
    refine ⟨?_, ?_⟩
    · intro id r hr
      obtain ⟨r', hr', hadvances⟩ := runs_advances hrun hresets hr
      exact ⟨r', hr', hadvances.revoked, hadvances.version⟩
    · refine hrun.stays (P := fun c => 0 < c.state.activeControllers) ?_ hresets
      intro c t c' hc ht hstep
      exact hstep.2.effect.controllers (Transaction.unmutated_of_not_resets ht) hc
  · intro id version r hr hstale call locale authenticated
    obtain ⟨op, now, persist⟩ := call
    refine ⟨?_, ?_⟩
    · intro hop
      apply StoreCore.perform_reply_isOk
      rcases hop with rfl | rfl
      · rw [AuthState.perform, Answer.isOk_map]
        exact resolve_stale hr hstale locale now
      · rw [AuthState.perform, Answer.isOk_map]
        exact complete_stale hr hstale locale authenticated now tape c'.drawn
    · rintro rfl
      simp only [StoreCore.perform, StoreCore.transact, AuthState.perform,
        authorize_stale hr hstale, Bool.false_eq_true, if_false]
  · intro selector now drawn outcome h
    obtain ⟨r, hr, hlive⟩ := redeemInvitation_live hvalid' h
    simp only [Stale, not_or, Bool.not_eq_true, not_not] at hlive
    exact ⟨r, hr, hlive.1, hlive.2⟩

/-- **Wrapping is the only way out**: the step that wraps a version leaves a document that
`validate` rejects. -/
theorem StoreStep.invalid_of_wraps {c c' : StoreCore}
    (h : StoreStep tape c t c') (hwraps : Wraps c.state t.call.op) :
    c'.state.validate ≠ .ok () := by
  obtain ⟨r, hop, hrecord, hlive, hspare, hmax⟩ := hwraps
  have hstate := (StoreCore.perform_memory tape c t.call).1
  rw [h.1, hop] at hstate
  have hcredentials : c'.state.credentials = Keyed.update (·.credential.credentialId)
      r.credential.credentialId tombstone c.state.credentials := by
    rw [hstate]
    simp only [AuthState.perform, Answer.map, revoke, hrecord, if_neg hspare, hlive,
      Bool.false_eq_true, if_false, dropPending_credentials]
    rfl
  intro hvalid
  have hlookup : Keyed.lookup (·.credential.credentialId) r.credential.credentialId
      c'.state.credentials = some (tombstone r) := by
    rw [hcredentials, Keyed.lookup_update_self tombstone_credentialId]
    exact congrArg (Option.map tombstone) hrecord
  apply ((validate_iff.mp hvalid).records _ (Keyed.mem_of_lookup hlookup)).version
  show r.credential.version + 1 = 0
  rw [hmax]
  decide

/-! ### A store with two controllers -/

def zeroTape : Tape := fun _ n => List.Vector.replicate n 0

def sampleRecord (id : Text) (version : UInt64) : CredentialRecord where
  credential :=
    { deviceId := id, credentialId := id, name := id, role := .controller, locale := "en".toList,
      pairedAtMs := 0, lastSeenAtMs := 0, version, revoked := false }
  secret := Base64.encode (List.replicate 32 7)

/-- Two controllers, the first at the given version. -/
def twoControllers (version : UInt64) : StoreCore where
  state := { credentials := [sampleRecord ['a'] version, sampleRecord ['b'] 1] }
  drawn := 0
  disk := { credentials := [sampleRecord ['a'] version, sampleRecord ['b'] 1] }

/-- Revoking the first controller, with the write going through. -/
def revokeFirst : Call := { op := .revokeDevice ['a'], now := 0, persist := .ok () }

/-- **A document `validate` accepts, and one successful revocation after which it does not**: the
version went from `u64::MAX` to zero. -/
theorem revoke_wraps_version :
    (twoControllers u64Max).state.validate = .ok () ∧
    ((twoControllers u64Max).perform zeroTape revokeFirst).2.isOk = true ∧
    ((twoControllers u64Max).perform zeroTape revokeFirst).1.state.validate
      = .error (.invalid "credential identity is incomplete".toList) ∧
    (((twoControllers u64Max).perform zeroTape revokeFirst).1.state.record ['a']).map
      (·.credential.version) = some 0 := by
  refine ⟨?_, ?_, ?_, ?_⟩
  · decide +kernel
  · decide +kernel
  · decide +kernel
  · decide +kernel

/-- At version 1 the same revocation is a safe step, and the theorem speaks of it. -/
theorem authStore_invariant_revokeFirst :
    (twoControllers 1).state.validate = .ok () ∧
    Runs (SafeStep zeroTape) (twoControllers 1)
      [(twoControllers 1).transaction zeroTape revokeFirst]
      ((twoControllers 1).perform zeroTape revokeFirst).1 ∧
    ((twoControllers 1).perform zeroTape revokeFirst).1.state.validate = .ok () := by
  have hvalid : (twoControllers 1).state.validate = .ok () := by decide +kernel
  have hsafe : ¬ Wraps (twoControllers 1).state revokeFirst.op :=
    not_wraps_revoke (by decide +kernel)
  have hrun : Runs (SafeStep zeroTape) (twoControllers 1)
      [(twoControllers 1).transaction zeroTape revokeFirst]
      ((twoControllers 1).perform zeroTape revokeFirst).1 :=
    .cons ⟨hsafe, StoreCore.storeStep_transaction _ _ _⟩ (.nil _)
  exact ⟨hvalid, hrun, (authStore_invariant hvalid hrun).1⟩

end Lerdr.Auth
