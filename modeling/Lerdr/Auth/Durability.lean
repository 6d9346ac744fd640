/-
# Lerdr.Auth.Durability — the document on disk and the one in memory.

`FileAuthStore` writes the document out after every operation that changed it. When that write
fails, the operation fails, but the change stays in memory: the next operation that only reads
answers from a document that is not on disk. `Reads` lists these operations. As long as none of them
is called between a failed write and the next good one, every success leaves disk and memory in
agreement, and opening the store again gives the document the relay acted on.
-/
import Lerdr.Auth.Invariant
import Lerdr.Auth.Redemption

namespace Lerdr.Auth

open Lib
open Lerdr.E2ee (AuthSelector)
open AuthState

/-! ## §1 — opening the store -/

/-- What is at the store's path. -/
inductive DiskFile where
  | absent
  | unreadable (error : StoreError)
  | document (document : Document)
  deriving DecidableEq

/-- `FileAuthStore::open`; `encodedLen` is the length of the file a document is written as. -/
def openStore (encodedLen : Document → Nat) (file : DiskFile) (persist : Except StoreError Unit) :
    Except StoreError StoreCore := do
  let state : AuthState ← match file with
    | .absent => .ok {}
    | .unreadable e => .error e
    | .document d =>
      if maxStoreBytes < encodedLen d then .error (.invalid "device store too large".toList)
      else if d.schemaVersion ≠ storeSchemaVersion then .error (.schema d.schemaVersion)
      else
        let state := scrubRevokedSecrets { toDocument := d }
        (validate state).map fun _ => state
  -- persist once, so that a fresh directory gains a well-formed file
  persist
  pure { state, drawn := 0, disk := state.toDocument }

/-- Disk and memory agree. -/
def InSync (c : StoreCore) : Prop := c.disk = c.state.toDocument

variable {s : AuthState}

theorem scrubRevokedSecrets_of_valid (hs : Valid s) :
    scrubRevokedSecrets s = s := by
  have hmap : (s.credentials.map fun r =>
      if r.credential.revoked then { r with secret := [] } else r) = s.credentials := by
    conv_rhs => rw [← List.map_id s.credentials]
    apply List.map_congr_left
    intro r hr
    by_cases hrevoked : r.credential.revoked = true
    · rw [if_pos hrevoked, ← (hs.records r hr).scrubbed hrevoked]
      rfl
    · rw [if_neg hrevoked]
      rfl
  rw [scrubRevokedSecrets, hmap]

theorem valid_of_toDocument {s t : AuthState} (hs : Valid s) (h : t.toDocument = s.toDocument) :
    Valid t := by
  obtain ⟨hrecords, hdevices, hcredentials, hinvitation⟩ := hs
  rw [← h] at hrecords hdevices hcredentials hinvitation
  exact ⟨hrecords, hdevices, hcredentials, hinvitation⟩

theorem openStore_spec {encodedLen : Document → Nat} {file : DiskFile} {c : StoreCore}
    (h : openStore encodedLen file persist = .ok c) :
    Valid c.state ∧ c.state.schemaVersion = storeSchemaVersion ∧ InSync c := by
  unfold openStore at h
  cases persist with
  | error e =>
    cases file with
    | absent => cases h
    | unreadable => cases h
    | document d =>
      simp only at h
      split_ifs at h
      · cases h
      · cases h
      · cases hvalid : validate (scrubRevokedSecrets { toDocument := d }) with
        | error e => rw [hvalid] at h; cases h
        | ok _ => rw [hvalid] at h; cases h
  | ok _ =>
    cases file with
    | absent =>
      cases h
      exact ⟨⟨nofun, List.nodup_nil, List.nodup_nil, nofun⟩, rfl, rfl⟩
    | unreadable => cases h
    | document d =>
      simp only at h
      split_ifs at h with hlen hschema
      · cases h
      · cases h
      · cases hvalid : validate (scrubRevokedSecrets { toDocument := d }) with
        | error e => rw [hvalid] at h; cases h
        | ok _ =>
          rw [hvalid] at h
          cases h
          exact ⟨validate_iff.mp hvalid, not_not.mp hschema, rfl⟩

/-- **A document in sync opens to itself**, if it is no longer than a store may be. -/
theorem openStore_document {encodedLen : Document → Nat} {c : StoreCore} (hvalid : Valid c.state)
    (hschema : c.state.schemaVersion = storeSchemaVersion) (hsync : InSync c)
    (hlen : encodedLen c.disk ≤ maxStoreBytes) :
    ∃ reopened, openStore encodedLen (.document c.disk) (.ok ()) = .ok reopened ∧
      reopened.state.toDocument = c.state.toDocument := by
  rw [hsync] at hlen ⊢
  have hloaded : Valid { toDocument := c.state.toDocument } := valid_of_toDocument hvalid rfl
  refine ⟨{ state := { toDocument := c.state.toDocument }, drawn := 0, disk := c.state.toDocument },
    ?_, rfl⟩
  simp only [openStore, if_neg (Nat.not_lt.mpr hlen), hschema, ne_eq, not_true_eq_false, if_false,
    scrubRevokedSecrets_of_valid hloaded, validate_iff.mpr hloaded]
  rfl

/-! ## §2 — the operations of the file store -/

/-- One operation of `FileAuthStore`: a call of the `DeviceAuthStore` trait, or one of the two that
write a record verbatim, with what came back. -/
inductive FileTransaction where
  | device (transaction : Transaction)
  | addCredential (record : CredentialRecord) (persist : Except StoreError Unit)
      (reply : Except AuthError Unit)
  | setInvitation (invitation : Invitation) (persist : Except StoreError Unit)
      (reply : Except AuthError Unit)
  deriving DecidableEq

/-- `add_credential` and `set_invitation`, on the state. -/
def addRecord (s : AuthState) (record : CredentialRecord) : AuthState :=
  { s with credentials := s.credentials ++ [record] }

def setInvitation (s : AuthState) (invitation : Invitation) : AuthState :=
  { s with invitation := some invitation }

def FileStep (tape : Tape) (c : StoreCore) (t : FileTransaction) (c' : StoreCore) : Prop :=
  match t with
  | .device t => StoreStep tape c t c'
  | .addCredential record persist reply =>
    c.transact persist ⟨addRecord c.state record, .ok (), true⟩ c.drawn = (c', reply)
  | .setInvitation invitation persist reply =>
    c.transact persist ⟨setInvitation c.state invitation, .ok (), true⟩ c.drawn = (c', reply)

/-- The operation returned `Ok`. (`authorize` returns an option.) -/
def FileTransaction.ReturnsOk : FileTransaction → Prop
  | .device t => t.reply.isOk = true ∧ ∀ id version, t.call.op ≠ .authorize id version
  | .addCredential _ _ reply => reply.isOk = true
  | .setInvitation _ _ reply => reply.isOk = true

/-- The operations that can succeed without anything to write: listing, resolving a credential or an
invitation that has not expired, redeeming an invitation whose credential is pending already. -/
def Reads (s : AuthState) (call : Call) : Prop :=
  match call.op with
  | .listDevices => True
  | .resolve selector =>
    selector.kind = .credential ∨ ∃ i, s.invitation = some i ∧ call.now < i.expiresAtMs
  | .complete selector authenticated =>
    authenticated = true ∧ selector.kind = .invitation ∧
      ∃ i, s.invitation = some i ∧ i.pendingCredentialId ≠ []
  | _ => False

/-- How the write of an operation ended, if it had anything to write. -/
def FileTransaction.write : FileTransaction → Option (Except StoreError Unit)
  | .device t => if t.mutated then some t.call.persist else none
  | .addCredential _ persist _ | .setInvitation _ persist _ => some persist

/-- Whether a write is owed after an operation: the last one failed. -/
def owes (owed : Bool) (t : FileTransaction) : Bool :=
  match t.write with
  | none => owed
  | some persist => !persist.isOk

/-- The condition on one step: while a write is owed nothing is called that only reads; no version
wraps; a record written verbatim keeps the document valid. -/
def DurableCondition (owed : Bool) (s : AuthState) : FileTransaction → Prop
  | .device t => (owed = true → ¬ Reads s t.call) ∧ ¬ Wraps s t.call.op
  | .addCredential record _ _ => (addRecord s record).validate = .ok ()
  | .setInvitation invitation _ _ => (setInvitation s invitation).validate = .ok ()

/-- Steps that meet the condition, with the account of owed writes. -/
def DurableStep (tape : Tape) (w : StoreCore × Bool) (t : FileTransaction) (w' : StoreCore × Bool) :
    Prop :=
  DurableCondition w.2 w.1.state t ∧ FileStep tape w.1 t w'.1 ∧ w'.2 = owes w.2 t

/-! ## §3 — successes without a write only read -/

variable {tape : Tape}

variable {persist : Except StoreError Unit} {c c' : StoreCore} {drawn : Nat}

theorem reads_of_resolve {selector : AuthSelector} {now : Int}
    (hok : (s.resolve selector now).result.isOk = true)
    (hm : (s.resolve selector now).mutated = false) :
    Reads s ⟨.resolve selector, now, persist⟩ := by
  simp only [Reads]
  cases hkind : selector.kind with
  | credential => exact .inl rfl
  | invitation =>
    refine .inr ?_
    simp only [resolve, hkind, resolveInvitation] at hok hm
    cases hinv : s.invitation with
    | none => simp only [hinv] at hok; cases hok
    | some i =>
      refine ⟨i, rfl, ?_⟩
      by_contra hexpired
      simp only [hinv, if_pos (Int.not_lt.mp hexpired)] at hok hm
      split_ifs at hok hm
      cases hok

/-- A failed proof is never answered with `Ok`. -/
theorem recordFailedInvitation_isOk (s : AuthState) (selector : AuthSelector) (now : Int) :
    (s.recordFailedInvitation selector now).result.isOk = false := by
  unfold recordFailedInvitation
  cases s.invitation with
  | none => rfl
  | some i =>
    simp only
    split_ifs <;> rfl

theorem reads_of_complete {selector : AuthSelector} {authenticated : Bool} {now : Int}
    (hok : (s.complete selector authenticated now tape drawn).1.result.isOk = true)
    (hm : (s.complete selector authenticated now tape drawn).1.mutated = false) :
    Reads s ⟨.complete selector authenticated, now, persist⟩ := by
  unfold complete at hok hm
  cases authenticated with
  | false =>
    cases hkind : selector.kind with
    | credential => simp only [hkind, Bool.not_false, if_true] at hok; cases hok
    | invitation =>
      simp only [hkind, Bool.not_false, if_true, recordFailedInvitation_isOk] at hok
      cases hok
  | true =>
    cases hkind : selector.kind with
    | credential =>
      simp only [hkind, Bool.not_true, Bool.false_eq_true, if_false] at hok hm
      rw [hm] at hok
      cases hok
    | invitation =>
      simp only [hkind, Bool.not_true, Bool.false_eq_true, if_false] at hok hm
      refine ⟨rfl, hkind, ?_⟩
      have hspec := redeemInvitation_spec s selector now tape drawn
      generalize (s.redeemInvitation selector now tape drawn).1 = a at hok hm hspec
      cases hspec with
      | refused => cases hok
      | expired => cases hok
      | reissued hinv hpending => exact ⟨_, hinv, hpending⟩
      | minted => cases hm

/-- **A success that has nothing to write only read.** -/
theorem reads_of_unmutated {call : Call}
    (hok : (s.perform call.now tape drawn call.op).1.result.isOk = true)
    (hm : (s.perform call.now tape drawn call.op).1.mutated = false)
    (hop : ∀ id version, call.op ≠ .authorize id version) : Reads s call := by
  obtain ⟨op, now, persist⟩ := call
  cases op with
  | resolve selector =>
    rw [AuthState.perform, Answer.isOk_map] at hok
    exact reads_of_resolve hok hm
  | complete selector authenticated =>
    simp only [AuthState.perform, Answer.isOk_map] at hok hm
    exact reads_of_complete hok hm
  | authorize id version => exact absurd rfl (hop id version)
  | listDevices => exact trivial
  | renameDevice credentialId name =>
    rw [AuthState.perform, Answer.isOk_map] at hok
    simp only [AuthState.perform, Answer.map, rename] at hok hm
    split_ifs at hok hm
    · cases hok
    · cases hrecord : s.record credentialId with
      | none => simp only [hrecord] at hok; cases hok
      | some r => simp only [hrecord] at hm; cases hm
  | revokeDevice credentialId =>
    rw [AuthState.perform, Answer.isOk_map] at hok
    simp only [AuthState.perform, Answer.map, revoke] at hok hm
    cases hrecord : s.record credentialId with
    | none => simp only [hrecord] at hok; cases hok
    | some r =>
      simp only [hrecord] at hok hm
      split_ifs at hok hm
      cases hok
  | createInvitation name role locale =>
    simp only [AuthState.perform, Answer.map, create] at hok hm
    cases hvalid : validateMetadata name role locale with
    | error e => simp only [hvalid] at hok; cases hok
    | ok valid => simp only [hvalid] at hm; cases hm
  | resetDevices rearm locale =>
    rw [AuthState.perform, Answer.isOk_map] at hok
    simp only [AuthState.perform, Answer.map, reset] at hok hm
    cases rearm with
    | none => cases hm
    | some rearm =>
      simp only at hok hm
      cases hvalid : validateMetadata rearm.name "controller".toList locale with
      | error e => simp only [hvalid] at hok; cases hok
      | ok valid => simp only [hvalid] at hm; cases hm

/-! ## §4 — runs -/

section

variable {α : Type} {answer : Answer α} {reply : Except AuthError α}
  (h : c.transact persist answer drawn = (c', reply))
include h

/-- A write that succeeds brings disk and memory together, and one that fails fails the operation;
without a write they stay as they were. -/
theorem transact_inSync :
    (answer.mutated = true → persist.isOk = true → InSync c') ∧
    (answer.mutated = true → persist.isOk = false → reply.isOk = false) ∧
    (answer.mutated = false → answer.state = c.state → InSync c → InSync c') := by
  unfold StoreCore.transact at h
  cases hm : answer.mutated with
  | true =>
    rw [hm, if_pos rfl] at h
    cases persist with
    | ok _ =>
      obtain ⟨rfl, -⟩ := Prod.mk.inj h
      exact ⟨fun _ _ => rfl, nofun, nofun⟩
    | error e =>
      obtain ⟨-, rfl⟩ := Prod.mk.inj h
      exact ⟨nofun, fun _ _ => rfl, nofun⟩
  | false =>
    rw [hm, if_neg Bool.false_ne_true] at h
    obtain ⟨rfl, -⟩ := Prod.mk.inj h
    refine ⟨nofun, nofun, fun _ hstate hc => ?_⟩
    show c.disk = answer.state.toDocument
    rw [hstate]
    exact hc

theorem transact_state : c'.state = answer.state := by
  unfold StoreCore.transact at h
  split at h
  · split at h <;> (obtain ⟨rfl, -⟩ := Prod.mk.inj h; rfl)
  · obtain ⟨rfl, -⟩ := Prod.mk.inj h
    rfl

end

variable {w w' : StoreCore × Bool}

/-- **While no write is owed disk and memory agree, and they do after a success**, under the
condition on the step. -/
theorem DurableStep.inSync {t : FileTransaction} (h : DurableStep tape w t w')
    (hw : w.2 = false → InSync w.1) :
    (w'.2 = false → InSync w'.1) ∧ (t.ReturnsOk → InSync w'.1) := by
  obtain ⟨hcondition, hstep, howes⟩ := h
  have hwrites : ∀ {α : Type} {persist : Except StoreError Unit} {answer : Answer α}
      {reply : Except AuthError α} {drawn : Nat}, answer.mutated = true →
      w.1.transact persist answer drawn = (w'.1, reply) → w'.2 = !persist.isOk →
      (w'.2 = false → InSync w'.1) ∧ (reply.isOk = true → InSync w'.1) := by
    intro α persist answer reply drawn hm hperform hafter
    obtain ⟨hwritten, hfailed, -⟩ := transact_inSync hperform
    cases hpersist : persist.isOk with
    | true => exact ⟨fun _ => hwritten hm hpersist, fun _ => hwritten hm hpersist⟩
    | false => simp [hafter, hpersist, hfailed hm hpersist]
  cases t with
  | device t =>
    obtain ⟨hperform, -, hmutated⟩ := hstep
    have hkept := (transact_inSync hperform).2.2
    simp only [owes, FileTransaction.write, hmutated] at howes
    cases hm : (w.1.state.perform t.call.now tape w.1.drawn t.call.op).1.mutated with
    | true =>
      simp only [hm, if_true] at howes
      exact (hwrites hm hperform howes).imp_right fun hsync hok => hsync hok.1
    | false =>
      simp only [hm, Bool.false_eq_true, if_false] at howes
      have hsame := (perform_effect w.1.state t.call.now tape w.1.drawn t.call.op).unmutated hm
      refine ⟨fun hclear => hkept hm hsame (hw (howes ▸ hclear)), fun ⟨hreply, hop⟩ => ?_⟩
      have hresultOk :
          (w.1.state.perform t.call.now tape w.1.drawn t.call.op).1.result.isOk = true := by
        by_contra hfails
        rw [Bool.not_eq_true] at hfails
        have := StoreCore.perform_reply_isOk hfails
        rw [hperform, hreply] at this
        cases this
      -- it only read, so nothing was owed
      refine hkept hm hsame (hw (Bool.eq_false_iff.mpr fun howed => ?_))
      exact hcondition.1 howed (reads_of_unmutated hresultOk hm hop)
  | addCredential record persist reply => exact hwrites rfl hstep howes
  | setInvitation invitation persist reply => exact hwrites rfl hstep howes

/-- The document stays valid, at the schema version. -/
theorem DurableStep.valid {t : FileTransaction} (h : DurableStep tape w t w')
    (hc : Valid w.1.state ∧ w.1.state.schemaVersion = storeSchemaVersion) :
    Valid w'.1.state ∧ w'.1.state.schemaVersion = storeSchemaVersion := by
  obtain ⟨hcondition, hstep, -⟩ := h
  cases t with
  | device t =>
    exact ⟨hstep.effect.valid hc.1 hcondition.2, hstep.effect.schemaVersion hc.2⟩
  | addCredential record persist reply =>
    rw [transact_state hstep]
    exact ⟨validate_iff.mp hcondition, hc.2⟩
  | setInvitation invitation persist reply =>
    rw [transact_state hstep]
    exact ⟨validate_iff.mp hcondition, hc.2⟩

/-- **Durability of the auth store.** Along every run of an opened file store, with any writes
failing, in which nothing that only reads is called between a failed write and the next good one, no
version wraps and verbatim records are valid: right after an operation that returned `Ok`, the
document on disk is the one in memory, and opening the store again, if the document is no longer
than a store may be, gives that document. -/
theorem authStore_durable {encodedLen : Document → Nat} {file : DiskFile}
    {persist : Except StoreError Unit} {c c' : StoreCore} {owed : Bool}
    {ts : List FileTransaction} {t : FileTransaction}
    (hopen : openStore encodedLen file persist = .ok c)
    (hrun : Runs (DurableStep tape) (c, false) (ts ++ [t]) (c', owed)) (hok : t.ReturnsOk) :
    c'.disk = c'.state.toDocument ∧
    (encodedLen c'.disk ≤ maxStoreBytes →
      ∃ reopened, openStore encodedLen (.document c'.disk) (.ok ()) = .ok reopened ∧
        reopened.state.toDocument = c'.state.toDocument) := by
  obtain ⟨hvalid, hschema, hstart⟩ := openStore_spec hopen
  obtain ⟨hvalid', hschema'⟩ := hrun.invariant
    (I := fun w => Valid w.1.state ∧ w.1.state.schemaVersion = storeSchemaVersion)
    (fun _ _ _ hc h => h.valid hc) ⟨hvalid, hschema⟩
  obtain ⟨w, hbefore, hlast⟩ := Runs.append_iff.mp hrun
  have hw : w.2 = false → InSync w.1 := hbefore.invariant
    (I := fun w => w.2 = false → InSync w.1) (fun _ _ _ hc h => (h.inSync hc).1) fun _ => hstart
  obtain ⟨w', hstep, hnil⟩ := Runs.cons_iff.mp hlast
  obtain rfl := Runs.nil_iff.mp hnil
  have hsync : InSync c' := (hstep.inSync hw).2 hok
  exact ⟨hsync, openStore_document hvalid' hschema' hsync⟩

/-! ### A redemption whose write fails -/

/-- The redemption of the phone's invitation, with a disk that does not take it. -/
def redeemUnwritten : Call := { redeemPhone with persist := .error (.io [] []) }

/-- The store after that redemption: the credential is minted, in memory only. -/
def unwrittenStore : StoreCore := (createdStore.perform countingTape redeemUnwritten).1

/-- **A success from a document that is not on disk**: the write of the minted credential fails, the
client tries again, and the second redemption returns the credential with nothing to write. After a
restart the store does not know it. -/
theorem redemption_not_durable :
    openStore (fun _ => 0) .absent (.ok ()) = .ok emptyStore ∧
    (createdStore.perform countingTape redeemUnwritten).2 = .error (.store (.io [] [])) ∧
    (unwrittenStore.perform countingTape redeemPhone).2 = .ok (.outcome phoneOutcome) ∧
    (unwrittenStore.perform countingTape redeemPhone).1.disk
      ≠ (unwrittenStore.perform countingTape redeemPhone).1.state.toDocument ∧
    ((openStore (fun _ => 0) (.document (unwrittenStore.perform countingTape redeemPhone).1.disk)
      (.ok ())).map fun reopened => reopened.state.record phoneOutcome.identity.credentialId)
      = .ok none := by
  refine ⟨rfl, ?_, ?_, ?_, ?_⟩
  · decide +kernel
  · decide +kernel
  · decide +kernel
  · decide +kernel

/-- The invitation is created on a disk that does not take it. -/
def createUnwritten : Call := { createPhone with persist := .error (.io [] []) }

/-- After a write that failed the invitation is created once more: the file holds it. -/
theorem authStore_durable_create :
    openStore (fun _ => 0) .absent (.ok ()) = .ok emptyStore ∧
    ∃ c owed, Runs (DurableStep countingTape) (emptyStore, false)
      ([.device (emptyStore.transaction countingTape createUnwritten)] ++
        [.device ((emptyStore.perform countingTape createUnwritten).1.transaction countingTape
          createPhone)]) (c, owed) ∧ c.disk = c.state.toDocument := by
  have hopen : openStore (fun _ => 0) .absent (.ok ()) = .ok emptyStore := rfl
  -- creating is no reading, whatever is owed
  have hstep : ∀ c owed persist, DurableStep countingTape (c, owed)
      (.device (c.transaction countingTape { createPhone with persist }))
      ((c.perform countingTape { createPhone with persist }).1, owes owed
        (.device (c.transaction countingTape { createPhone with persist }))) := by
    intro c owed persist
    refine ⟨⟨fun _ hreads => hreads, ?_⟩, StoreCore.storeStep_transaction _ _ _, rfl⟩
    rintro ⟨r, hop, -⟩
    cases hop
  have hrun := Runs.cons (hstep emptyStore false (.error (.io [] [])))
    (.cons (hstep _ _ (.ok ())) (.nil _))
  have hdurable := authStore_durable hopen (show Runs _ _ ([_] ++ [_]) _ from hrun)
  exact ⟨hopen, _, _, hrun, (hdurable ⟨by decide +kernel, by rintro _ _ ⟨⟩⟩).1⟩

end Lerdr.Auth
