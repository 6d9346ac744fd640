/-
# Lerdr.Auth.Store — the relay's device credential and invitation store (`store.rs`, `auth.rs`).

One document holds at most one live invitation and the enrolled credentials. Each operation of the
store runs under one lock: a pure function of the document (`AuthState`), the clock and the random
source, which says whether it changed the document. `StoreCore.transact` then writes the changed
document out; a failed write replaces the result, and the change stays in memory.

The random source is a tape: the `n`-th call of `fill` returns block `n` at the length asked for.
Timestamps are `i64` milliseconds, versions `u64`, attempt counts `u32`, and wrap as in a release
build.
-/
import Lerdr.E2ee.Handshake
import Lerdr.Lib.Keyed

namespace Lerdr.Auth

open Lib Lerdr.Rust
open Lerdr.E2ee (AuthSelector secretBytes okOr)

def storeSchemaVersion : Nat := 1
/-- `INVITATION_LIFETIME_MS` — 10 minutes. -/
def invitationLifetimeMs : Int := 10 * 60 * 1000
def maxInviteAttempts : UInt32 := 5
def bootstrapInvitationId : Text := "bootstrap".toList
def maxNameBytes : Nat := 80
def maxLocaleBytes : Nat := 32
def identifierBytes : Nat := 18
def maxStoreBytes : Nat := 4 * 2 ^ 20

/-! ## §1 — records and errors -/

/-- What a device may do. -/
inductive Role where
  | controller
  | reader
  deriving DecidableEq, Repr

/-- Whom a session speaks for. -/
structure AuthenticatedIdentity where
  deviceId : Text
  credentialId : Text
  role : Role
  locale : Text
  credentialVersion : UInt64
  deriving DecidableEq, Repr

def AuthenticatedIdentity.isValid (i : AuthenticatedIdentity) : Bool :=
  !i.deviceId.isEmpty && !i.credentialId.isEmpty && i.credentialVersion ≠ 0 && !i.locale.isEmpty

/-- `AuthOutcome` — the secret is there only when a redemption issued a credential. -/
structure AuthOutcome where
  identity : AuthenticatedIdentity
  credentialSecret : Option (Block secretBytes)
  deriving DecidableEq

/-- An enrolled device, without its secret. -/
structure Credential where
  deviceId : Text
  credentialId : Text
  name : Text
  role : Role
  locale : Text
  pairedAtMs : Int
  lastSeenAtMs : Int
  version : UInt64
  revoked : Bool
  deriving DecidableEq, Repr

/-- `CredentialRecord` — the secret is base64, and empty once revoked. -/
structure CredentialRecord where
  credential : Credential
  secret : Text
  deriving DecidableEq, Repr

/-- The one invitation that may be open. -/
structure Invitation where
  invitationId : Text
  version : UInt64
  secret : Text
  expiresAtMs : Int
  name : Text
  role : Role
  locale : Text
  failedAttempts : UInt32
  nextAttemptAtMs : Int
  pendingCredentialId : Text
  deriving DecidableEq, Repr

/-- `IssuedInvitation` — what `create_invitation` hands out. -/
structure IssuedInvitation where
  invitationId : Text
  version : UInt64
  secret : Text
  expiresAtMs : Int
  name : Text
  role : Role
  locale : Text
  deriving DecidableEq, Repr

def Invitation.issued (i : Invitation) : IssuedInvitation where
  invitationId := i.invitationId
  version := i.version
  secret := i.secret
  expiresAtMs := i.expiresAtMs
  name := i.name
  role := i.role
  locale := i.locale

structure BootstrapRearm where
  secret : Block secretBytes
  name : Text
  deriving DecidableEq

/-- Why the file is not taken. -/
inductive StoreError where
  | io (path source : Text)
  | json (source : Text)
  | schema (version : Nat)
  | invalid (message : Text)
  deriving DecidableEq, Repr

/-- Its `Display` text. -/
def StoreError.display : StoreError → Text
  | .io path source => "device store I/O on ".toList ++ path ++ ": ".toList ++ source
  | .json source => "decode device store: ".toList ++ source
  | .schema version => "unsupported device store schema ".toList ++ Nat.toDigits 10 version
  | .invalid message => "invalid device store: ".toList ++ message

/-- Why a call is refused. -/
inductive AuthError where
  | failed
  | revoked
  | invitationExpired
  | invitationBurned
  | rateLimited
  | notFound
  | lastController
  | invalidName
  | invalidRole
  | invalidLocale
  | unsupported
  | store (source : StoreError)
  deriving DecidableEq, Repr

/-- The `Display` text, which device administration answers with. -/
def AuthError.display : AuthError → Text
  | .failed => "device authentication failed".toList
  | .revoked => "device credential revoked".toList
  | .invitationExpired => "invitation expired".toList
  | .invitationBurned => "invitation burned".toList
  | .rateLimited => "invitation attempt rate limited".toList
  | .notFound => "device credential not found".toList
  | .lastController => "cannot revoke the last controller".toList
  | .invalidName => "invalid device name".toList
  | .invalidRole => "invalid device role".toList
  | .invalidLocale => "invalid device locale".toList
  | .unsupported => "Device management is unavailable".toList
  | .store source => "device store failure: ".toList ++ source.display

/-- The persisted part of `AuthState`. -/
structure Document where
  schemaVersion : Nat := storeSchemaVersion
  invitation : Option Invitation := none
  credentials : List CredentialRecord := []
  deriving DecidableEq, Repr

/-- `AuthState` — the document and a runtime option that is never persisted. -/
structure AuthState extends Document where
  rearmBootstrap : Bool := false
  deriving DecidableEq, Repr

/-- What one operation leaves: the state, its result, and whether there is something to persist. -/
structure Answer (α : Type) where
  state : AuthState
  result : Except AuthError α
  mutated : Bool

/-- The same answer with another payload. -/
def Answer.map {α β : Type} (a : Answer α) (f : α → β) : Answer β :=
  { a with result := a.result.map f }

/-- The random source: the `n`-th call of `fill`, at every length. -/
abbrev Tape := Nat → (n : Nat) → Block n

/-! ## §2 — metadata checks -/

/-- ASCII lower case. Outside ASCII `to_lowercase` yields none of `z`, `h`, `c`, `n`, `-`, so it
cannot make or break a match of `normalize_locale`. -/
def lowerAscii (c : Char) : Char := if 'A' ≤ c ∧ c ≤ 'Z' then Char.ofNat (c.toNat + 32) else c

/-- One of the two locales there are. -/
def normalizeLocale (value : Text) : Text :=
  let tag := ((trim value).map lowerAscii).map fun c => if c = '_' then '-' else c
  if tag = "zh-cn".toList ∨ "zh-cn-".toList <+: tag then "zh-CN".toList else "en".toList

/-- Not empty, not too long, no controls. -/
def validText (value : Text) (maxBytes : Nat) : Bool :=
  !value.isEmpty && len value ≤ maxBytes && !value.any isControl

/-- `validate_metadata` — name, then role, then locale. -/
def validateMetadata (name role locale : Text) : Except AuthError (Text × Role × Text) :=
  let name := trim name
  let locale := trim locale
  if !validText name maxNameBytes then .error .invalidName
  else
    match (if role = "controller".toList then some Role.controller
      else if role = "reader".toList then some Role.reader else none) with
    | none => .error .invalidRole
    | some role =>
      if !validText locale maxLocaleBytes ||
          locale.any (fun c => c = ' ' || c = '/' || c = '\\') then
        .error .invalidLocale
      else .ok (name, role, locale)

/-! ## §3 — the operations -/

namespace AuthState

/-- `credential_index`, and the record at it. -/
def record (s : AuthState) (credentialId : Text) : Option CredentialRecord :=
  Keyed.lookup (·.credential.credentialId) credentialId s.credentials

/-- Rewrites the record at `credential_index`. -/
def updateRecord (s : AuthState) (credentialId : Text)
    (f : CredentialRecord → CredentialRecord) : AuthState :=
  { s with credentials := Keyed.update (·.credential.credentialId) credentialId f s.credentials }

/-- `decode_secret` — here the base64 engine is the strict one. -/
def decodeSecret (encoded : Text) : Except AuthError (Block secretBytes) :=
  okOr ((Base64.decode false encoded).bind (Block.ofBytes secretBytes)) .failed

/-- The tail of `resolve_invitation`, once the invitation is live. -/
def attempt (record : Invitation) (now : Int) : Except AuthError (Block secretBytes) :=
  if maxInviteAttempts ≤ record.failedAttempts then .error .invitationBurned
  else if now < record.nextAttemptAtMs then .error .rateLimited
  else decodeSecret record.secret

section

variable (s : AuthState) (selector : AuthSelector)

/-- The secret of the open invitation. -/
def resolveInvitation (now : Int) :
    Answer (Block secretBytes) :=
  match s.invitation with
  | none => ⟨s, .error .failed, false⟩
  | some record =>
    if record.invitationId ≠ selector.id ∨ record.version ≠ selector.version then
      ⟨s, .error .failed, false⟩
    else if record.expiresAtMs ≤ now then
      -- the bootstrap invitation re-arms instead of expiring
      if record.invitationId = bootstrapInvitationId ∧
          (s.credentials = [] ∨ s.rearmBootstrap = true) then
        let record := { record with expiresAtMs := addI64 now invitationLifetimeMs }
        ⟨{ s with invitation := some record }, attempt record now, true⟩
      else ⟨{ s with invitation := none }, .error .invitationExpired, true⟩
    else ⟨s, attempt record now, false⟩

/-- The secret of a live credential. -/
def resolveCredential :
    Except AuthError (Block secretBytes) :=
  match s.record selector.id with
  | none => .error .failed
  | some record =>
    if record.credential.revoked then .error .revoked
    else if record.credential.version ≠ selector.version then .error .failed
    else decodeSecret record.secret

/-- The secret a hello is checked with. -/
def resolve (now : Int) : Answer (Block secretBytes) :=
  match selector.kind with
  | .invitation => s.resolveInvitation selector now
  | .credential => ⟨s, s.resolveCredential selector, false⟩

/-- A wrong proof counts as an attempt. -/
def recordFailedInvitation (now : Int) :
    Answer AuthOutcome :=
  match s.invitation with
  | none => ⟨s, .error .failed, false⟩
  | some record =>
    if record.invitationId ≠ selector.id ∨ record.version ≠ selector.version then
      ⟨s, .error .failed, false⟩
    else if record.invitationId = bootstrapInvitationId then ⟨s, .error .failed, false⟩
    else if record.expiresAtMs ≤ now then
      ⟨{ s with invitation := none }, .error .invitationExpired, true⟩
    else
      let failedAttempts := record.failedAttempts + 1
      if maxInviteAttempts ≤ failedAttempts then
        ⟨{ s with invitation := none }, .error .invitationBurned, true⟩
      else
        -- backoff between attempts: 1s, 2s, 4s, 8s
        let backoff := 1000 * 2 ^ ((failedAttempts - 1).toNat % 64)
        ⟨{ s with invitation := some { record with
            failedAttempts, nextAttemptAtMs := addI64 now backoff } }, .error .failed, true⟩

end

/-- The identifier is enrolled, as a device or as a credential. -/
def taken (s : AuthState) (device : Bool) (candidate : Text) : Bool :=
  if device then s.credentials.any fun r => r.credential.deviceId = candidate
  else (s.record candidate).isSome

/-- `unique_id` — at most `tries` draws, each checked against the enrolled identifiers. -/
def uniqueId (s : AuthState) (device : Bool) (tape : Tape) : Nat → Nat → Option Text × Nat
  | drawn, 0 => (none, drawn)
  | drawn, tries + 1 =>
    let candidate := Base64.encode (tape drawn identifierBytes).toList
    if s.taken device candidate then uniqueId s device tape (drawn + 1) tries
    else (some candidate, drawn + 1)

def identity (c : Credential) : AuthenticatedIdentity where
  deviceId := c.deviceId
  credentialId := c.credentialId
  role := c.role
  locale := c.locale
  credentialVersion := c.version

def issuedOutcome (record : CredentialRecord) : Except AuthError AuthOutcome :=
  (decodeSecret record.secret).map fun secret =>
    { identity := identity record.credential, credentialSecret := some secret }

/-- What a redemption enrolls. -/
def mintedCredential (deviceId credentialId : Text) (invitation : Invitation) (locale : Text)
    (now : Int) : Credential where
  deviceId := deviceId
  credentialId := credentialId
  name := invitation.name
  role := invitation.role
  locale := normalizeLocale locale
  pairedAtMs := now
  lastSeenAtMs := now
  version := 1
  revoked := false

/-- The minting half of `redeem_invitation`. -/
def mint (s : AuthState) (record : Invitation) (selector : AuthSelector) (now : Int) (tape : Tape)
    (drawn : Nat) : Answer AuthOutcome × Nat :=
  let (deviceId, drawn) := s.uniqueId true tape drawn 8
  let (credentialId, drawn) := s.uniqueId false tape drawn 8
  let secret := tape drawn secretBytes
  match deviceId, credentialId with
  | some deviceId, some credentialId =>
    let credential := mintedCredential deviceId credentialId record selector.locale now
    (⟨{ s with
        credentials := s.credentials ++
          [{ credential, secret := Base64.encode secret.toList : CredentialRecord }]
        invitation := some { record with pendingCredentialId := credentialId } },
      .ok { identity := identity credential, credentialSecret := some secret }, true⟩, drawn + 1)
  | _, _ => (⟨s, .error .failed, false⟩, drawn + 1)

/-- `redeem_invitation` — mint, or re-issue the pending credential. -/
def redeemInvitation (s : AuthState) (selector : AuthSelector) (now : Int) (tape : Tape)
    (drawn : Nat) : Answer AuthOutcome × Nat :=
  match s.invitation with
  | none => (⟨s, .error .failed, false⟩, drawn)
  | some record =>
    if record.invitationId ≠ selector.id ∨ record.version ≠ selector.version then
      (⟨s, .error .failed, false⟩, drawn)
    else if record.expiresAtMs ≤ now then
      (⟨{ s with invitation := none }, .error .invitationExpired, true⟩, drawn)
    else if record.pendingCredentialId ≠ [] then
      let result := match s.record record.pendingCredentialId with
        | some pending => issuedOutcome pending
        | none => .error .failed
      (⟨s, result, false⟩, drawn)
    else s.mint record selector now tape drawn

/-- Drops the invitation that waits for this credential. -/
def dropPending (s : AuthState) (credentialId : Text) : AuthState :=
  match s.invitation with
  | some i => if i.pendingCredentialId = credentialId then { s with invitation := none } else s
  | none => s

/-- The liveness refresh of `complete_credential`. -/
def refresh (now : Int) (locale : Text) (r : CredentialRecord) : CredentialRecord :=
  { r with credential :=
    { r.credential with lastSeenAtMs := now, locale := normalizeLocale locale } }

/-- An enrolled device comes back. -/
def completeCredential (s : AuthState) (selector : AuthSelector) (now : Int) :
    AuthState × Except AuthError AuthOutcome :=
  match s.record selector.id with
  | none => (s, .error .failed)
  | some record =>
    if record.credential.revoked ∨ record.credential.version ≠ selector.version then
      (s, .error .failed)
    else
      let record := refresh now selector.locale record
      ((s.updateRecord selector.id (refresh now selector.locale)).dropPending
          record.credential.credentialId,
        .ok { identity := identity record.credential, credentialSecret := none })

/-- What follows the check of a proof. -/
def complete (s : AuthState) (selector : AuthSelector) (authenticated : Bool) (now : Int)
    (tape : Tape) (drawn : Nat) : Answer AuthOutcome × Nat :=
  if !authenticated then
    match selector.kind with
    | .invitation => (s.recordFailedInvitation selector now, drawn)
    | .credential => (⟨s, .error .failed, false⟩, drawn)
  else
    match selector.kind with
    | .invitation => s.redeemInvitation selector now tape drawn
    | .credential =>
      let (state, result) := s.completeCredential selector now
      (⟨state, result, result.isOk⟩, drawn)

/-- `authorize` — current, unrevoked, version-matched. -/
def authorize (s : AuthState) (credentialId : Text) (version : UInt64) : Option Credential :=
  match s.record credentialId with
  | none => none
  | some record =>
    if record.credential.revoked ∨ record.credential.version ≠ version then none
    else some record.credential

/-- `list` — tombstones included. -/
def list (s : AuthState) : List Credential := s.credentials.map (·.credential)

/-- What `rename` writes. -/
def setName (name : Text) (r : CredentialRecord) : CredentialRecord :=
  { r with credential := { r.credential with name } }

def rename (s : AuthState) (credentialId name : Text) : Answer Credential :=
  let name := trim name
  if !validText name maxNameBytes then ⟨s, .error .invalidName, false⟩
  else
    match s.record credentialId with
    | none => ⟨s, .error .notFound, false⟩
    | some record =>
      ⟨s.updateRecord credentialId (setName name), .ok (setName name record).credential, true⟩

/-- An unrevoked controller. -/
def activeController (r : CredentialRecord) : Bool :=
  !r.credential.revoked && r.credential.role = .controller

def activeControllers (s : AuthState) : Nat := s.credentials.countP activeController

/-- The tombstone `revoke` writes over a live record. -/
def tombstone (r : CredentialRecord) : CredentialRecord where
  credential := { r.credential with revoked := true, version := r.credential.version + 1 }
  secret := []

/-- The last active controller stays. -/
def revoke (s : AuthState) (credentialId : Text) : Answer Credential :=
  match s.record credentialId with
  | none => ⟨s, .error .notFound, false⟩
  | some record =>
    if activeController record = true ∧ s.activeControllers = 1 then
      ⟨s, .error .lastController, false⟩
    else if record.credential.revoked then
      -- an already revoked record is returned unchanged
      ⟨s.dropPending credentialId, .ok record.credential, true⟩
    else
      ⟨(s.updateRecord credentialId tombstone).dropPending credentialId,
        .ok (tombstone record).credential, true⟩

/-- `create_invitation`. -/
def create (s : AuthState) (name role locale : Text) (now : Int) (tape : Tape) (drawn : Nat) :
    Answer Invitation × Nat :=
  match validateMetadata name role locale with
  | .error e => (⟨s, .error e, false⟩, drawn)
  | .ok (name, role, locale) =>
    let id := tape drawn identifierBytes
    let secret := tape (drawn + 1) secretBytes
    let invitation : Invitation :=
      { invitationId := Base64.encode id.toList
        version := 1
        secret := Base64.encode secret.toList
        expiresAtMs := addI64 now invitationLifetimeMs
        name, role, locale
        failedAttempts := 0
        nextAttemptAtMs := 0
        pendingCredentialId := [] }
    (⟨{ s with invitation := some invitation }, .ok invitation, true⟩, drawn + 2)

/-- The `bootstrap` record a reset re-installs. -/
def bootstrapInvitation (rearm : BootstrapRearm) (name locale : Text) (now : Int) : Invitation where
  invitationId := bootstrapInvitationId
  version := 1
  secret := Base64.encode rearm.secret.toList
  expiresAtMs := addI64 now invitationLifetimeMs
  name := name
  role := .controller
  locale := locale
  failedAttempts := 0
  nextAttemptAtMs := 0
  pendingCredentialId := []

/-- `reset` — the document is replaced wholesale, the runtime option survives. -/
def reset (s : AuthState) (rearm : Option BootstrapRearm) (locale : Text) (now : Int) :
    Answer Unit :=
  match rearm with
  | none => ⟨{ rearmBootstrap := s.rearmBootstrap }, .ok (), true⟩
  | some rearm =>
    match validateMetadata rearm.name "controller".toList locale with
    | .error e => ⟨s, .error e, false⟩
    | .ok (name, _, locale) =>
      ⟨{ invitation := some (bootstrapInvitation rearm name locale now)
         rearmBootstrap := s.rearmBootstrap }, .ok (), true⟩

/-! ## §4 — the persisted schema -/

def scrubRevokedSecrets (s : AuthState) : AuthState :=
  { s with credentials := s.credentials.map fun r =>
      if r.credential.revoked then { r with secret := [] } else r }

/-- The loop of `validate` over the records, with the identifiers seen so far. -/
def validateCredentials : List CredentialRecord → List Text → List Text → Except StoreError Unit
  | [], _, _ => .ok ()
  | r :: records, devices, credentials =>
    let c := r.credential
    if c.deviceId = [] ∨ c.credentialId = [] ∨ c.version = 0 then
      .error (.invalid "credential identity is incomplete".toList)
    else if c.deviceId ∈ devices ∨ c.credentialId ∈ credentials then
      .error (.invalid "duplicate device or credential identifier".toList)
    else if c.revoked = true ∧ r.secret ≠ [] then
      .error (.invalid "revoked credential retains a secret".toList)
    else if c.revoked = false ∧ (decodeSecret r.secret).isOk = false then
      .error (.invalid "credential secret is invalid".toList)
    else validateCredentials records (c.deviceId :: devices) (c.credentialId :: credentials)

/-- The invitation part of `validate`. -/
def validateInvitation : Option Invitation → Except StoreError Unit
  | none => .ok ()
  | some i =>
    if i.invitationId = [] ∨ i.version = 0 then
      .error (.invalid "invitation identity is invalid".toList)
    else if (decodeSecret i.secret).isOk = false then
      .error (.invalid "invitation secret is invalid".toList)
    else if maxInviteAttempts ≤ i.failedAttempts then
      .error (.invalid "invitation attempt count is invalid".toList)
    else .ok ()

/-- What a document must pass to be opened. -/
def validate (s : AuthState) : Except StoreError Unit := do
  validateCredentials s.credentials [] []
  validateInvitation s.invitation

end AuthState

/-! ## §5 — the store -/

/-- The operations of `DeviceAuthStore`. -/
inductive StoreOp where
  | resolve (selector : AuthSelector)
  | complete (selector : AuthSelector) (authenticated : Bool)
  | authorize (credentialId : Text) (version : UInt64)
  | listDevices
  | renameDevice (credentialId name : Text)
  | revokeDevice (credentialId : Text)
  | createInvitation (name role locale : Text)
  | resetDevices (rearm : Option BootstrapRearm) (locale : Text)
  deriving DecidableEq

/-- What an operation returns. -/
inductive Payload where
  | secret (secret : Block secretBytes)
  | outcome (outcome : AuthOutcome)
  | authorized (credential : Option Credential)
  | credentials (credentials : List Credential)
  | credential (credential : Credential)
  | invitation (invitation : IssuedInvitation)
  | done
  deriving DecidableEq

/-- The operation on the state, before anything is persisted. -/
def AuthState.perform (s : AuthState) (now : Int) (tape : Tape) (drawn : Nat) :
    StoreOp → Answer Payload × Nat
  | .resolve selector => ((s.resolve selector now).map .secret, drawn)
  | .complete selector authenticated =>
    let (answer, drawn) := s.complete selector authenticated now tape drawn
    (answer.map .outcome, drawn)
  | .authorize credentialId version =>
    (⟨s, .ok (.authorized (s.authorize credentialId version)), false⟩, drawn)
  | .listDevices => (⟨s, .ok (.credentials s.list), false⟩, drawn)
  | .renameDevice credentialId name => ((s.rename credentialId name).map .credential, drawn)
  | .revokeDevice credentialId => ((s.revoke credentialId).map .credential, drawn)
  | .createInvitation name role locale =>
    let (answer, drawn) := s.create name role locale now tape drawn
    (answer.map fun i => .invitation i.issued, drawn)
  | .resetDevices rearm locale => ((s.reset rearm locale now).map fun _ => .done, drawn)

/-- `StoreCore` — the locked state, the calls of `fill` so far, and the document on disk. For the
in-memory store, which has no path, every write counts as done. -/
structure StoreCore where
  state : AuthState
  drawn : Nat
  disk : Document
  deriving DecidableEq

/-- `transact` — persist when the operation reports a mutation; a failed write replaces the result,
the mutation stays. -/
def StoreCore.transact {α : Type} (c : StoreCore) (persist : Except StoreError Unit)
    (answer : Answer α) (drawn : Nat) : StoreCore × Except AuthError α :=
  if answer.mutated then
    match persist with
    | .ok () => ({ state := answer.state, drawn, disk := answer.state.toDocument }, answer.result)
    | .error e => ({ c with state := answer.state, drawn }, .error (.store e))
  else ({ c with state := answer.state, drawn }, answer.result)

/-- One call of the store: the operation, the clock it reads, and how a write would end. -/
structure Call where
  op : StoreOp
  now : Int
  persist : Except StoreError Unit
  deriving DecidableEq

/-- A call as it went: the result of the operation, whether it changed the document, and what came
back after the write. -/
structure Transaction where
  call : Call
  result : Except AuthError Payload
  mutated : Bool
  reply : Except AuthError Payload
  deriving DecidableEq

/-- A call, and the write after it. -/
def StoreCore.perform (tape : Tape) (c : StoreCore) (call : Call) :
    StoreCore × Except AuthError Payload :=
  let (answer, drawn) := c.state.perform call.now tape c.drawn call.op
  c.transact call.persist answer drawn

/-- The step relation of the store: calls run one at a time under its lock. -/
def StoreStep (tape : Tape) (c : StoreCore) (t : Transaction) (c' : StoreCore) : Prop :=
  c.perform tape t.call = (c', t.reply) ∧
    t.result = (c.state.perform t.call.now tape c.drawn t.call.op).1.result ∧
    t.mutated = (c.state.perform t.call.now tape c.drawn t.call.op).1.mutated

def StoreCore.transaction (tape : Tape) (c : StoreCore) (call : Call) : Transaction where
  call := call
  result := (c.state.perform call.now tape c.drawn call.op).1.result
  mutated := (c.state.perform call.now tape c.drawn call.op).1.mutated
  reply := (c.perform tape call).2

end Lerdr.Auth
