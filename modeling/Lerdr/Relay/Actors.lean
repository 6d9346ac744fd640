/-
# Lerdr.Relay.Actors — the session actors, the registry and the store, together.

Each connection has one actor (`session.rs`), which takes one frame at a time: it screens the
message, asks the store whether its credential is current, and hands the message over to the router,
to the upload path or to device administration. The store's lock is taken for each access and
released again, and actors run on several threads, so the model has one event per access; between
two events of one actor any other actor, or a handshake, may go ahead.

A successful revocation or reset arms a timer; when it fires, the registry (`server.rs`) closes the
sessions of the destroyed credentials. What the actor sends is bounded by buffers; that one of them
overflows, and the client is evicted, is an event of its own.

The state also keeps two histories that nothing reads: what was handed over, with the credential it
was authorized by, and which credentials a successful command destroyed.
-/
import Lerdr.Relay.Admission
import Lerdr.Lib.Runs

namespace Lerdr.Relay

open Lerdr.Rust Lerdr.Auth

/-! ## §1 — one actor -/

structure BinaryChunk where
  uploadId : Text
  sequence : Int
  data : List UInt8
  deriving DecidableEq

/-- What a frame opens to. -/
inductive Opened where
  /-- `open` rejects the frame. -/
  | rejected
  /-- A `0x03` frame, and what `decode_chunk` makes of it. -/
  | binary (chunk : Option BinaryChunk)
  /-- Not a JSON object. -/
  | malformed
  /-- An object that is no message; its request id. -/
  | undecodable (requestId : Text)
  | message (inbound : Inbound)
  deriving DecidableEq

/-- What is handed over. -/
inductive Work where
  | text (scope : RequestScope) (inbound : Inbound)
  | chunk (chunk : BinaryChunk)
  deriving DecidableEq

def Work.action : Work → ActionMetadata
  | .text scope _ => scope.action
  | .chunk _ => mutateAction "upload_chunk" false true

/-- The device the work names; a chunk has no such field, so the session's own. -/
def Work.deviceId (identity : AuthenticatedIdentity) : Work → Text
  | .text _ inbound => inbound.deviceId
  | .chunk _ => identity.deviceId

/-- Where an actor stands. -/
inductive Phase where
  | idle
  /-- Authorized by this answer of the store, not handed over yet. -/
  | admitted (work : Work) (current : Option Credential)
  /-- Within device administration, before its second access to the store. -/
  | renaming (scope : RequestScope) (inbound : Inbound) (credentialId : Text)
  | revoking (scope : RequestScope) (inbound : Inbound) (credentialId : Text)
  | resetting (scope : RequestScope) (inbound : Inbound) (active : List Credential)
  | exited
  deriving DecidableEq

/-- `Actor`, with its place in the registry and its kill switch. -/
structure Actor where
  identity : AuthenticatedIdentity
  caps : NegotiatedCaps := {}
  replies : List Reply := []
  revokedAt : Option Int := none
  pendingDisconnects : List (Text × UInt64) := []
  selfDisconnect : Bool := false
  registered : Bool
  fired : Bool
  phase : Phase := .idle
  deriving DecidableEq

namespace Actor

def enqueue (a : Actor) (replies : List Reply) : Actor := { a with replies := a.replies ++ replies }

def evict (a : Actor) : Actor := { a with fired := true, phase := .exited }

/-- The end of `dispatch` and `dispatch_binary` up to the hand-over: the check of the credential. -/
def check (a : Actor) (current : Option Credential) (requestId : Text) (work : Work) : Actor :=
  match authorize a.identity current work.action (work.deviceId a.identity) with
  | some error => a.enqueue [.error requestId error]
  | none => { a with phase := .admitted work current }

/-- `handle_frame`, with the answer the store would give to the check. -/
def handleFrame (a : Actor) (current : Option Credential) : Opened → Actor
  | .rejected => a.evict
  | .malformed => a.evict
  | .undecodable requestId =>
    a.enqueue [.error requestId { code := "invalid_request".toList, args := [] }]
  | .binary chunk =>
    if !a.caps.live uploadBinaryCapability then
      a.enqueue [.error [] { code := "capability_unsupported".toList
                             args := [("operation".toList, "upload_chunk".toList),
                               ("capability".toList, uploadBinaryCapability)] }]
    else
      match chunk with
      | none => a.evict
      | some chunk => a.check current [] (.chunk chunk)
  | .message inbound =>
    match screen a.caps inbound with
    | .settled caps replies => { a with caps }.enqueue replies
    | .passed scope => a.check current inbound.requestId (.text scope inbound)

end Actor

/-! ## §2 — device administration -/

structure AdminOutcome where
  result : Except Text (Option AdminData)
  disconnects : List (Text × UInt64) := []
  selfDisconnect : Bool := false

def AdminOutcome.ok (data : AdminData) : AdminOutcome where
  result := .ok (some data)

def AdminOutcome.failed (error : Text) : AdminOutcome where
  result := .error error

/-- `REVOKED_DISCONNECT_DELAY`, in milliseconds. -/
def revokedDisconnectDelay : Int := 250

def credentialIdFor (credentials : List Credential) (deviceId : Text) : Option Text :=
  if trim deviceId = [] then none
  else (credentials.find? fun c => c.deviceId = deviceId).map (·.credentialId)

def adminList (identity : AuthenticatedIdentity) (credentials : List Credential) : AdminOutcome :=
  .ok (.deviceList identity.deviceId
    ((credentials.filter fun c => !c.revoked).map fun c =>
      (c, c.credentialId = identity.credentialId)) identity.role)

/-- `admin_create_invitation`, from the store's answer. -/
def adminCreateInvitation : Except AuthError Payload → AdminOutcome
  | .ok (.invitation invitation) => .ok (.invitation invitation)
  | .ok _ => .failed []
  | .error error => .failed error.display

/-- `admin_rename`, from the store's answer. -/
def adminRename : Except AuthError Payload → AdminOutcome
  | .ok (.credential credential) => .ok (.device credential)
  | .ok _ => .failed []
  | .error error => .failed error.display

/-- `admin_revoke`, from the store's answer. -/
def adminRevoke (identity : AuthenticatedIdentity) : Except AuthError Payload → AdminOutcome
  | .ok (.credential credential) =>
    { AdminOutcome.ok (.device credential) with
      disconnects := [(credential.credentialId, credential.version)]
      selfDisconnect := credential.credentialId = identity.credentialId }
  | .ok _ => .failed []
  | .error error => .failed error.display

/-- `admin_reset`, from the credentials listed before and the store's answer. -/
def adminReset (active : List Credential) : Except AuthError Payload → AdminOutcome
  | .ok _ =>
    { result := .ok none
      disconnects := (active.filter fun c => !c.revoked).map fun c => (c.credentialId, c.version)
      selfDisconnect := true }
  | .error error => .failed error.display

/-- The end of `device_admin`: the answer, and the timer after a destructive command. -/
def Actor.settle (a : Actor) (scope : RequestScope) (inbound : Inbound) (outcome : AdminOutcome)
    (now : Int) : Actor :=
  match outcome.result with
  | .ok data =>
    let a := { a with phase := .idle }.enqueue
      [ .commandResult inbound.requestId scope.action.operation true [] data,
        .actionReceipt inbound.requestId scope.actionId "confirmed".toList none ]
    if outcome.selfDisconnect = true ∨ outcome.disconnects ≠ [] then
      { a with
        pendingDisconnects := a.pendingDisconnects ++ outcome.disconnects
        selfDisconnect := a.selfDisconnect || outcome.selfDisconnect
        revokedAt := some (match a.revokedAt with
          | none => now + revokedDisconnectDelay
          | some armed => min armed (now + revokedDisconnectDelay)) }
    else a
  | .error error =>
    { a with phase := .idle }.enqueue
      [.commandResult inbound.requestId scope.action.operation false error none]

/-! ## §3 — the relay -/

/-- A hand-over: by which actor, of what, and the answer of the store that admitted it. -/
structure HandOver where
  client : Nat
  identity : AuthenticatedIdentity
  work : Work
  current : Option Credential
  deriving DecidableEq

/-- A credential destroyed by a successful command of the client, at the version it had. -/
structure Destroyed where
  client : Nat
  credentialId : Text
  version : UInt64
  deriving DecidableEq

/-- `Shared` — the store, the actors by client number, and the registry's fences. -/
structure Shared where
  core : StoreCore
  /-- `reset_bootstrap` of the configuration. -/
  resetBootstrap : Option BootstrapRearm
  actors : Nat → Option Actor
  blocked : Text → UInt64
  /-- Identities committed by a handshake whose session is not registered yet. -/
  accepted : List AuthenticatedIdentity
  shutdown : Bool
  handed : List HandOver
  destroyed : List Destroyed

/-- What happens next. -/
inductive RelayEvent where
  /-- A call of the store by a handshake, or from outside the sessions. -/
  | call (call : Call)
  /-- The session of a committed handshake starts, and registers. -/
  | connect (client : Nat) (identity : AuthenticatedIdentity)
  /-- An outbound frame replaces the advertised capabilities (`NegotiatedCaps::observe`). -/
  | advertise (client : Nat) (capabilities : List Text)
  /-- A frame is taken from the inbox, and handled up to the check of the credential. -/
  | frame (client : Nat) (opened : Opened)
  /-- `validate_pane_target`, and if it passes the hand-over. -/
  | handOver (client : Nat) (targetError : Option ApiError) (now : Int)
      (persist : Except StoreError Unit)
  /-- The second access of a device administration command. -/
  | administer (client : Nat) (now : Int) (persist : Except StoreError Unit)
  /-- The deferred disconnects are due. -/
  | timer (client : Nat) (now : Int)
  /-- The peer closed, the transport failed, or the inbox overflowed. -/
  | fire (client : Nat)
  /-- A send buffer overflowed, or sealing failed. -/
  | evict (client : Nat)
  /-- The actor sees its kill switch, or the shutdown. -/
  | stop (client : Nat)
  | shutdown

namespace Shared

/-- Nobody connected. -/
def start (core : StoreCore) (resetBootstrap : Option BootstrapRearm) : Shared where
  core := core
  resetBootstrap := resetBootstrap
  actors := fun _ => none
  blocked := fun _ => 0
  accepted := []
  shutdown := false
  handed := []
  destroyed := []

def put (w : Shared) (client : Nat) (a : Actor) : Shared :=
  { w with actors := Function.update w.actors client (some a) }

/-- The close of one fence: `blocked` first, then the live sessions at or below it. -/
def fence (requester : Nat) (w : Shared) (pair : Text × UInt64) : Shared :=
  if pair.1 = [] ∨ pair.2 = 0 then w
  else
    { w with
      blocked := Function.update w.blocked pair.1 (max (w.blocked pair.1) pair.2)
      actors := fun client => (w.actors client).map fun a =>
        if client ≠ requester ∧ a.registered = true ∧ a.identity.credentialId = pair.1 ∧
            a.identity.credentialVersion ≤ pair.2 then { a with fired := true }
        else a }

def disconnectCredentials (w : Shared) (requester : Nat) (pairs : List (Text × UInt64)) : Shared :=
  pairs.foldl (fence requester) w

/-- The registration callback's check: the session is at or below a fence. -/
def refuses (w : Shared) (identity : AuthenticatedIdentity) : Bool :=
  identity.credentialId ≠ [] ∧ identity.credentialVersion ≤ w.blocked identity.credentialId

/-- The registration callback: a refused session is closed at once. -/
def register (w : Shared) (client : Nat) (identity : AuthenticatedIdentity) : Shared :=
  { w with accepted := w.accepted.erase identity }.put client
    { identity, registered := !w.refuses identity, fired := w.refuses identity }

def disconnectRevoked (w : Shared) (client : Nat) (a : Actor) : Shared :=
  (w.disconnectCredentials client a.pendingDisconnects).put client
    { a with
      revokedAt := none
      pendingDisconnects := []
      selfDisconnect := false
      fired := a.fired || a.selfDisconnect
      phase := if a.selfDisconnect then .exited else .idle }

section
variable (tape : Tape)

/-- A call of the store; a committed handshake leaves its identity. -/
def storeCall (w : Shared) (call : Call) : Shared :=
  { w with
    core := (w.core.perform tape call).1
    accepted := w.accepted ++ (match call.op, (w.core.perform tape call).2 with
      | .complete _ true, .ok (.outcome outcome) =>
        if outcome.identity.isValid then [outcome.identity] else []
      | _, _ => []) }

/-- The hand-over of admitted work: the router, the upload path, or the first access of device
administration. -/
def dispatch (w : Shared) (client : Nat) (a : Actor) (work : Work) (now : Int)
    (persist : Except StoreError Unit) : Shared :=
  match work with
  | .chunk _ => w.put client { a with phase := .idle }
  | .text scope inbound =>
    if scope.action.operation = "device_list".toList then
      w.put client (a.settle scope inbound (adminList a.identity w.core.state.list) now)
    else if scope.action.operation = "create_device_invitation".toList then
      let call : Call :=
        { op := .createInvitation inbound.name inbound.role a.identity.locale, now, persist }
      { w with core := (w.core.perform tape call).1 }.put client
        (a.settle scope inbound (adminCreateInvitation (w.core.perform tape call).2) now)
    else if scope.action.operation = "rename_device".toList then
      match credentialIdFor w.core.state.list inbound.deviceId with
      | none => w.put client
          (a.settle scope inbound (.failed "Device credential was not found".toList) now)
      | some credentialId => w.put client { a with phase := .renaming scope inbound credentialId }
    else if scope.action.operation = "revoke_device".toList then
      match credentialIdFor w.core.state.list inbound.deviceId with
      | none => w.put client
          (a.settle scope inbound (.failed "Device credential was not found".toList) now)
      | some credentialId => w.put client { a with phase := .revoking scope inbound credentialId }
    else if scope.action.operation = "reset_devices".toList then
      w.put client { a with phase := .resetting scope inbound w.core.state.list }
    else w.put client { a with phase := .idle }

/-- What a revocation of the credential would destroy. A tombstone counts: the revocation before may
have failed to be written. -/
def destroyedByRevoke (w : Shared) (client : Nat) (credentialId : Text) : List Destroyed :=
  match w.core.state.record credentialId with
  | some r => [{ client, credentialId, version := r.credential.version }]
  | none => []

def destroyedByReset (w : Shared) (client : Nat) : List Destroyed :=
  (w.core.state.credentials.filter fun r => !r.credential.revoked).map fun r =>
    { client, credentialId := r.credential.credentialId, version := r.credential.version }

/-- The second access of a command: the operation, its outcome, and what it destroys. -/
def administer (w : Shared) (client : Nat) (a : Actor) (scope : RequestScope) (inbound : Inbound)
    (call : Call) (outcome : Except AuthError Payload → AdminOutcome) (destroys : List Destroyed)
    (now : Int) : Shared :=
  { w with
    core := (w.core.perform tape call).1
    destroyed := w.destroyed ++ (if (w.core.perform tape call).2.isOk then destroys else []) }.put
      client (a.settle scope inbound (outcome (w.core.perform tape call).2) now)

/-- One event, if it can happen. -/
def step (w : Shared) : RelayEvent → Option Shared
  | .call call => some (w.storeCall tape call)
  | .connect client identity =>
    if w.actors client = none ∧ identity ∈ w.accepted then some (w.register client identity)
    else none
  | .advertise client capabilities =>
    match w.actors client with
    | some a =>
      if a.phase = .idle ∧ a.fired = false then
        some (w.put client { a with caps := { a.caps with server := capabilities } })
      else none
    | none => none
  | .frame client opened =>
    match w.actors client with
    | some a =>
      if a.phase = .idle ∧ a.fired = false then
        some (w.put client (a.handleFrame
          (w.core.state.authorize a.identity.credentialId a.identity.credentialVersion) opened))
      else none
    | none => none
  | .handOver client targetError now persist =>
    match w.actors client with
    | some a =>
      match a.phase, targetError with
      | .admitted (.text _ inbound) _, some error =>
        some (w.put client ({ a with phase := .idle }.enqueue [.error inbound.requestId error]))
      | .admitted work current, _ =>
        some ({ w with
          handed := w.handed ++ [HandOver.mk client a.identity work current] }.dispatch tape client
            a work now persist)
      | _, _ => none
    | none => none
  | .administer client now persist =>
    match w.actors client with
    | some a =>
      match a.phase with
      | .renaming scope inbound credentialId =>
        some (w.administer tape client a scope inbound
          { op := .renameDevice credentialId inbound.name, now, persist } adminRename [] now)
      | .revoking scope inbound credentialId =>
        some (w.administer tape client a scope inbound
          { op := .revokeDevice credentialId, now, persist } (adminRevoke a.identity)
          (w.destroyedByRevoke client credentialId) now)
      | .resetting scope inbound active =>
        some (w.administer tape client a scope inbound
          { op := .resetDevices w.resetBootstrap a.identity.locale, now, persist }
          (adminReset active) (w.destroyedByReset client) now)
      | _ => none
    | none => none
  | .timer client now =>
    match w.actors client with
    | some a =>
      if a.phase = .idle ∧ a.fired = false ∧ a.revokedAt.any (fun due => due ≤ now) = true then
        some (w.disconnectRevoked client a)
      else none
    | none => none
  | .fire client =>
    match w.actors client with
    | some a => some (w.put client { a with fired := true })
    | none => none
  | .evict client =>
    match w.actors client with
    | some a => if a.phase = .idle then some (w.put client a.evict) else none
    | none => none
  | .stop client =>
    match w.actors client with
    | some a =>
      if a.phase = .idle ∧ (a.fired = true ∨ w.shutdown = true) then some (w.put client a.evict)
      else none
    | none => none
  | .shutdown => some { w with shutdown := true }

end

end Shared

def RelayStep (tape : Tape) (w : Shared) (e : RelayEvent) (w' : Shared) : Prop :=
  w.step tape e = some w'

end Lerdr.Relay
