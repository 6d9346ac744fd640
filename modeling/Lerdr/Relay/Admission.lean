/-
# Lerdr.Relay.Admission — what a session checks before it acts on a message.

From `session.rs` and `types.rs`: the action catalogue, the capability negotiation, the checks
`dispatch` makes before it asks the store, and `authorize`, which decides from the credential the
store returned. All of it is pure; the actors of `Lerdr.Relay.Actors` call it between their accesses
to the store.
-/
import Lerdr.Auth.Store

namespace Lerdr.Relay

open Lerdr.Rust
open Lerdr.Auth (AuthenticatedIdentity Credential IssuedInvitation Role)

/-! ## §1 — the action catalogue -/

inductive ActionClass where
  | readOnly
  | mutating
  deriving DecidableEq, Repr

structure ActionMetadata where
  operation : Text
  actionClass : ActionClass
  requiresProtocol : Bool
  coordinated : Bool
  audited : Bool
  deriving DecidableEq, Repr

def readAction (operation : String) : ActionMetadata where
  operation := operation.toList
  actionClass := .readOnly
  requiresProtocol := false
  coordinated := false
  audited := false

def mutateAction (operation : String) (coordinated audited : Bool) : ActionMetadata where
  operation := operation.toList
  actionClass := .mutating
  requiresProtocol := true
  coordinated := coordinated
  audited := audited

def mutateActionUnversioned (operation : String) (coordinated audited : Bool) : ActionMetadata :=
  { mutateAction operation coordinated audited with requiresProtocol := false }

/-- The arms of `classify_action`. -/
def actionCatalog : List ActionMetadata :=
  [ mutateAction "acknowledge_pane" true false,
    mutateAction "agent_clear" true true,
    mutateAction "agent_rename" true true,
    mutateAction "agent_restart" true true,
    mutateAction "agent_start" true true,
    mutateAction "agent_stop" true true,
    mutateAction "answer_question" true true,
    readAction "cancel_speech",
    readAction "caps_update",
    readAction "check_update",
    mutateAction "clarify_question" true true,
    mutateAction "clear_activities" false false,
    readAction "client_caps",
    mutateAction "copy_agent_response" false false,
    mutateAction "deploy_app_update" false false,
    mutateAction "create_device_invitation" false true,
    readAction "device_list",
    mutateAction "focus_agent" true false,
    mutateAction "focus_pane" true false,
    mutateAction "focus_tab" true false,
    mutateAction "focus_workspace" true false,
    readAction "get_activity",
    readAction "get_conversation_history",
    mutateActionUnversioned "install_update" false false,
    mutateAction "lease_pane_size" true false,
    readAction "list_directories",
    readAction "list_slash_commands",
    mutateAction "layout_apply" true true,
    readAction "layout_export",
    mutateAction "navigate_question" true true,
    readAction "pane_applied",
    mutateAction "pane_link_activate" true false,
    readAction "pane_link_resolve",
    readAction "pane_search",
    readAction "pane_selection_read",
    readAction "push_open_ref",
    readAction "push_policy_get",
    mutateAction "push_policy_set" false false,
    mutateAction "push_snooze" false false,
    mutateAction "push_subscribe" false false,
    mutateAction "push_test_device" false true,
    mutateAction "push_unsubscribe" false false,
    mutateAction "push_viewed_pane" false false,
    readAction "qr_code",
    readAction "read_pane",
    readAction "refresh_agents",
    mutateAction "register_app_origin" false false,
    mutateAction "release_pane_size" true false,
    mutateAction "rename_device" false true,
    mutateAction "respond" true true,
    mutateAction "send_keys" true true,
    mutateAction "send_input" true true,
    mutateAction "send_secret" true true,
    mutateAction "reset_devices" false true,
    mutateAction "revoke_device" false true,
    mutateAction "send_text" true true,
    readAction "speak_text",
    mutateAction "speech_voice_install" false true,
    mutateAction "speech_voice_remove" false true,
    readAction "speech_voices_list",
    readAction "subscribe_conversation",
    mutateAction "submit_prompt" true true,
    mutateAction "tab_reorder" true true,
    readAction "unsubscribe_conversation",
    readAction "unwatch_pane",
    mutateAction "upload_begin" false true,
    mutateAction "upload_cancel" false true,
    mutateAction "upload_chunk" false true,
    mutateAction "upload_finish" false true,
    readAction "watch_pane",
    readAction "webrtc_close",
    readAction "webrtc_ice",
    readAction "webrtc_offer",
    mutateAction "workspace_close" true true,
    mutateAction "workspace_create" true true,
    readAction "workspace_file",
    readAction "workspace_git_diff",
    readAction "workspace_git_status",
    mutateAction "workspace_rename" true true,
    mutateAction "workspace_reorder" true true,
    readAction "workspace_tree",
    mutateAction "worktree_create" true true,
    readAction "worktree_list",
    mutateAction "worktree_open" true true,
    mutateAction "worktree_remove" true true ]

def classifyAction (operation : Text) : Option ActionMetadata :=
  actionCatalog.find? fun a => a.operation = operation

/-- The arms of `required_capability`. -/
def gatedActions : List (Text × Text) :=
  [ ("focus_pane".toList, "focus".toList),
    ("focus_tab".toList, "focus".toList),
    ("focus_workspace".toList, "focus".toList),
    ("focus_agent".toList, "focus".toList),
    ("pane_search".toList, "pane_search".toList),
    ("pane_selection_read".toList, "pane_search".toList),
    ("pane_link_resolve".toList, "pane_links".toList),
    ("pane_link_activate".toList, "pane_links".toList),
    ("layout_export".toList, "layout".toList),
    ("layout_apply".toList, "layout".toList),
    ("subscribe_conversation".toList, "convo_sub".toList),
    ("unsubscribe_conversation".toList, "convo_sub".toList) ]

def requiredCapability (operation : Text) : Option Text :=
  (gatedActions.find? fun row => row.1 = operation).map (·.2)

def deviceBoundPush : List Text :=
  [ "push_open_ref".toList, "push_policy_get".toList, "push_policy_set".toList,
    "push_snooze".toList, "push_subscribe".toList, "push_test_device".toList,
    "push_unsubscribe".toList, "push_viewed_pane".toList ]

/-! ## §2 — messages -/

/-- The part of `TargetRef` that `dispatch` reads. -/
structure TargetRef where
  serverSessionId : Text
  deriving DecidableEq, Repr

/-- The fields of `Inbound` that the session reads. -/
structure Inbound where
  type : Text
  protocol : Int := 0
  requestId : Text := []
  actionId : Text := []
  serverSessionId : Text := []
  target : Option TargetRef := none
  deviceId : Text := []
  name : Text := []
  role : Text := []
  capabilities : List Text := []
  deriving DecidableEq, Repr

structure RequestScope where
  action : ActionMetadata
  target : Option TargetRef
  actionId : Text
  serverSessionId : Text
  deriving DecidableEq, Repr

def RequestScope.forMessage (message : Inbound) : Option RequestScope :=
  (classifyAction message.type).map fun action =>
    { action
      target := message.target
      actionId := message.actionId
      serverSessionId := message.serverSessionId }

/-- `VERSION` of the protocol. -/
def protocolVersion : Int := 3

def requiresProtocol (messageType : Text) : Bool :=
  match classifyAction messageType with
  | none => true
  | some action => action.requiresProtocol

def compatible (message : Inbound) : Bool :=
  !requiresProtocol message.type || message.protocol = protocolVersion

/-- `ApiError`, with the arguments its constructor was given. -/
structure ApiError where
  code : Text
  args : List (Text × Text)
  deriving DecidableEq, Repr

/-- What a device administration command answers with. -/
inductive AdminData where
  | deviceList (currentDeviceId : Text) (devices : List (Credential × Bool)) (role : Role)
  | device (credential : Credential)
  | invitation (invitation : IssuedInvitation)
  deriving DecidableEq, Repr

/-- The messages the session itself sends. -/
inductive Reply where
  | error (requestId : Text) (error : ApiError)
  | actionReceipt (requestId actionId phase : Text) (error : Option ApiError)
  | capsUpdate (capabilities : List Text)
  | commandResult (requestId action : Text) (ok : Bool) (error : Text) (data : Option AdminData)
  deriving DecidableEq, Repr

def incompatibleResponse (message : Inbound) : Reply :=
  .actionReceipt message.requestId message.actionId "failed_before_dispatch".toList
    (some
      { code := "incompatible_protocol".toList
        args :=
          [ ("received".toList,
              if message.protocol = 0 then "invalid".toList
              else (toString message.protocol).toList),
            ("required".toList, (toString protocolVersion).toList) ] })

/-! ## §3 — capabilities -/

/-- `CAPABILITIES`. -/
def advertisedCapabilities : List Text :=
  [ "attention_classification".toList, "clear_activities".toList, "directory_browser".toList,
    "workspace_management".toList, "worktree_management".toList, "self_update".toList,
    "structured_questions".toList, "slash_commands".toList, "conversation_history".toList,
    "pane_size_lease".toList, "pane_size_lease_rows".toList, "workspace_inspection".toList,
    "semantic_input".toList, "secret_input".toList, "invitation_qr".toList, "typed_push".toList,
    "push_policy".toList, "device_management".toList, "pane_realtime_delta".toList,
    "tab_reorder".toList, "workspace_reorder_block".toList, "speech_synthesis".toList,
    "speech_voice_management".toList, "focus".toList, "pane_search".toList, "pane_links".toList,
    "layout".toList, "convo_sub".toList, "frame_zstd".toList, "upload_binary".toList ]

/-- `NegotiatedCaps` — what the server advertises and what the client announced. The source has
them as `BTreeSet`s, so a list stands for its members. -/
structure NegotiatedCaps where
  server : List Text := advertisedCapabilities
  client : Option (List Text) := none
  deriving DecidableEq, Repr

/-- `NegotiatedCaps::live` — on both lists. -/
def NegotiatedCaps.live (c : NegotiatedCaps) (capability : Text) : Bool :=
  c.server.contains capability && (c.client.any fun announced => announced.contains capability)

def NegotiatedCaps.announce (c : NegotiatedCaps) (inbound : Inbound) : NegotiatedCaps :=
  { c with client := some inbound.capabilities }

/-- `uploadbinary::CAPABILITY`. -/
def uploadBinaryCapability : Text := "upload_binary".toList

/-! ## §4 — the checks before the store is asked -/

/-- Where the first half of `dispatch` ends. -/
inductive Screening where
  /-- The message is answered, or silently absorbed, by the session. -/
  | settled (caps : NegotiatedCaps) (replies : List Reply)
  /-- The message goes on to `authorize`. -/
  | passed (scope : RequestScope)
  deriving DecidableEq, Repr

def fieldError (inbound : Inbound) (field : Text) : Reply :=
  .error inbound.requestId { code := "invalid_request".toList, args := [("field".toList, field)] }

/-- The `server_session_id` fence: the field and the target agree, and name the primary session. -/
def sessionFence (scope : RequestScope) : Bool :=
  match scope.target with
  | none => scope.serverSessionId = [] || scope.serverSessionId = "primary".toList
  | some target =>
    if scope.serverSessionId ≠ [] ∧ target.serverSessionId ≠ [] ∧
        scope.serverSessionId ≠ target.serverSessionId then false
    else
      let requested :=
        if scope.serverSessionId = [] then target.serverSessionId else scope.serverSessionId
      requested = [] || requested = "primary".toList

/-- `dispatch` up to `authorize`. -/
def screen (caps : NegotiatedCaps) (inbound : Inbound) : Screening :=
  match RequestScope.forMessage inbound with
  | none =>
    .settled caps [.error inbound.requestId
      { code := "unknown_action".toList, args := [("operation".toList, inbound.type)] }]
  | some scope =>
    if !compatible inbound then .settled caps [incompatibleResponse inbound]
    else if scope.action.operation = "client_caps".toList then
      .settled (caps.announce inbound) [.capsUpdate (caps.server.dedup.insertionSort fun a b =>
        String.ofList a ≤ String.ofList b)]
    else if scope.action.operation = "caps_update".toList then .settled (caps.announce inbound) []
    else
      match (requiredCapability scope.action.operation).filter (!caps.live ·) with
      | some capability =>
        .settled caps [.error inbound.requestId
          { code := "capability_unsupported".toList
            args := [("operation".toList, scope.action.operation),
              ("capability".toList, capability)] }]
      | none =>
        if !sessionFence scope then
          .settled caps [fieldError inbound "server_session_id".toList]
        else .passed scope

/-! ## §5 — authorization -/

def readerDenied (operation : Text) : ApiError where
  code := "reader_denied".toList
  args := [("operation".toList, operation)]

/-- The refusal of a credential that is not current. -/
def credentialRevoked (operation : Text) : ApiError where
  code := "reader_denied".toList
  args := [("operation".toList, operation), ("reason".toList, "credential_revoked".toList)]

/-- `authorize`, with what the store answered for the session's credential and version. -/
def authorize (identity : AuthenticatedIdentity) (current : Option Credential)
    (action : ActionMetadata) (deviceId : Text) : Option ApiError :=
  match current with
  | none => some (credentialRevoked action.operation)
  | some credential =>
    if credential.deviceId ≠ identity.deviceId then some (credentialRevoked action.operation)
    else if deviceBoundPush.contains action.operation then
      -- on the caller's own subscription: any authenticated device may use them
      if identity.deviceId = [] then some (readerDenied action.operation) else none
    else if action.actionClass = .readOnly ∨ credential.role = .controller then none
    else if action.operation = "revoke_device".toList ∧ deviceId ≠ [] ∧
        deviceId = identity.deviceId then none
    else some (readerDenied action.operation)

/-- What a reader may do: read, act on its own push subscription, revoke itself. -/
def ReaderMay (identity : AuthenticatedIdentity) (action : ActionMetadata) (deviceId : Text) :
    Prop :=
  action.actionClass = .readOnly ∨ action.operation ∈ deviceBoundPush ∨
    (action.operation = "revoke_device".toList ∧ deviceId = identity.deviceId)

/-- **An action that passes was authorized by a credential of this device**, and a reader's is one
a reader may do. -/
theorem authorize_eq_none {identity : AuthenticatedIdentity} {current : Option Credential}
    {action : ActionMetadata} {deviceId : Text}
    (h : authorize identity current action deviceId = none) :
    ∃ credential, current = some credential ∧ credential.deviceId = identity.deviceId ∧
      (credential.role = .controller ∨ ReaderMay identity action deviceId) := by
  cases current with
  | none => cases h
  | some credential =>
    unfold authorize at h
    by_cases hdevice : credential.deviceId ≠ identity.deviceId
    · simp only [if_pos hdevice] at h
      cases h
    refine ⟨credential, rfl, not_not.mp hdevice, ?_⟩
    by_cases hpush : deviceBoundPush.contains action.operation = true
    · exact .inr (.inr (.inl (List.contains_iff_mem.mp hpush)))
    by_cases hrole : action.actionClass = .readOnly ∨ credential.role = .controller
    · exact hrole.elim (fun hread => .inr (.inl hread)) .inl
    by_cases hself : action.operation = "revoke_device".toList ∧ deviceId ≠ [] ∧
        deviceId = identity.deviceId
    · exact .inr (.inr (.inr ⟨hself.1, hself.2.2⟩))
    · simp only [if_neg hdevice, if_neg hpush, if_neg hrole, if_neg hself] at h
      cases h

end Lerdr.Relay
