/-
# Lerdr.Coord.Snapshot — what a topology projects to its clients (`snapshot.rs`, `topology.rs`).

A committed topology projects five legs: the inventory status, the agent rows, the workspaces, the
state of Herdr and the capabilities. A client gets all of them when it connects, and later only the
legs that a commit moved. What moved is decided once per commit, against the legs as they were
published last; the commit epoch of a row and the times of the inventory status are not compared.

The rows read the attention ledger, which every published clone shares. Workspaces and the state of
Herdr are taken as they are on the wire: nothing here looks inside them.
-/
import Lerdr.Coord.Topology

namespace Lerdr.Coord

open Classify (Interaction)

/-! ## §1 — the legs -/

/-- The `state` of `inventory_status`. -/
inductive InventoryState where
  | starting
  | ready
  | error
  deriving DecidableEq, Repr

/-- `InventoryStatusMessage`. -/
structure InventoryStatus where
  state : InventoryState := .starting
  errorCode : String := ""
  message : String := ""
  lastAttemptAt : Int := 0
  lastSuccessAt : Int := 0
  stale : Bool := false
  deriving DecidableEq, Repr

def Topology.inventoryStatus (t : Topology) : InventoryStatus :=
  let state : InventoryState :=
    if t.inventoryReady then .ready
    else if t.inventoryErrorCode ≠ "" then .error
    else .starting
  { state
    errorCode := t.inventoryErrorCode
    message := t.inventoryMessage
    lastAttemptAt := t.attemptedAt.tdiv 1000
    lastSuccessAt := t.acceptedAt.tdiv 1000
    stale := decide (state ≠ .ready ∧ 0 < t.acceptedAt) }

/-- The keys `inventoryStatusChanged` compares. -/
structure InventoryKey where
  state : InventoryState
  errorCode : String
  message : String
  stale : Bool
  deriving DecidableEq, Repr

def InventoryStatus.key (status : InventoryStatus) : InventoryKey where
  state := status.state
  errorCode := status.errorCode
  message := status.message
  stale := status.stale

/-- `AgentState`, the fields that the modelled rows and cells determine. -/
structure AgentState where
  paneId : String
  terminalId : String := ""
  generation : Int := 0
  tabId : String := ""
  workspaceId : String := ""
  agent : String := ""
  name : String := ""
  status : StatusText := .empty
  cwd : String := ""
  session : String := ""
  sessionName : String := ""
  updatedAt : Int := 0
  lastActiveAt : Int := 0
  lastSeenAt : Int := 0
  activitySeq : Int := 0
  eventId : String := ""
  attentionKind : Option AttentionKind := none
  prompt : String := ""
  command : String := ""
  options : List String := []
  approvalFingerprint : String := ""
  interaction : Option Interaction := none
  questionLayout : Bool := false
  paneRevision : Int := 0
  stateLabels : List (String × String) := []
  deriving DecidableEq, Repr

/-- `agent_state` — the row, with the cell of its pane laid over it. -/
def Topology.agentState (t : Topology) (ledger : Ledger) (info : AgentInfo) : AgentState :=
  let cell := ledger.cells info.paneId
  let times := t.agentTimes info.paneId
  { paneId := info.paneId
    terminalId := info.terminalId
    generation := t.generations info.paneId
    tabId := info.tabId
    workspaceId := info.workspaceId
    agent := info.agent.getD ""
    name := info.name.getD ""
    status := cell.displayedStatus info.agentStatus.text
    cwd := info.cwd.getD ""
    session := if cell.sessionName = "" then info.agentSession.getD "" else cell.sessionName
    sessionName := cell.sessionName
    updatedAt := times.updatedAt
    lastActiveAt := times.lastActiveAt
    lastSeenAt := cell.lastSeenAt
    activitySeq := info.stateChangeSeq
    eventId := cell.blocked.eventId
    attentionKind := cell.blocked.kind
    prompt := cell.blocked.prompt
    command := cell.blocked.command
    options := cell.blocked.options
    approvalFingerprint := cell.blocked.approvalFingerprint
    interaction := cell.blocked.interaction
    questionLayout := cell.blocked.questionLayout
    paneRevision := cell.stateRev
    stateLabels := info.stateLabels }

/-- `agents` — the rows in the order of their pane ids. -/
def Topology.agents (t : Topology) (ledger : Ledger) : List AgentState :=
  (t.snapshot.agents.map (t.agentState ledger)).insertionSort (·.paneId ≤ ·.paneId)

/-- The row as `agentSnapshotsEqual` compares it. -/
def AgentState.unrevised (row : AgentState) : AgentState := { row with paneRevision := 0 }

section Legs

variable {ω η : Type}

/-- What a topology projects, leg by leg. -/
structure Projection (ω η : Type) where
  inventory : InventoryStatus
  agents : List AgentState
  workspaces : List ω
  herdr : η
  capabilities : List String
  deriving DecidableEq, Repr

/-- The projection of a topology whose other legs are given. -/
def Topology.projection (t : Topology) (ledger : Ledger) (workspaces : List ω) (herdr : η)
    (capabilities : List String) : Projection ω η where
  inventory := t.inventoryStatus
  agents := t.agents ledger
  workspaces := workspaces
  herdr := herdr
  capabilities := capabilities

/-! ## §2 — the frames -/

/-- The frames that carry a leg. `push_config` carries two. -/
inductive Frame (ω η : Type) where
  | pushConfig (capabilities : List String) (herdr : η)
  | inventoryStatus (status : InventoryStatus)
  | agents (rows : List AgentState)
  | workspaces (rows : List ω)
  | herdrStatus (status : η)
  | capsUpdate (capabilities : List String)
  deriving DecidableEq, Repr

/-- `compose_snapshot` — the frames of a connecting client. -/
def composeSnapshot (p : Projection ω η) : List (Frame ω η) :=
  [.pushConfig p.capabilities p.herdr, .herdrStatus p.herdr, .workspaces p.workspaces,
    .agents p.agents, .inventoryStatus p.inventory]

def committedInventory (p : Projection ω η) : List (Frame ω η) :=
  [.inventoryStatus p.inventory, .agents p.agents, .workspaces p.workspaces]

/-- `full_inventory` — every leg that a diff may carry. -/
def fullInventory (p : Projection ω η) : List (Frame ω η) :=
  committedInventory p ++ [.herdrStatus p.herdr, .capsUpdate p.capabilities]

/-- `PublishedView` — the legs as they are compared; none before the first publish. -/
@[ext]
structure PublishedView (ω η : Type) where
  inventory : Option InventoryKey := none
  agents : Option (List AgentState) := none
  workspaces : Option (List ω) := none
  herdr : Option η := none
  capabilities : Option (List String) := none
  deriving DecidableEq, Repr

/-- The legs of a projection, as they are compared. -/
def Projection.view (p : Projection ω η) : PublishedView ω η where
  inventory := some p.inventory.key
  agents := some (p.agents.map AgentState.unrevised)
  workspaces := some p.workspaces
  herdr := some p.herdr
  capabilities := some p.capabilities

section Diff

variable [DecidableEq ω] [DecidableEq η]

/-- `broadcast_diff` — the frames of the legs that moved, and the view they leave. A `ready` after
anything else resends rows and workspaces; the first publish is silent about capabilities. -/
def broadcastDiff (p : Projection ω η) (view : PublishedView ω η) :
    List (Frame ω η) × PublishedView ω η :=
  let agents := p.agents.map AgentState.unrevised
  let statusChanged := decide (view.inventory ≠ some p.inventory.key)
  let readyRecovery := decide (p.inventory.state = .ready) &&
    decide (view.inventory.map (·.state) ≠ some .ready)
  let sendAgents := decide (view.agents ≠ some agents) || readyRecovery
  let sendWorkspaces := decide (view.workspaces ≠ some p.workspaces) || readyRecovery
  let sendHerdr := decide (view.herdr ≠ some p.herdr)
  let sendCaps := view.capabilities.isSome && decide (view.capabilities ≠ some p.capabilities)
  ((if statusChanged then [.inventoryStatus p.inventory] else []) ++
      (if sendAgents then [.agents agents] else []) ++
      (if sendWorkspaces then [.workspaces p.workspaces] else []) ++
      (if sendHerdr then [.herdrStatus p.herdr] else []) ++
      (if sendCaps then [.capsUpdate p.capabilities] else []),
    { inventory := some p.inventory.key
      agents := if sendAgents then some agents else view.agents
      workspaces := if sendWorkspaces then some p.workspaces else view.workspaces
      herdr := if sendHerdr then some p.herdr else view.herdr
      capabilities := some p.capabilities })

/-- A leg that is sent when it moved ends at its new value. -/
theorem moved_leg {α : Type} [DecidableEq α] (old : Option α) (new : α) :
    (if decide (old ≠ some new) = true then some new else old) = some new := by
  by_cases h : old = some new
  · rw [h, if_neg (by simp)]
  · rw [if_pos (decide_eq_true h)]

/-- So does one that may also be sent for another reason. -/
theorem moved_leg_forced {α : Type} [DecidableEq α] (old : Option α) (new : α) (forced : Bool) :
    (if (decide (old ≠ some new) || forced) = true then some new else old) = some new := by
  cases forced with
  | false => rw [Bool.or_false, moved_leg]
  | true => rw [Bool.or_true, if_pos rfl]

theorem broadcastDiff_view (p : Projection ω η) (view : PublishedView ω η) :
    (broadcastDiff p view).2 = p.view := by
  ext1
  · rfl
  · exact moved_leg_forced view.agents (p.agents.map AgentState.unrevised) _
  · exact moved_leg_forced view.workspaces p.workspaces _
  · exact moved_leg view.herdr p.herdr
  · rfl

end Diff

/-! ## §3 — what a client holds -/

/-- The last value a client received for each leg. -/
structure Mirror (ω η : Type) where
  inventory : Option InventoryStatus := none
  agents : Option (List AgentState) := none
  workspaces : Option (List ω) := none
  herdr : Option η := none
  capabilities : Option (List String) := none

namespace Mirror

def apply (m : Mirror ω η) : Frame ω η → Mirror ω η
  | .pushConfig capabilities herdr =>
    { m with capabilities := some capabilities, herdr := some herdr }
  | .inventoryStatus status => { m with inventory := some status }
  | .agents rows => { m with agents := some rows }
  | .workspaces rows => { m with workspaces := some rows }
  | .herdrStatus status => { m with herdr := some status }
  | .capsUpdate capabilities => { m with capabilities := some capabilities }

def of (frames : List (Frame ω η)) : Mirror ω η := frames.foldl apply {}

/-- The legs held, as they are compared. -/
def view (m : Mirror ω η) : PublishedView ω η where
  inventory := m.inventory.map InventoryStatus.key
  agents := m.agents.map (·.map AgentState.unrevised)
  workspaces := m.workspaces
  herdr := m.herdr
  capabilities := m.capabilities

end Mirror

/-- The effect of a frame on the legs as they are compared. -/
def PublishedView.apply (v : PublishedView ω η) : Frame ω η → PublishedView ω η
  | .pushConfig capabilities herdr =>
    { v with capabilities := some capabilities, herdr := some herdr }
  | .inventoryStatus status => { v with inventory := some status.key }
  | .agents rows => { v with agents := some (rows.map AgentState.unrevised) }
  | .workspaces rows => { v with workspaces := some rows }
  | .herdrStatus status => { v with herdr := some status }
  | .capsUpdate capabilities => { v with capabilities := some capabilities }

theorem Mirror.view_apply (m : Mirror ω η) (f : Frame ω η) : (m.apply f).view = m.view.apply f := by
  cases f <;> rfl

theorem Mirror.view_foldl (m : Mirror ω η) (frames : List (Frame ω η)) :
    (frames.foldl Mirror.apply m).view = frames.foldl PublishedView.apply m.view := by
  induction frames generalizing m with
  | nil => rfl
  | cons f frames ih => rw [List.foldl_cons, List.foldl_cons, ih, m.view_apply]

theorem unrevised_map_unrevised (rows : List AgentState) :
    (rows.map AgentState.unrevised).map AgentState.unrevised = rows.map AgentState.unrevised := by
  simp [Function.comp_def, AgentState.unrevised]

/-- The frame carries a leg of the projection. -/
def Frame.Tells (p : Projection ω η) (f : Frame ω η) : Prop := p.view.apply f = p.view

/-- Frames that tell what is held change nothing. -/
theorem foldl_apply_of_tells {p : Projection ω η} {frames : List (Frame ω η)}
    (h : ∀ f ∈ frames, f.Tells p) : frames.foldl PublishedView.apply p.view = p.view := by
  induction frames with
  | nil => rfl
  | cons f frames ih =>
    have hf : p.view.apply f = p.view := h f List.mem_cons_self
    rw [List.foldl_cons, hf]
    exact ih fun g hg => h g (List.mem_cons_of_mem _ hg)

/-- The snapshot of a connecting client tells the projection. -/
theorem view_composeSnapshot (p : Projection ω η) : (Mirror.of (composeSnapshot p)).view = p.view :=
  rfl

/-- The full inventory tells the projection, whatever was held. -/
theorem foldl_fullInventory (p : Projection ω η) (v : PublishedView ω η) :
    (fullInventory p).foldl PublishedView.apply v = p.view := rfl

section Diff

variable [DecidableEq ω] [DecidableEq η]

/-- The frames of a diff tell the projection they were made from. -/
theorem tells_of_mem_broadcastDiff {p : Projection ω η} {view : PublishedView ω η} {f : Frame ω η}
    (h : f ∈ (broadcastDiff p view).1) : f.Tells p := by
  simp only [broadcastDiff, List.mem_append, List.mem_ite_nil_right, List.mem_singleton] at h
  rcases h with (((⟨-, rfl⟩ | ⟨-, rfl⟩) | ⟨-, rfl⟩) | ⟨-, rfl⟩) | ⟨-, rfl⟩
  · rfl
  · simp only [Frame.Tells, PublishedView.apply, unrevised_map_unrevised]
    rfl
  · rfl
  · rfl
  · rfl

/-- **A diff takes what was published to what is published.** -/
theorem foldl_broadcastDiff (q p : Projection ω η) :
    (broadcastDiff p q.view).1.foldl PublishedView.apply q.view = p.view := by
  have hone : ∀ (b : Bool) (v : PublishedView ω η) (f : Frame ω η),
      (if b = true then [f] else []).foldl PublishedView.apply v
        = if b = true then v.apply f else v := by
    intro b v f
    cases b <;> rfl
  simp only [broadcastDiff, List.foldl_append, hone]
  -- one leg at a time: every frame but the leg's own passes it by
  ext1
  · simp only [apply_ite PublishedView.inventory, PublishedView.apply, ite_self]
    exact moved_leg q.view.inventory p.inventory.key
  · simp only [apply_ite PublishedView.agents, PublishedView.apply, ite_self,
      unrevised_map_unrevised]
    exact moved_leg_forced q.view.agents (p.agents.map AgentState.unrevised) _
  · simp only [apply_ite PublishedView.workspaces, PublishedView.apply, ite_self]
    exact moved_leg_forced q.view.workspaces p.workspaces _
  · simp only [apply_ite PublishedView.herdr, PublishedView.apply, ite_self]
    exact moved_leg q.view.herdr p.herdr
  · simp only [apply_ite PublishedView.capabilities, PublishedView.apply, ite_self]
    exact moved_leg q.view.capabilities p.capabilities

end Diff

end Legs

end Lerdr.Coord
