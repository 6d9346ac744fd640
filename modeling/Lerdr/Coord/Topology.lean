/-
# Lerdr.Coord.Topology — the topology commits (`topology.rs`).

`acceptEnriched` reconciles one whole Herdr snapshot, `commitAgentStatus` applies one status event
to a committed row, `commitAttention` writes a classification read outside the commit back into the
shared ledger. The first two run at the topology actor; the last runs on whatever published clone
the projector holds, whose snapshot and generations may be behind the ledger it writes to.

Clock readings, minted event ids and resolved session titles are arguments. The epoch of a commit
is the topology's own revision; `commitAttention` moves only the cell's.
-/
import Lerdr.Coord.Ledger
import Lerdr.Lib.Keyed
import Mathlib.Data.List.Dedup
import Mathlib.Data.List.Sort

namespace Lerdr.Coord

open Lib

/-! ## §1 — snapshot rows -/

/-- `AgentInfo`, the fields the commits read or write. -/
structure AgentInfo where
  paneId : String
  terminalId : String := ""
  workspaceId : String := ""
  tabId : String := ""
  agentStatus : AgentStatus := .unknown
  agent : Option String := none
  name : Option String := none
  displayAgent : Option String := none
  title : Option String := none
  cwd : Option String := none
  foregroundCwd : Option String := none
  /-- The value of `agent_session`. -/
  agentSession : Option String := none
  revision : Nat := 0
  stateChangeSeq : Nat := 0
  stateLabels : List (String × String) := []
  deriving DecidableEq, Repr

/-- `PaneInfo`, the fields the commits read. `scroll` is `max_offset_from_bottom`. -/
structure PaneInfo where
  paneId : String
  terminalId : String := ""
  workspaceId : String := ""
  tabId : String := ""
  revision : Nat := 0
  scroll : Option Nat := none
  deriving DecidableEq, Repr

/-- What a poll lists. -/
structure SessionSnapshot where
  agents : List AgentInfo := []
  panes : List PaneInfo := []
  deriving DecidableEq, Repr

/-- `ChangeKey` — the same-fields tuple `updatedAt` diffs on. -/
structure ChangeKey where
  status : StatusText := .empty
  name : String := ""
  cwd : String := ""
  agent : String := ""
  activitySeq : Nat := 0
  paneRevision : Nat := 0
  scrollMaxOffset : Nat := 0
  foregroundCwd : String := ""
  deriving DecidableEq, Repr

def ChangeKey.of (agent : AgentInfo) (scrollMaxOffset : Nat) : ChangeKey where
  status := agent.agentStatus.text
  name := agent.name.getD ""
  cwd := agent.cwd.getD ""
  agent := agent.agent.getD ""
  activitySeq := agent.stateChangeSeq
  paneRevision := agent.revision
  scrollMaxOffset := scrollMaxOffset
  foregroundCwd := agent.foregroundCwd.getD ""

/-- When a pane changed, and was active. -/
structure AgentTimes where
  updatedAt : Int := 0
  lastActiveAt : Int := 0
  changeKey : ChangeKey := {}
  seen : Bool := false
  deriving DecidableEq, Repr

/-- `pane_identity_moved` — a changed identity, both sides known. -/
def paneIdentityMoved (existing incoming : List String) : Bool :=
  (existing.zip incoming).any fun p => p.1 != "" && p.2 != "" && p.1 != p.2

def paneSessionReplaced (existing incoming : AgentInfo) : Bool :=
  paneIdentityMoved [existing.terminalId, existing.tabId, existing.workspaceId]
    [incoming.terminalId, incoming.tabId, incoming.workspaceId]

def projectOf (host : Host) (cwd : String) : String :=
  if cwd = "" then "" else (host.fileName cwd).getD ""

/-! ## §2 — the topology -/

/-- `Topology`, the fields the commits read or write; the ledger stands beside it. -/
structure Topology where
  snapshot : SessionSnapshot := {}
  revision : Nat := 0
  stale : Bool := true
  generations : String → Int := fun _ => 0
  agentTimes : String → AgentTimes := fun _ => {}
  acceptedAt : Int := 0
  attemptedAt : Int := 0
  inventoryReady : Bool := false
  inventoryErrorCode : String := ""
  inventoryMessage : String := ""

structure AcceptOutcome where
  transitions : List PaneTransition := []
  removed : List String := []
  deriving DecidableEq, Repr

/-- Where rows come from. -/
inductive CommitKind where
  | event
  | poll
  deriving DecidableEq, Repr

/-- What a commit draws from outside: the wall clock, the clock of each transition record, the event
id each row would mint, and the session titles. -/
structure CommitEnv where
  now : Int := 0
  observedAt : Nat → Int := fun _ => 0
  mint : Nat → String := fun _ => ""
  title : String → String := fun _ => ""

namespace Topology

/-- `pane_of` — the first row of the pane. -/
def paneOf (t : Topology) (paneId : String) : Option AgentInfo :=
  t.snapshot.agents.find? (·.paneId = paneId)

/-- The committed row an accept diffs against: a map keyed by pane id keeps the last one. -/
def oldRow (t : Topology) (paneId : String) : Option AgentInfo :=
  t.snapshot.agents.reverse.find? (·.paneId = paneId)

/-- The last one of the pane. -/
def paneRecord (panes : List PaneInfo) (paneId : String) : Option PaneInfo :=
  panes.reverse.find? (·.paneId = paneId)

/-- On the event path an existing row that was not replaced keeps its committed status. -/
def preserveStatus (t : Topology) (kind : CommitKind) (incoming : AgentInfo) : AgentInfo :=
  match kind with
  | .poll => incoming
  | .event =>
    match t.oldRow incoming.paneId with
    | none => incoming
    | some existing =>
      if paneSessionReplaced existing incoming then incoming
      else { incoming with agentStatus := existing.agentStatus }

/-- The variables of the row loop. -/
structure Accepting where
  ledger : Ledger
  generations : String → Int
  agentTimes : String → AgentTimes
  transitions : List PaneTransition := []

/-- `updated_at` and `last_active_at` of a row that is committed by an accept. -/
def acceptTimes (now : Int) (initial : Bool) (existing : Option AgentInfo) (incoming : AgentInfo)
    (key : ChangeKey) (times : AgentTimes) : AgentTimes :=
  let times :=
    if existing.isNone then
      { times with updatedAt := if initial then 0 else now, changeKey := key, seen := true }
    else if !times.seen || decide (times.changeKey ≠ key) then
      { times with changeKey := key, updatedAt := now, seen := true }
    else times
  let activityAdvanced := match existing with
    | some e => decide (e.agentStatus ≠ incoming.agentStatus ∨
        e.stateChangeSeq ≠ incoming.stateChangeSeq)
    | none => false
  if activityAdvanced && decide (times.lastActiveAt < times.updatedAt) then
    { times with lastActiveAt := times.updatedAt }
  else times

/-- The content fields of two rows differ. -/
def contentMoved (existing incoming : AgentInfo) : Bool :=
  decide (existing.agentStatus ≠ incoming.agentStatus ∨ existing.name ≠ incoming.name ∨
    existing.cwd ≠ incoming.cwd ∨ existing.agent ≠ incoming.agent ∨
    existing.stateChangeSeq ≠ incoming.stateChangeSeq)

/-- The blocked→blocked refire: a kind change, or a fresh approval in the same cycle. -/
def refires (prevStatus status : StatusText) (previousAttention : Option AttentionKind)
    (attentionChanged : Bool) (cell : AttentionCell) : Bool :=
  decide (prevStatus = .blocked ∧ status = .blocked ∧
    (previousAttention ≠ cell.blocked.kind ∨
      (attentionChanged = true ∧ cell.blocked.kind = some .approval)))

section Commits

variable (host : Host)

/-- The cell of a row, through one accept: cycle sync, enrich, revisions, transition, seeding of
fresh panes, completion sync. Also the transitions, in order. -/
def acceptCell (env : CommitEnv) (index : Nat) (epoch : Int) (kind : CommitKind)
    (enrichment : Option Classification) (existing : Option AgentInfo) (incoming : AgentInfo)
    (times : AgentTimes) (cell : AttentionCell) : AttentionCell × List PaneTransition :=
  let status : StatusText := incoming.agentStatus.text
  let prevStatus := cell.prevStatus
  let previousAttention := cell.blocked.kind
  let (cell, cycleChanged) := cell.syncCycle status (env.mint index)
  -- on the event path only a fresh or replaced row takes the sampled classification
  let adoptsEnrich := decide (kind = .poll) || existing.isNone
  let (cell, attentionChanged) :=
    match enrichment with
    | some c =>
      if status = StatusText.blocked ∧ adoptsEnrich = true then
        let (cell, changed) := cell.applyClassification host c
        (cell, cycleChanged || changed)
      else (cell, cycleChanged)
    | none => (cell, cycleChanged)
  let moved := match existing with
    | none => true
    | some e => contentMoved e incoming
  let cell := { cell with
    contentRev := if moved || attentionChanged then cell.contentRev + 1 else cell.contentRev
    attentionRev := if attentionChanged then cell.attentionRev + 1 else cell.attentionRev
    sessionName := env.title incoming.paneId
    stateRev := epoch
    prevStatus := status }
  let record : PaneTransition :=
    { paneId := incoming.paneId, agent := incoming.agent.getD "",
      project := projectOf host (incoming.cwd.getD ""), status, revision := epoch,
      observedAt := env.observedAt index }
  let (cell, transition) := cell.registerTransition record prevStatus previousAttention
  -- a fresh pane that is already done, or idle, is seeded behind its transition
  let cell :=
    if existing.isNone && (isDoneStatus status || decide (status = StatusText.idle)) then
      if cell.lastSeenAt < times.lastActiveAt then
        { cell with unseenDone := true, ackDone := false }
      else if isDoneStatus status && decide (0 < times.lastActiveAt ∨ 0 < cell.lastSeenAt) then
        { cell with ackDone := true }
      else cell
    else cell
  let cell :=
    if preservesChatCompletion prevStatus status previousAttention then cell
    else cell.syncAttentionCompletion previousAttention cell.blocked.kind epoch
  -- pushed in place, with the commit's own clock
  let refire :=
    if refires prevStatus status previousAttention attentionChanged cell then
      [{ record with observedAt := env.now }]
    else []
  (cell, transition.toList ++ refire)

/-- One turn of the loop of `accept_enriched`. -/
def acceptRow (t : Topology) (env : CommitEnv) (epoch : Int) (kind : CommitKind)
    (enrichments : String → Option Classification) (panes : List PaneInfo) (acc : Accepting)
    (row : AgentInfo × Nat) : Accepting :=
  let (incoming, index) := row
  let paneId := incoming.paneId
  let initial := decide (t.acceptedAt = 0)
  let committed := t.oldRow paneId
  let replaced := match committed with
    | some e => paneSessionReplaced e incoming
    | none => false
  let existing := if replaced then none else committed
  let ledger :=
    if replaced then
      (acc.ledger.resetUpstreamRev paneId).setCell paneId
        (acc.ledger.cells paneId).resetOnReplacement
    else acc.ledger
  -- a replacement, and a reappearance after an ended epoch, both open the next one
  let bumps := replaced ||
    (existing.isNone && !initial && decide (0 < acc.generations paneId))
  let generations :=
    if bumps then Function.update acc.generations paneId (acc.generations paneId + 1)
    else acc.generations
  let scrollMaxOffset := ((paneRecord panes paneId).bind (·.scroll)).getD 0
  let times := acceptTimes env.now initial existing incoming (.of incoming scrollMaxOffset)
    (acc.agentTimes paneId)
  let (cell, transitions) := acceptCell host env index epoch kind (enrichments paneId) existing
    incoming times (ledger.cells paneId)
  { ledger := (ledger.setCell paneId cell).noteUpstreamRev paneId incoming.revision
    generations
    agentTimes := Function.update acc.agentTimes paneId times
    transitions := acc.transitions ++ transitions }

/-- The panes whose row an accept drops, in the order of the old map. -/
def removedPanes (t : Topology) (agents : List AgentInfo) : List String :=
  ((t.snapshot.agents.map (·.paneId)).dedup.insertionSort (· ≤ ·)).filter
    fun p => !agents.any (·.paneId = p)

/-- One turn of the removal pass. -/
def removePane (acc : Accepting) (paneId : String) : Accepting :=
  { acc with
    ledger := acc.ledger.remove paneId
    generations := Function.update acc.generations paneId (acc.generations paneId + 1)
    agentTimes := Function.update acc.agentTimes paneId {} }

/-- One turn of the watermark pass: a respawned pane starts over. -/
def seedUpstream (t : Topology) (ledger : Ledger) (pane : PaneInfo) : Ledger :=
  let respawned := match paneRecord t.snapshot.panes pane.paneId with
    | some e => paneIdentityMoved [e.terminalId, e.tabId, e.workspaceId]
        [pane.terminalId, pane.tabId, pane.workspaceId]
    | none => false
  (if respawned then ledger.resetUpstreamRev pane.paneId else ledger).noteUpstreamRev pane.paneId
    pane.revision

/-- `accept_enriched` — reconcile one full snapshot. -/
def acceptEnriched (t : Topology) (ledger : Ledger) (env : CommitEnv) (snapshot : SessionSnapshot)
    (enrichments : String → Option Classification) (kind : CommitKind) :
    Topology × Ledger × AcceptOutcome :=
  let revision := t.revision + 1
  let agents := snapshot.agents.map (t.preserveStatus kind)
  let committed := agents.zipIdx.foldl
    (acceptRow host t env revision kind enrichments snapshot.panes)
    { ledger, generations := t.generations, agentTimes := t.agentTimes }
  let removed := t.removedPanes agents
  let swept := removed.foldl removePane committed
  let seeded := snapshot.panes.foldl (seedUpstream t) swept.ledger
  let live := fun p => snapshot.panes.any (·.paneId = p) || agents.any (·.paneId = p)
  ({ t with snapshot := { snapshot with agents }, revision, stale := false,
            generations := swept.generations, agentTimes := swept.agentTimes,
            acceptedAt := env.now, attemptedAt := env.now, inventoryReady := true,
            inventoryErrorCode := "", inventoryMessage := "" },
    seeded.retainUpstream live,
    { transitions := swept.transitions, removed })

/-- `PaneAgentStatusChangedData`, the fields the commit reads. -/
structure StatusChanged where
  paneId : String
  agentStatus : AgentStatus
  agent : Option String := none
  displayAgent : Option String := none
  title : Option String := none
  stateLabels : List (String × String) := []
  deriving DecidableEq, Repr

/-- A carried field that the committed row already has. -/
def carried (payload committed : Option String) : Bool :=
  payload.all fun v => committed = some v

/-- The committed row under a status event. -/
def statusRow (payload : StatusChanged) (committed : AgentInfo) : AgentInfo :=
  { committed with
    agentStatus := payload.agentStatus
    agent := payload.agent.or committed.agent
    displayAgent := payload.displayAgent.or committed.displayAgent
    title := payload.title.or committed.title
    stateLabels := if payload.stateLabels = [] then committed.stateLabels else payload.stateLabels }

/-- The cell of a row, through one status event. -/
def statusCell (env : CommitEnv) (epoch : Int) (prevAgent : Option String) (incoming : AgentInfo)
    (cell : AttentionCell) : AttentionCell × List PaneTransition :=
  let status : StatusText := incoming.agentStatus.text
  let prevStatus := cell.prevStatus
  let previousAttention := cell.blocked.kind
  let tupleMoved := decide (prevStatus ≠ status ∨ incoming.agent ≠ prevAgent)
  let (cell, attentionChanged) := cell.syncCycle status (env.mint 0)
  let cell := { cell with
    contentRev := if tupleMoved || attentionChanged then cell.contentRev + 1 else cell.contentRev
    attentionRev := if attentionChanged then cell.attentionRev + 1 else cell.attentionRev
    stateRev := epoch
    prevStatus := status }
  let record : PaneTransition :=
    { paneId := incoming.paneId, agent := incoming.agent.getD "",
      project := projectOf host (incoming.cwd.getD ""), status, revision := epoch,
      observedAt := env.observedAt 0 }
  let (cell, transition) := cell.registerTransition record prevStatus previousAttention
  let cell :=
    if preservesChatCompletion prevStatus status previousAttention then cell
    else cell.syncAttentionCompletion previousAttention cell.blocked.kind epoch
  let refire :=
    if refires prevStatus status previousAttention attentionChanged cell then
      [{ record with observedAt := env.now }]
    else []
  (cell, transition.toList ++ refire)

/-- `updated_at` and `last_active_at` of a row under a status event. -/
def statusTimes (now : Int) (key : ChangeKey) (times : AgentTimes) : AgentTimes :=
  let times :=
    if !times.seen || decide (times.changeKey ≠ key) then
      { times with changeKey := key, updatedAt := now, seen := true }
    else times
  if times.lastActiveAt < times.updatedAt then { times with lastActiveAt := times.updatedAt }
  else times

/-- `commit_agent_status` — `none` when the event names no row or duplicates it. -/
def commitAgentStatus (t : Topology) (ledger : Ledger) (env : CommitEnv) (payload : StatusChanged) :
    Option (Topology × Ledger × AcceptOutcome) :=
  match t.snapshot.agents.findIdx? (·.paneId = payload.paneId), t.paneOf payload.paneId with
  | some index, some committed =>
    let unchanged := decide (committed.agentStatus = payload.agentStatus) &&
      carried payload.agent committed.agent &&
      carried payload.displayAgent committed.displayAgent &&
      carried payload.title committed.title &&
      (payload.stateLabels.isEmpty || decide (committed.stateLabels = payload.stateLabels))
    if unchanged then none
    else
      let revision := t.revision + 1
      let incoming := statusRow payload committed
      let scrollMaxOffset :=
        ((t.snapshot.panes.find? (·.paneId = payload.paneId)).bind (·.scroll)).getD 0
      let times := statusTimes env.now (.of incoming scrollMaxOffset)
        (t.agentTimes payload.paneId)
      let (cell, transitions) := statusCell host env revision committed.agent incoming
        (ledger.cells payload.paneId)
      some
        ({ t with
            snapshot := { t.snapshot with agents := t.snapshot.agents.set index incoming }
            revision
            agentTimes := Function.update t.agentTimes payload.paneId times },
          ledger.setCell payload.paneId cell,
          { transitions })
  | _, _ => none

/-- `commit_attention`, on a topology `t` that may be an old clone: the ledger after it, and whether
the commit landed. -/
def commitAttention (t : Topology) (ledger : Ledger) (paneId eventId : String)
    (generation contentRev : Int) (c : Classification) : Ledger × Bool :=
  match t.paneOf paneId with
  | none => (ledger, false)
  | some info =>
    if info.agentStatus.text ≠ .blocked ∨ t.generations paneId ≠ generation then (ledger, false)
    else
      let cell := ledger.cells paneId
      if cell.blocked.eventId ≠ eventId ∨ cell.contentRev ≠ contentRev then (ledger, false)
      else
        let previous := cell.blocked.kind
        let (cell, changed) := cell.applyClassification host c
        -- the cell's own counter moves, not the revision of the topology
        let cell :=
          if changed then
            ({ cell with
                stateRev := cell.stateRev + 1
                contentRev := cell.contentRev + 1
                attentionRev := cell.attentionRev + 1 }).syncAttentionCompletion previous
              cell.blocked.kind (cell.stateRev + 1)
          else cell
        (ledger.setCell paneId cell, true)

end Commits

/-- `acknowledge`, on a topology that may be an old clone. -/
def acknowledge (t : Topology) (ledger : Ledger) (paneId : String) (now : Int) : Ledger :=
  match t.paneOf paneId with
  | none => ledger
  | some info =>
    ledger.setCell paneId ((ledger.cells paneId).acknowledge info.agentStatus.text
      (t.agentTimes paneId).lastActiveAt now)

def bumpGeneration (t : Topology) (ledger : Ledger) (paneId : String) (now : Int) :
    Topology × Ledger :=
  ({ t with
      generations := Function.update t.generations paneId (t.generations paneId + 1)
      agentTimes := Function.update t.agentTimes paneId
        { t.agentTimes paneId with updatedAt := now, seen := true }
      revision := t.revision + 1 },
    ledger.resetUpstreamRev paneId)

def markStale (t : Topology) : Topology :=
  if t.stale then t else { t with stale := true, revision := t.revision + 1 }

/-- `mark_inventory_failure` — a repeated failure only moves `attemptedAt`. -/
def markInventoryFailure (t : Topology) (now : Int) : Topology :=
  if t.inventoryReady = false ∧ t.inventoryErrorCode = "command_failed" then
    { t with attemptedAt := now }
  else
    { t with
      attemptedAt := now
      inventoryReady := false
      inventoryErrorCode := "command_failed"
      inventoryMessage := "Unable to read the current Herdr agent inventory."
      revision := t.revision + 1 }

end Topology

/-! ## §3 — what the commits do to the epochs -/

namespace Topology

section Epochs

variable (host : Host) (t : Topology) (ledger : Ledger) (env : CommitEnv)

@[simp] theorem acceptCell_stateRev (index : Nat) (epoch : Int) (kind : CommitKind)
    (enrichment : Option Classification) (existing : Option AgentInfo) (incoming : AgentInfo)
    (times : AgentTimes) (cell : AttentionCell) :
    (acceptCell host env index epoch kind enrichment existing incoming times cell).1.stateRev
      = epoch := by
  simp [acceptCell, apply_ite AttentionCell.stateRev]

@[simp] theorem statusCell_stateRev (epoch : Int) (prevAgent : Option String)
    (incoming : AgentInfo) (cell : AttentionCell) :
    (statusCell host env epoch prevAgent incoming cell).1.stateRev = epoch := by
  simp [statusCell, apply_ite AttentionCell.stateRev]

section

variable (epoch : Int) (kind : CommitKind) (enrichments : String → Option Classification)
  (panes : List PaneInfo)

/-- A turn of the row loop re-bases its own pane and no other. -/
theorem acceptRow_stateRev (acc : Accepting) (row : AgentInfo × Nat) (p : String) :
    ((acceptRow host t env epoch kind enrichments panes acc row).ledger.cells p).stateRev
      = if p = row.1.paneId then epoch else (acc.ledger.cells p).stateRev := by
  by_cases hp : p = row.1.paneId
  · simp [acceptRow, hp]
  · simp only [acceptRow, Ledger.noteUpstreamRev_cells, Ledger.setCell_cells, if_neg hp]
    split_ifs <;> simp [hp]

theorem foldl_acceptRow_stateRev (p : String) (rows : List (AgentInfo × Nat)) (acc : Accepting) :
    ((rows.foldl (acceptRow host t env epoch kind enrichments panes) acc).ledger.cells p).stateRev
      = if p ∈ rows.map (·.1.paneId) then epoch else (acc.ledger.cells p).stateRev := by
  induction rows generalizing acc with
  | nil => simp
  | cons row rows ih =>
    rw [List.foldl_cons, ih, acceptRow_stateRev]
    by_cases hrow : p = row.1.paneId
    · simp [hrow]
    · rw [if_neg hrow]
      simp only [List.map_cons, List.mem_cons, hrow, false_or]

end

theorem foldl_removePane_cells (p : String) (removed : List String) (acc : Accepting) :
    (removed.foldl removePane acc).ledger.cells p
      = if p ∈ removed then {} else acc.ledger.cells p := by
  induction removed generalizing acc with
  | nil => simp
  | cons q removed ih =>
    rw [List.foldl_cons, ih]
    by_cases hq : p = q <;> simp [removePane, Ledger.remove, hq]

@[simp] theorem foldl_seedUpstream_cells (panes : List PaneInfo) (l : Ledger) :
    (panes.foldl (seedUpstream t) l).cells = l.cells := by
  induction panes generalizing l with
  | nil => rfl
  | cons pane panes ih =>
    rw [List.foldl_cons, ih]
    simp only [seedUpstream, Ledger.noteUpstreamRev_cells]
    split_ifs <;> simp

/-- The pane ids of a snapshot's agent rows. -/
def liveIds (t : Topology) : List String := t.snapshot.agents.map (·.paneId)

@[simp] theorem preserveStatus_paneId (kind : CommitKind) (incoming : AgentInfo) :
    (t.preserveStatus kind incoming).paneId = incoming.paneId := by
  simp only [preserveStatus]
  split
  · rfl
  · split
    · rfl
    · split <;> rfl

@[simp] theorem acceptEnriched_liveIds (snapshot : SessionSnapshot)
    (enrichments : String → Option Classification) (kind : CommitKind) :
    (t.acceptEnriched host ledger env snapshot enrichments kind).1.liveIds
      = snapshot.agents.map (·.paneId) := by
  simp [acceptEnriched, liveIds, Function.comp_def]

theorem mem_removedPanes (agents : List AgentInfo) (p : String) :
    p ∈ t.removedPanes agents ↔ p ∈ t.liveIds ∧ p ∉ agents.map (·.paneId) := by
  simp [removedPanes, liveIds]

/-- **An accept re-bases every row it carries**, and drops the cell of every row it does not. -/
theorem acceptEnriched_stateRev (snapshot : SessionSnapshot)
    (enrichments : String → Option Classification) (kind : CommitKind) (p : String) :
    ((t.acceptEnriched host ledger env snapshot enrichments kind).2.1.cells p).stateRev
      = if p ∈ snapshot.agents.map (·.paneId) then (t.revision + 1 : Int)
        else if p ∈ t.liveIds then 0 else (ledger.cells p).stateRev := by
  have hids : (snapshot.agents.map (t.preserveStatus kind)).map (·.paneId)
      = snapshot.agents.map (·.paneId) := by
    simp [Function.comp_def]
  have hrows : ((snapshot.agents.map (t.preserveStatus kind)).zipIdx.map (·.1.paneId))
      = snapshot.agents.map (·.paneId) := by
    rw [← hids, ← List.zipIdx_map_fst 0 (snapshot.agents.map (t.preserveStatus kind)),
      List.map_map]
    simp [Function.comp_def]
  simp only [acceptEnriched, Ledger.retainUpstream_cells, foldl_seedUpstream_cells,
    foldl_removePane_cells, mem_removedPanes, hids]
  -- the sweep and the watermark pass leave the cell of a sampled row alone
  by_cases hp : p ∈ snapshot.agents.map (·.paneId)
  · rw [if_neg (by simp only [hp, not_true_eq_false, and_false, not_false_eq_true]), if_pos hp,
      foldl_acceptRow_stateRev, hrows, if_pos hp]
    simp
  · by_cases hold : p ∈ t.liveIds
    · rw [if_pos ⟨hold, hp⟩, if_neg hp, if_pos hold]
    · rw [if_neg (fun h => hold h.1), if_neg hp, if_neg hold, foldl_acceptRow_stateRev, hrows,
        if_neg hp]

/-- The payload carries nothing that the committed row does not have. -/
def StatusChanged.repeats (payload : StatusChanged) (committed : AgentInfo) : Bool :=
  decide (committed.agentStatus = payload.agentStatus) && carried payload.agent committed.agent &&
    carried payload.displayAgent committed.displayAgent &&
    carried payload.title committed.title &&
    (payload.stateLabels.isEmpty || decide (committed.stateLabels = payload.stateLabels))

/-- The scroll offset a status event reads: that of the first pane record. -/
def statusScroll (paneId : String) : Nat :=
  ((t.snapshot.panes.find? (·.paneId = paneId)).bind (·.scroll)).getD 0

def statusRows (payload : StatusChanged) : List AgentInfo :=
  Keyed.update AgentInfo.paneId payload.paneId (statusRow payload) t.snapshot.agents

/-- **A status event that is committed**: it names a row, moves something in it, and rewrites that
row, its cell and its times. -/
theorem commitAgentStatus_eq_some {payload : StatusChanged}
    {result : Topology × Ledger × AcceptOutcome}
    (h : t.commitAgentStatus host ledger env payload = some result) :
    ∃ committed, t.paneOf payload.paneId = some committed ∧ payload.repeats committed = false ∧
      result =
        ({ t with
            snapshot := { t.snapshot with agents := t.statusRows payload }
            revision := t.revision + 1
            agentTimes := Function.update t.agentTimes payload.paneId
              (statusTimes env.now (.of (statusRow payload committed)
                (t.statusScroll payload.paneId)) (t.agentTimes payload.paneId)) },
          ledger.setCell payload.paneId (statusCell host env (t.revision + 1 : Nat) committed.agent
            (statusRow payload committed) (ledger.cells payload.paneId)).1,
          { transitions := (statusCell host env (t.revision + 1 : Nat) committed.agent
              (statusRow payload committed) (ledger.cells payload.paneId)).2 }) := by
  simp only [commitAgentStatus] at h
  split at h
  · next index committed hindex hrow =>
    split at h
    · cases h
    · next hmoves =>
      refine ⟨committed, hrow, Bool.eq_false_iff.mpr hmoves, ?_⟩
      have hset : t.snapshot.agents.set index (statusRow payload committed)
          = t.statusRows payload := Keyed.set_findIdx? hindex hrow
      rw [hset] at h
      exact (Option.some.inj h).symm
  · cases h

theorem statusRow_paneId (payload : StatusChanged) (committed : AgentInfo) :
    (statusRow payload committed).paneId = committed.paneId := rfl

/-- **A status event re-bases the row it names**, and keeps the set of rows. -/
theorem commitAgentStatus_some {payload : StatusChanged} {t' : Topology} {ledger' : Ledger}
    {outcome : AcceptOutcome}
    (h : t.commitAgentStatus host ledger env payload = some (t', ledger', outcome)) :
    t'.revision = t.revision + 1 ∧ t'.liveIds = t.liveIds ∧
      ∀ p, (ledger'.cells p).stateRev
        = if p = payload.paneId then (t.revision + 1 : Int) else (ledger.cells p).stateRev := by
  obtain ⟨committed, -, -, hresult⟩ := t.commitAgentStatus_eq_some host ledger env h
  obtain ⟨rfl, hrest⟩ := Prod.mk.inj hresult
  obtain ⟨rfl, -⟩ := Prod.mk.inj hrest
  refine ⟨rfl, Keyed.map_update (statusRow_paneId payload), ?_⟩
  intro p
  by_cases hp : p = payload.paneId <;> simp [hp]

/-- The fences of a classification commit hold, and it differs from what the cell committed. -/
def movesAttention (paneId eventId : String) (generation contentRev : Int)
    (c : Classification) : Bool :=
  (t.paneOf paneId).any (fun info => info.agentStatus.text = .blocked) &&
    decide (t.generations paneId = generation) &&
    decide ((ledger.cells paneId).blocked.eventId = eventId) &&
    decide ((ledger.cells paneId).contentRev = contentRev) &&
    ((ledger.cells paneId).applyClassification host c).2

def classifyCell (c : Classification) (cell : AttentionCell) : AttentionCell :=
  let next := (cell.applyClassification host c).1
  ({ next with
      stateRev := cell.stateRev + 1
      contentRev := cell.contentRev + 1
      attentionRev := cell.attentionRev + 1 }).syncAttentionCompletion cell.blocked.kind
    next.blocked.kind (cell.stateRev + 1)

/-- **A classification that changes nothing** leaves the cell as it is, but for the body of the
question. -/
theorem applyClassification_unchanged {c : Classification} {cell : AttentionCell}
    (h : (cell.applyClassification host c).2 = false) :
    cell.SameQuestion (cell.applyClassification host c).1 := by
  simp only [AttentionCell.applyClassification, decide_eq_false_iff_not, not_or, not_not] at h ⊢
  obtain ⟨hkind, hprompt, hcommand, hoptions, hfingerprint, hinteraction, hlayout, hid⟩ := h
  refine ⟨(AttentionCell.classifiedDetails host c cell.blocked).interaction, hinteraction.symm, ?_⟩
  have hblocked : AttentionCell.classifiedDetails host c cell.blocked
      = { cell.blocked with
          interaction := (AttentionCell.classifiedDetails host c cell.blocked).interaction } :=
    BlockedDetails.ext rfl hkind.symm hprompt.symm hcommand.symm hoptions.symm hfingerprint.symm
      rfl hlayout.symm hid.symm
  exact congrArg (fun blocked => { cell with blocked }) hblocked

/-- **A classification commit**: it moves its own cell, or no cell but for the body of a
question. -/
theorem commitAttention_cells (paneId eventId : String) (generation contentRev : Int)
    (c : Classification) (p : String) :
    if p = paneId ∧ t.movesAttention host ledger paneId eventId generation contentRev c = true then
      (t.commitAttention host ledger paneId eventId generation contentRev c).1.cells p
        = classifyCell host c (ledger.cells p)
    else (ledger.cells p).SameQuestion
      ((t.commitAttention host ledger paneId eventId generation contentRev c).1.cells p) := by
  cases hrow : t.paneOf paneId with
  | none => simp [commitAttention, movesAttention, hrow, AttentionCell.SameQuestion.refl]
  | some info =>
    simp only [commitAttention, movesAttention, hrow]
    by_cases hview : info.agentStatus.text ≠ .blocked ∨ t.generations paneId ≠ generation
    · rw [if_pos hview, if_neg]
      · exact .refl _
      · rcases hview with h | h <;> simp [h]
    · by_cases hcell : (ledger.cells paneId).blocked.eventId ≠ eventId ∨
          (ledger.cells paneId).contentRev ≠ contentRev
      · rw [if_neg hview, if_pos hcell, if_neg]
        · exact .refl _
        · rcases hcell with h | h <;> simp [h]
      · rw [if_neg hview, if_neg hcell]
        simp only [not_or, not_not] at hview hcell
        rw [Ledger.setCell_cells]
        by_cases hp : p = paneId
        · subst hp
          cases hmoved : ((ledger.cells p).applyClassification host c).2 with
          | true =>
            rw [if_pos rfl, if_pos rfl, if_pos ⟨rfl, by simp [hview, hcell]⟩]
            rfl
          | false => simp [applyClassification_unchanged host hmoved]
        · simp [hp, AttentionCell.SameQuestion.refl]

/-- **It moves one epoch by one**, whatever the topology's revision is. -/
theorem commitAttention_stateRev (paneId eventId : String) (generation contentRev : Int)
    (c : Classification) (p : String) :
    ((t.commitAttention host ledger paneId eventId generation contentRev c).1.cells p).stateRev
      = if p = paneId ∧ t.movesAttention host ledger paneId eventId generation contentRev c = true
        then (ledger.cells p).stateRev + 1 else (ledger.cells p).stateRev := by
  have hcells := t.commitAttention_cells host ledger paneId eventId generation contentRev c p
  split at hcells
  · rename_i hmoves
    rw [hcells, if_pos hmoves, classifyCell, AttentionCell.syncAttentionCompletion_stateRev]
  · rename_i hmoves
    obtain ⟨interaction, -, hcell⟩ := hcells
    rw [hcell, if_neg hmoves]
    rfl

@[simp] theorem acknowledge_cells_stateRev (paneId : String) (now : Int) (p : String) :
    ((t.acknowledge ledger paneId now).cells p).stateRev = (ledger.cells p).stateRev := by
  simp only [acknowledge]
  cases t.paneOf paneId with
  | none => rfl
  | some info => by_cases hp : p = paneId <;> simp [hp]

end Epochs

end Topology

end Lerdr.Coord
