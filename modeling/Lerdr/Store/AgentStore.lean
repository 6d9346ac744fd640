/-
# Lerdr.Store.AgentStore — the client's agent rows (`Agent.kt`, `AgentMerge.kt`, `AgentStore.kt`).

Every message about a pane becomes a patch, the patch a normalized row, and the row is merged onto
the stored one of the same client-side pane id. A row that leaves `blocked` is mistrusted once: the
first sighting keeps the stored row's blocked details, the second is believed. While the user has
answered a question, the question stays pinned until another one comes.

The relay writes `pane_id` and `raw_pane_id` alike, so a message has one pane id here. Fields that
merge like another one and that the modelled rows of the relay do not determine (focus, project,
host, tab labels, tokens, session ids) are left out.
-/
import Lerdr.Coord.Snapshot
import Lerdr.Lib.Keyed
import Lerdr.Store.AgentMerge

namespace Lerdr.Store

open Lib Coord
open Classify (Interaction)

/-! ## §1 — rows and patches -/

/-- `Agent`. -/
structure AgentRow where
  relayId : String
  rawPaneId : String
  paneId : String
  agent : Option String := none
  name : Option String := none
  status : Option StatusText := none
  cwd : Option String := none
  session : Option String := none
  sessionName : Option String := none
  updatedAt : Int := 0
  lastActiveAt : Option Int := none
  lastSeenAt : Option Int := none
  activitySeq : Option Int := none
  paneRevision : Option Int := none
  eventId : Option String := none
  attentionKind : Option AttentionKind := none
  attentionCapable : Bool := false
  prompt : Option String := none
  command : Option String := none
  options : Option (List String) := none
  approvalFingerprint : Option String := none
  interaction : Option Interaction := none
  questionLayout : Bool := false
  generation : Option Int := none
  tabId : String := ""
  workspaceId : String := ""
  stateLabels : Option (List (String × String)) := none
  deriving DecidableEq, Repr

/-- `AgentPatch` — what a message says of a pane; `none` where it says nothing. -/
structure AgentPatch where
  paneId : String
  agent : Option String := none
  name : Option String := none
  status : Option StatusText := none
  cwd : Option String := none
  session : Option String := none
  sessionName : Option String := none
  updatedAt : Option Int := none
  lastActiveAt : Option Int := none
  lastSeenAt : Option Int := none
  activitySeq : Option Int := none
  paneRevision : Option Int := none
  eventId : Option String := none
  attentionKind : Option AttentionKind := none
  prompt : Option String := none
  command : Option String := none
  options : Option (List String) := none
  approvalFingerprint : Option String := none
  interaction : Option Interaction := none
  questionLayout : Option Bool := none
  generation : Option Int := none
  tabId : Option String := none
  workspaceId : Option String := none
  stateLabels : Option (List (String × String)) := none
  deriving DecidableEq, Repr

structure BlockedMessage where
  paneId : String
  agent : Option String := none
  name : Option String := none
  cwd : Option String := none
  session : Option String := none
  sessionName : Option String := none
  updatedAt : Option Int := none
  eventId : Option String := none
  attentionKind : Option AttentionKind := none
  prompt : Option String := none
  command : Option String := none
  options : Option (List String) := none
  approvalFingerprint : Option String := none
  interaction : Option Interaction := none
  questionLayout : Option Bool := none
  generation : Option Int := none
  tabId : Option String := none
  workspaceId : Option String := none
  paneRevision : Option Int := none
  deriving DecidableEq, Repr

structure AgentUpdateMessage where
  paneId : String
  agent : Option String := none
  status : Option StatusText := none
  cwd : Option String := none
  session : Option String := none
  sessionName : Option String := none
  updatedAt : Option Int := none
  eventId : Option String := none
  attentionKind : Option AttentionKind := none
  tabId : Option String := none
  workspaceId : Option String := none
  paneRevision : Option Int := none
  deriving DecidableEq, Repr

/-- The value, unless it is the one an absent field decodes to. -/
def present {α : Type} [DecidableEq α] (absent value : α) : Option α :=
  if value = absent then none else some value

/-- `AgentState.asPatch`. -/
def AgentPatch.ofState (row : AgentState) : AgentPatch where
  paneId := row.paneId
  agent := some row.agent
  name := some row.name
  status := some row.status
  cwd := some row.cwd
  session := some row.session
  sessionName := some row.sessionName
  updatedAt := some row.updatedAt
  lastActiveAt := present 0 row.lastActiveAt
  lastSeenAt := present 0 row.lastSeenAt
  activitySeq := present 0 row.activitySeq
  paneRevision := present 0 row.paneRevision
  eventId := present "" row.eventId
  attentionKind := row.attentionKind
  prompt := present "" row.prompt
  command := present "" row.command
  options := present [] row.options
  approvalFingerprint := present "" row.approvalFingerprint
  interaction := row.interaction
  questionLayout := present false row.questionLayout
  generation := some row.generation
  tabId := some row.tabId
  workspaceId := some row.workspaceId
  stateLabels := some row.stateLabels

/-- `BlockedMessage.asPatch`. -/
def AgentPatch.ofBlocked (m : BlockedMessage) : AgentPatch where
  paneId := m.paneId
  agent := m.agent
  name := m.name
  status := some .blocked
  cwd := m.cwd
  session := m.session
  sessionName := m.sessionName
  updatedAt := m.updatedAt
  eventId := m.eventId
  attentionKind := m.attentionKind
  prompt := m.prompt
  command := m.command
  options := m.options
  approvalFingerprint := m.approvalFingerprint
  interaction := m.interaction
  questionLayout := m.questionLayout
  generation := m.generation
  tabId := m.tabId
  workspaceId := m.workspaceId
  paneRevision := m.paneRevision

/-- `AgentUpdateMessage.asPatch`. -/
def AgentPatch.ofUpdate (m : AgentUpdateMessage) : AgentPatch where
  paneId := m.paneId
  agent := m.agent
  status := m.status
  cwd := m.cwd
  session := m.session
  sessionName := m.sessionName
  updatedAt := m.updatedAt
  eventId := m.eventId
  attentionKind := m.attentionKind
  tabId := m.tabId
  workspaceId := m.workspaceId
  paneRevision := m.paneRevision

/-- `fillingFrom` — absent fields fall back to the stored row's. -/
def AgentPatch.fillingFrom (patch : AgentPatch) (previous : AgentRow) : AgentPatch where
  paneId := patch.paneId
  agent := patch.agent <|> previous.agent
  name := patch.name <|> previous.name
  status := patch.status <|> previous.status
  cwd := patch.cwd <|> previous.cwd
  session := patch.session <|> previous.session
  sessionName := patch.sessionName <|> previous.sessionName
  updatedAt := patch.updatedAt <|> some previous.updatedAt
  lastActiveAt := patch.lastActiveAt <|> previous.lastActiveAt
  lastSeenAt := patch.lastSeenAt <|> previous.lastSeenAt
  activitySeq := patch.activitySeq <|> previous.activitySeq
  paneRevision := patch.paneRevision <|> previous.paneRevision
  eventId := patch.eventId <|> previous.eventId
  attentionKind := patch.attentionKind <|> previous.attentionKind
  prompt := patch.prompt <|> previous.prompt
  command := patch.command <|> previous.command
  options := patch.options <|> previous.options
  approvalFingerprint := patch.approvalFingerprint <|> previous.approvalFingerprint
  interaction := patch.interaction <|> previous.interaction
  questionLayout := patch.questionLayout <|> some previous.questionLayout
  generation := patch.generation <|> previous.generation
  tabId := patch.tabId <|> some previous.tabId
  workspaceId := patch.workspaceId <|> some previous.workspaceId
  stateLabels := patch.stateLabels <|> previous.stateLabels

/-! ## §2 — normalizing and merging -/

def clientPaneId (relayId rawPaneId : String) : String := relayId ++ "::" ++ rawPaneId

/-- `rawBlocked`, of the statuses the relay displays. -/
def rawBlocked (status : Option StatusText) : Bool := decide (status = some .blocked)

namespace AgentRow

/-- A row that is not blocked has no details. -/
def normalizeAgentAttention (agent : AgentRow) (capable : Bool) : AgentRow :=
  if !rawBlocked agent.status then
    { agent with
      attentionCapable := capable
      attentionKind := none
      options := none
      approvalFingerprint := none
      interaction := none
      questionLayout := false }
  else
    let kind := if capable then agent.attentionKind.getD .unknown else .unknown
    { agent with
      attentionCapable := capable
      attentionKind := some kind
      options := if kind ≠ .approval then none else agent.options
      approvalFingerprint := if kind ≠ .approval then none else agent.approvalFingerprint
      interaction := if kind ≠ .question then none else agent.interaction
      questionLayout := if kind ≠ .question then false else agent.questionLayout }

/-- The row of a patch. -/
def normalizeAgent (relayId : String) (patch : AgentPatch) (capable : Bool) : AgentRow :=
  normalizeAgentAttention
    { relayId
      rawPaneId := patch.paneId
      paneId := clientPaneId relayId patch.paneId
      agent := patch.agent
      name := patch.name
      status := patch.status
      cwd := patch.cwd
      session := patch.session
      sessionName := patch.sessionName
      updatedAt := patch.updatedAt.getD 0
      lastActiveAt := patch.lastActiveAt
      lastSeenAt := patch.lastSeenAt
      activitySeq := patch.activitySeq
      paneRevision := patch.paneRevision
      eventId := patch.eventId
      attentionKind := patch.attentionKind
      prompt := patch.prompt
      command := patch.command
      options := patch.options
      approvalFingerprint := patch.approvalFingerprint
      interaction := patch.interaction
      questionLayout := patch.questionLayout.getD false
      generation := patch.generation.filter (0 ≤ ·)
      tabId := patch.tabId.getD ""
      workspaceId := patch.workspaceId.getD ""
      stateLabels := patch.stateLabels } capable

/-- The row, as the revision guard reads it. -/
def guarded (agent : AgentRow) : Agent where
  paneRevision := agent.paneRevision

/-- `staleAgentRevision`. -/
def stale (previous : Option AgentRow) (next : AgentRow) : Bool :=
  staleAgentRevision (previous.map guarded) next.guarded

def retainBlockedDetails (previous next : AgentRow) : AgentRow :=
  { next with
    status := previous.status
    attentionKind := previous.attentionKind
    attentionCapable := previous.attentionCapable
    prompt := previous.prompt
    command := previous.command
    options := previous.options
    approvalFingerprint := previous.approvalFingerprint
    interaction := previous.interaction
    questionLayout := previous.questionLayout }

/-- The row is a structured question that waits for an answer. -/
def asksQuestion (agent : AgentRow) : Bool :=
  rawBlocked agent.status && decide (agent.attentionKind = some .question) &&
    agent.interaction.isSome

/-- `stabilizeBlockedSnapshot`, with the pane's count of misses and whether an answer of the user is
under way: the row to merge, and the count after it. -/
def stabilizeBlockedSnapshot (previous : Option AgentRow) (next : AgentRow) (misses : Nat)
    (responding : Bool) : AgentRow × Nat :=
  if next.paneId = "" then (next, misses)
  else
    match previous with
    | none => (next, 0)
    | some previous =>
      let pendingQuestion := responding && previous.asksQuestion
      if pendingQuestion && !next.asksQuestion then (previous.retainBlockedDetails next, 0)
      else if rawBlocked next.status then (next, 0)
      else if !rawBlocked previous.status || responding then (next, 0)
      else if 2 ≤ misses + 1 then (next, 0)
      else (previous.retainBlockedDetails next, misses + 1)

/-- What a row lacks it has from the previous one. -/
def mergeAgentDetails (previous : Option AgentRow) (next : AgentRow) : AgentRow :=
  match previous with
  | none => next
  | some previous =>
    { relayId := previous.relayId
      rawPaneId := next.rawPaneId
      paneId := next.paneId
      agent := next.agent <|> previous.agent
      name := next.name <|> previous.name
      status := next.status <|> previous.status
      cwd := next.cwd <|> previous.cwd
      session := next.session <|> previous.session
      sessionName := next.sessionName <|> previous.sessionName
      updatedAt := max previous.updatedAt next.updatedAt
      lastActiveAt := next.lastActiveAt <|> previous.lastActiveAt
      lastSeenAt := next.lastSeenAt <|> previous.lastSeenAt
      activitySeq := next.activitySeq <|> previous.activitySeq
      paneRevision := (Store.mergeAgentDetails (some previous.guarded) next.guarded).paneRevision
      eventId := next.eventId <|> previous.eventId
      attentionKind := next.attentionKind
      attentionCapable := next.attentionCapable
      prompt := next.prompt
      command := next.command
      options := next.options
      approvalFingerprint :=
        if rawBlocked next.status && decide (next.attentionKind = some .approval) then
          next.approvalFingerprint <|> previous.approvalFingerprint
        else next.approvalFingerprint
      interaction := next.interaction
      questionLayout := next.questionLayout
      generation := next.generation
      tabId := if next.tabId = "" then previous.tabId else next.tabId
      workspaceId := if next.workspaceId = "" then previous.workspaceId else next.workspaceId
      stateLabels := next.stateLabels <|> previous.stateLabels }

/-- `AgentStatusGroup`. -/
inductive StatusGroup where
  | attention
  | blocked
  | working
  | done
  | ready
  | other
  deriving DecidableEq, Repr

/-- `agentStatusGroup`. -/
def statusGroup (agent : AgentRow) : StatusGroup :=
  match agent.status with
  | some .blocked =>
    match agent.attentionKind with
    | some .approval | some .question => .blocked
    | some .chat => .ready
    | _ => .attention
  | some .working => .working
  | some .done => .done
  | some .idle => .ready
  | _ => .other

end AgentRow

/-! ## §3 — the store -/

/-- `AgentStore` — the rows, the count of misses of each pane and the panes the user has answered.
An absent count is `0`. -/
structure AgentStore where
  agents : List AgentRow := []
  misses : String → Nat := fun _ => 0
  responding : String → Bool := fun _ => false

namespace AgentStore

/-- `dedupeAgents` — of copies the newest, at the place of the first. -/
def dedupeAgents (agents : List AgentRow) : List AgentRow :=
  agents.foldl (fun kept agent => Keyed.put AgentRow.paneId agent kept) []

def agentNow (s : AgentStore) (paneId : String) : Option AgentRow :=
  Keyed.lookup AgentRow.paneId paneId s.agents

/-- `publishLocked`. -/
def published (s : AgentStore) : AgentStore := { s with agents := dedupeAgents s.agents }

/-- `reconcileRespondingLocked`. -/
def reconciled (s : AgentStore) : AgentStore :=
  { s with
    responding := fun paneId => s.responding paneId && s.agents.any fun agent =>
      decide (agent.paneId = paneId ∧ agent.statusGroup = .blocked) }

/-- A row is written over the first one of its pane, or added at the end. -/
def put (s : AgentStore) (agent : AgentRow) : AgentStore :=
  { s with agents := Keyed.put AgentRow.paneId agent s.agents }

/-- The rows merged so far, and the counts. -/
structure Merging where
  rows : List AgentRow
  misses : String → Nat

/-- `mergeAgentList`, the turn of one incoming row: the row and the count it leaves. -/
def mergeRow (before : Option AgentRow) (misses : Nat) (responding : Bool) (agent : AgentRow) :
    AgentRow × Nat :=
  match before with
  | some row =>
    if AgentRow.stale before agent then (row, misses)
    else
      let stabilized := AgentRow.stabilizeBlockedSnapshot before agent misses responding
      (AgentRow.mergeAgentDetails before stabilized.1, stabilized.2)
  | none =>
    let stabilized := AgentRow.stabilizeBlockedSnapshot none agent misses responding
    (AgentRow.mergeAgentDetails none stabilized.1, stabilized.2)

def mergeTurn (s : AgentStore) (acc : Merging) (agent : AgentRow) : Merging :=
  let turn := mergeRow (Keyed.lookup AgentRow.paneId agent.paneId s.agents.reverse)
    (acc.misses agent.paneId) (s.responding agent.paneId) agent
  { rows := acc.rows ++ [turn.1], misses := Function.update acc.misses agent.paneId turn.2 }

/-- `mergeSnapshot`, with `mergeAgentList`. -/
def mergeSnapshot (s : AgentStore) (relayId : String) (rows : List AgentState) (capable : Bool) :
    AgentStore :=
  let incoming := rows.map fun row => AgentRow.normalizeAgent relayId (.ofState row) capable
  let merged := incoming.foldl s.mergeTurn { rows := [], misses := s.misses }
  reconciled { s with
    agents := s.agents.filter (·.relayId ≠ relayId) ++ merged.rows
    misses := fun paneId =>
      if (relayId ++ "::").toList.isPrefixOf paneId.toList ∧
          ¬ incoming.any (·.paneId = paneId) then 0
      else merged.misses paneId } |>.published

def applyBlocked (s : AgentStore) (relayId : String) (message : BlockedMessage) (capable : Bool) :
    AgentStore :=
  let next := AgentRow.normalizeAgent relayId (.ofBlocked message) capable
  let before := s.agentNow next.paneId
  if AgentRow.stale before next then s
  else
    published
      { s.put (AgentRow.mergeAgentDetails before next) with
        misses := Function.update s.misses next.paneId 0
        responding := Function.update s.responding next.paneId false }

/-- The patch of an update: a blocked one without an attention kind keeps the stored row's. -/
def updatePatch (before : Option AgentRow) (message : AgentUpdateMessage) : AgentPatch :=
  match before with
  | some row =>
    if rawBlocked message.status && message.attentionKind.isNone then
      (AgentPatch.ofUpdate message).fillingFrom row
    else .ofUpdate message
  | none => .ofUpdate message

def applyAgentUpdate (s : AgentStore) (relayId : String) (message : AgentUpdateMessage)
    (capable : Bool) : AgentStore :=
  let paneId := clientPaneId relayId message.paneId
  let before := s.agentNow paneId
  let next := AgentRow.normalizeAgent relayId (updatePatch before message) capable
  if AgentRow.stale before next then s
  else
    let turn := mergeRow before (s.misses paneId) (s.responding paneId) next
    reconciled { s.put turn.1 with misses := Function.update s.misses paneId turn.2 } |>.published

def mergePaneInteraction (s : AgentStore) (paneId : String) (attentionKind : Option AttentionKind)
    (interaction : Option Interaction) : AgentStore :=
  match s.agentNow paneId, interaction with
  | some row, some question =>
    if attentionKind = some .question ∧ row.attentionCapable = true then
      published
        { s.put { row with
            status := some .blocked
            attentionKind := some .question
            interaction := some question } with
          misses := Function.update s.misses paneId 0 }
    else s
  | _, _ => s

/-- What the store is asked to do: the messages, and what the user and the connection do. -/
inductive Op where
  | agents (relayId : String) (rows : List AgentState) (capable : Bool)
  | blocked (relayId : String) (message : BlockedMessage) (capable : Bool)
  | agentUpdate (relayId : String) (message : AgentUpdateMessage) (capable : Bool)
  | paneInteraction (paneId : String) (attentionKind : Option AttentionKind)
      (interaction : Option Interaction)
  | resetPaneRevisions (relayId : String)
  | renormalizeAttention (relayId : String) (capable : Bool)
  | removeRelay (relayId : String)
  | markResponding (paneId : String)
  /-- cleared, or expired -/
  | clearResponding (paneId : String)
  | acknowledgeDone (paneId : String)
  | clear

/-- One operation. -/
def step (s : AgentStore) : Op → AgentStore
  | .agents relayId rows capable => s.mergeSnapshot relayId rows capable
  | .blocked relayId message capable => s.applyBlocked relayId message capable
  | .agentUpdate relayId message capable => s.applyAgentUpdate relayId message capable
  | .paneInteraction paneId attentionKind interaction =>
    s.mergePaneInteraction paneId attentionKind interaction
  | .resetPaneRevisions relayId =>
    published { s with agents := s.agents.map fun agent =>
      if agent.relayId ≠ relayId then agent else { agent with paneRevision := none } }
  | .renormalizeAttention relayId capable =>
    published { s with agents := s.agents.map fun agent =>
      if agent.relayId = relayId then agent.normalizeAgentAttention capable else agent }
  | .removeRelay relayId =>
    published { s with
      agents := s.agents.filter (·.relayId ≠ relayId)
      misses := fun paneId =>
        if (relayId ++ "::").toList.isPrefixOf paneId.toList then 0 else s.misses paneId }
  | .markResponding paneId => { s with responding := Function.update s.responding paneId true }
  | .clearResponding paneId => { s with responding := Function.update s.responding paneId false }
  | .acknowledgeDone paneId =>
    match s.agentNow paneId with
    | some row =>
      if row.statusGroup = .done then published (s.put { row with status := some .idle })
      else s
    | none => s
  | .clear => {}

def after (ops : List Op) : AgentStore := ops.foldl step {}

/-! ## §4 — one row per pane -/

/-- The store has one row per pane. -/
def Once (s : AgentStore) : Prop := (s.agents.map (·.paneId)).Nodup

theorem agentNow_published (s : AgentStore) (paneId : String) :
    s.published.agentNow paneId = Keyed.lookup AgentRow.paneId paneId s.agents.reverse := by
  rw [agentNow, published, dedupeAgents, Keyed.lookup_foldl_put]
  exact Option.or_none

theorem Once.published (s : AgentStore) : s.published.Once :=
  Keyed.nodup_foldl_put _ List.nodup_nil

theorem Once.agentNow {s : AgentStore} (h : s.Once) (paneId : String) :
    Keyed.lookup AgentRow.paneId paneId s.agents.reverse = s.agentNow paneId :=
  Keyed.lookup_reverse (List.nodup_iff_count_le_one.mp h paneId)

theorem Once.put {s : AgentStore} (h : s.Once) (agent : AgentRow) : (s.put agent).Once :=
  Keyed.nodup_put h agent

theorem Once.step {s : AgentStore} (h : s.Once) (op : Op) : (s.step op).Once := by
  cases op with
  | agents relayId rows capable => exact .published _
  | blocked relayId message capable =>
    simp only [AgentStore.step, applyBlocked]
    split
    · exact h
    · exact .published _
  | agentUpdate relayId message capable =>
    simp only [AgentStore.step, applyAgentUpdate]
    split
    · exact h
    · exact .published _
  | paneInteraction paneId attentionKind interaction =>
    simp only [AgentStore.step, mergePaneInteraction]
    split
    · split
      · exact .published _
      · exact h
    · exact h
  | resetPaneRevisions relayId => exact .published _
  | renormalizeAttention relayId capable => exact .published _
  | removeRelay relayId => exact .published _
  | markResponding paneId => exact h
  | clearResponding paneId => exact h
  | acknowledgeDone paneId =>
    simp only [AgentStore.step]
    split
    · split
      · exact .published _
      · exact h
    · exact h
  | clear => exact List.nodup_nil

theorem once_after (ops : List Op) : (after ops).Once := by
  induction ops using List.reverseRecOn with
  | nil => exact List.nodup_nil
  | append_singleton ops op ih =>
    rw [after, List.foldl_append]
    exact ih.step op

/-! ## §5 — the row a message leaves -/

theorem mergeRow_paneId {before : Option AgentRow} {misses : Nat} {responding : Bool}
    {agent : AgentRow} (h : ∀ row ∈ before, row.paneId = agent.paneId) :
    (mergeRow before misses responding agent).1.paneId = agent.paneId := by
  have hstable : (AgentRow.stabilizeBlockedSnapshot before agent misses responding).1.paneId
      = agent.paneId := by
    cases before with
    | none =>
      simp only [AgentRow.stabilizeBlockedSnapshot]
      split_ifs <;> rfl
    | some row =>
      simp only [AgentRow.stabilizeBlockedSnapshot]
      split_ifs <;> rfl
  cases before with
  | none => exact hstable
  | some row =>
    simp only [mergeRow]
    split
    · exact h row rfl
    · exact hstable

theorem AgentRow.normalizeAgent_paneId (relayId : String) (patch : AgentPatch) (capable : Bool) :
    (AgentRow.normalizeAgent relayId patch capable).paneId = clientPaneId relayId patch.paneId := by
  simp only [AgentRow.normalizeAgent, AgentRow.normalizeAgentAttention]
  split <;> rfl

/-- The snapshot merge, at one pane: the last copy among the rows, and the count. -/
def Merging.view (paneId : String) (acc : Merging) : Option AgentRow × Nat :=
  (Keyed.lookup AgentRow.paneId paneId acc.rows.reverse, acc.misses paneId)

/-- The turn of a row, at its own pane. -/
def mergeOwn (s : AgentStore) (agent : AgentRow) (v : Option AgentRow × Nat) :
    Option AgentRow × Nat :=
  let turn := mergeRow (Keyed.lookup AgentRow.paneId agent.paneId s.agents.reverse) v.2
    (s.responding agent.paneId) agent
  (some turn.1, turn.2)

section

variable (s : AgentStore) (acc : Merging) (agent : AgentRow)

theorem mergeTurn_row_paneId :
    (mergeRow (Keyed.lookup AgentRow.paneId agent.paneId s.agents.reverse)
      (acc.misses agent.paneId) (s.responding agent.paneId) agent).1.paneId = agent.paneId :=
  mergeRow_paneId fun _ hrow => Keyed.key_of_lookup hrow

theorem view_mergeTurn_other (paneId : String) (h : paneId ≠ agent.paneId) :
    Merging.view paneId (s.mergeTurn acc agent) = Merging.view paneId acc := by
  simp only [Merging.view, mergeTurn, List.reverse_append, List.reverse_singleton,
    List.singleton_append, Keyed.lookup_cons, mergeTurn_row_paneId, if_neg (Ne.symm h),
    Function.update_of_ne h]

theorem view_mergeTurn_self :
    Merging.view agent.paneId (s.mergeTurn acc agent)
      = s.mergeOwn agent (Merging.view agent.paneId acc) := by
  simp only [Merging.view, mergeTurn, mergeOwn, List.reverse_append, List.reverse_singleton,
    List.singleton_append, Keyed.lookup_cons, mergeTurn_row_paneId, if_true, Function.update_self]

end

/-- **A snapshot that lists a pane once merges its row onto the stored one.** -/
theorem agentNow_mergeSnapshot {s : AgentStore} (hs : s.Once) {relayId : String}
    {rows : List AgentState} (capable : Bool)
    (honce : (rows.map fun row => clientPaneId relayId row.paneId).Nodup) {row : AgentState}
    (hrow : row ∈ rows) :
    (s.mergeSnapshot relayId rows capable).agentNow (clientPaneId relayId row.paneId)
      = some (mergeRow (s.agentNow (clientPaneId relayId row.paneId))
          (s.misses (clientPaneId relayId row.paneId))
          (s.responding (clientPaneId relayId row.paneId))
          (AgentRow.normalizeAgent relayId (.ofState row) capable)).1 := by
  have hid : ∀ row, (AgentRow.normalizeAgent relayId (.ofState row) capable).paneId
      = clientPaneId relayId row.paneId := fun row => AgentRow.normalizeAgent_paneId ..
  have hnodup : ((rows.map fun row =>
      AgentRow.normalizeAgent relayId (.ofState row) capable).map (·.paneId)).Nodup := by
    rw [List.map_map, show (AgentRow.paneId ∘ fun row =>
      AgentRow.normalizeAgent relayId (.ofState row) capable) = _ from funext hid]
    exact honce
  have hview := Keyed.foldl_of_mem AgentRow.paneId Merging.view s.mergeOwn s.view_mergeTurn_other
    s.view_mergeTurn_self (List.nodup_iff_count_le_one.mp hnodup _) (List.mem_map_of_mem hrow)
    { rows := [], misses := s.misses }
  rw [hid, Merging.view] at hview
  have hlast := congrArg Prod.fst hview
  rw [mergeSnapshot, agentNow_published, reconciled]
  simp only [List.reverse_append, Keyed.lookup, List.find?_append] at hlast ⊢
  rw [hlast, Option.or_of_isSome rfl]
  simp only [mergeOwn, hid, hs.agentNow, Merging.view]

theorem updatePatch_paneId (before : Option AgentRow) (message : AgentUpdateMessage) :
    (updatePatch before message).paneId = message.paneId := by
  cases before with
  | none => rfl
  | some row =>
    simp only [updatePatch]
    split <;> rfl

def updateRow (s : AgentStore) (relayId : String) (message : AgentUpdateMessage) (capable : Bool) :
    AgentRow :=
  AgentRow.normalizeAgent relayId
    (updatePatch (s.agentNow (clientPaneId relayId message.paneId)) message) capable

/-- **An update that is not stale merges its row onto the stored one.** -/
theorem agentNow_applyAgentUpdate {s : AgentStore} (hs : s.Once) {relayId : String}
    {message : AgentUpdateMessage} {capable : Bool}
    (hfresh : AgentRow.stale (s.agentNow (clientPaneId relayId message.paneId))
      (s.updateRow relayId message capable) = false) :
    (s.applyAgentUpdate relayId message capable).agentNow (clientPaneId relayId message.paneId)
      = some (mergeRow (s.agentNow (clientPaneId relayId message.paneId))
          (s.misses (clientPaneId relayId message.paneId))
          (s.responding (clientPaneId relayId message.paneId))
          (s.updateRow relayId message capable)).1 := by
  have hid : (s.updateRow relayId message capable).paneId
      = clientPaneId relayId message.paneId := by
    rw [updateRow, AgentRow.normalizeAgent_paneId, updatePatch_paneId]
  have hturn : (mergeRow (s.agentNow (clientPaneId relayId message.paneId))
      (s.misses (clientPaneId relayId message.paneId))
      (s.responding (clientPaneId relayId message.paneId))
      (s.updateRow relayId message capable)).1.paneId = clientPaneId relayId message.paneId := by
    refine (mergeRow_paneId ?_).trans hid
    intro row hrow
    exact (Keyed.key_of_lookup hrow).trans hid.symm
  unfold updateRow at hfresh hturn ⊢
  rw [applyAgentUpdate, hfresh, if_neg Bool.false_ne_true, agentNow_published]
  refine (Once.agentNow (s := s.put _) (hs.put _) _).trans ?_
  rw [agentNow, put, Keyed.lookup_put, hturn, if_pos rfl]

/-! ## §6 — leaving blocked -/

end AgentStore

/-- The row shows a status, and nothing of a block: what `retainBlockedDetails` would keep. -/
structure AgentRow.Unblocked (status : StatusText) (agent : AgentRow) : Prop where
  status : agent.status = some status
  attentionKind : agent.attentionKind = none
  prompt : agent.prompt = none
  command : agent.command = none
  options : agent.options = none
  approvalFingerprint : agent.approvalFingerprint = none
  interaction : agent.interaction = none
  questionLayout : agent.questionLayout = false

namespace AgentStore

/-- **When the store believes a row that is not blocked**: its revision is not behind the stored
row's; no answered question is pinned; and the stored row is not blocked, or the user has answered
it, or one such row has been seen already. -/
structure Believes (s : AgentStore) (paneId : String) (paneRevision : Option Int) : Prop where
  fresh : staleAgentRevision ((s.agentNow paneId).map AgentRow.guarded) { paneRevision } = false
  unpinned : ∀ row ∈ s.agentNow paneId, ¬ (s.responding paneId = true ∧ row.asksQuestion = true)
  seen : ∀ row ∈ s.agentNow paneId, rawBlocked row.status = true →
    s.responding paneId = true ∨ 0 < s.misses paneId

theorem Believes.unblocked {s : AgentStore} {paneId : String} {next : AgentRow}
    {status : StatusText} (h : s.Believes paneId next.paneRevision) (hstatus : status ≠ .blocked)
    (hnext : next.Unblocked status) :
    (mergeRow (s.agentNow paneId) (s.misses paneId) (s.responding paneId) next).1.Unblocked
      status := by
  have hraw : rawBlocked next.status = false := by
    rw [rawBlocked, hnext.status, decide_eq_false_iff_not]
    exact fun h => hstatus (Option.some.inj h)
  cases hbefore : s.agentNow paneId with
  | none =>
    simp only [mergeRow, AgentRow.mergeAgentDetails, AgentRow.stabilizeBlockedSnapshot]
    split <;> exact hnext
  | some row =>
    have hstale : AgentRow.stale (some row) next = false := by
      have := h.fresh
      rw [hbefore] at this
      exact this
    have hpin := h.unpinned row hbefore
    have hseen := h.seen row hbefore
    -- the row passes the guard as it is
    have hkeeps : (AgentRow.stabilizeBlockedSnapshot (some row) next (s.misses paneId)
        (s.responding paneId)).1 = next := by
      simp only [AgentRow.stabilizeBlockedSnapshot, hraw, Bool.false_eq_true, if_false]
      split_ifs with hempty hpending hlet hcount
      · rfl
      · exfalso
        simp only [Bool.and_eq_true] at hpending
        exact hpin hpending.1
      · rfl
      · rfl
      · exfalso
        simp only [Bool.or_eq_true, Bool.not_eq_true', not_or, Bool.not_eq_false,
          Bool.not_eq_true] at hlet
        rcases hseen hlet.1 with hresponding | hmiss
        · rw [hresponding] at hlet
          cases hlet.2
        · omega
    simp only [mergeRow, hstale, if_neg Bool.false_ne_true, hkeeps]
    exact
      { status := by simp [AgentRow.mergeAgentDetails, hnext.status]
        attentionKind := hnext.attentionKind
        prompt := hnext.prompt
        command := hnext.command
        options := hnext.options
        approvalFingerprint := by simp [AgentRow.mergeAgentDetails, hraw, hnext.approvalFingerprint]
        interaction := hnext.interaction
        questionLayout := hnext.questionLayout }

end AgentStore

end Lerdr.Store
