/-
# Lerdr.Coord.Commits — a status event against a poll that samples the same change.

`commit_agent_status` runs the pipeline of `accept_enriched` on one row. Both lead to the same row,
and they differ in two comparisons. The event moves the activity time of a pane with every payload
that moves anything, a title among others; the accept moves it only if the status or the activity
sequence did. And for the content revision the event compares the displayed status with the one its
cell saw last, the accept the status of the row with the committed one, so that `unknown` and a
status this build does not know differ for one only.

Where a pane has one row, the two agree exactly if neither comparison shows.
-/
import Lerdr.Coord.Content

namespace Lerdr.Coord

open Lib

namespace Topology

variable (host : Host) (t : Topology) (ledger : Ledger)

/-! ## §1 — the stages -/

/-- Both commits draw the same values from outside, whichever row they are drawn for. -/
def sameDraws (now observedAt : Int) (mint : String) (title : String → String) : CommitEnv where
  now := now
  observedAt := fun _ => observedAt
  mint := fun _ => mint
  title := title

theorem registerTransition_sessionName (record : PaneTransition) (prev : StatusText)
    (previousAttention : Option AttentionKind) (name : String) (cell : AttentionCell) :
    ({ cell with sessionName := name }).registerTransition record prev previousAttention
      = ({ (cell.registerTransition record prev previousAttention).1 with sessionName := name },
          (cell.registerTransition record prev previousAttention).2) := by
  simp only [AttentionCell.registerTransition]
  split_ifs <;> rfl

theorem syncAttentionCompletion_sessionName (previous current : Option AttentionKind)
    (stateRev : Int) (name : String) (cell : AttentionCell) :
    ({ cell with sessionName := name }).syncAttentionCompletion previous current stateRev
      = { cell.syncAttentionCompletion previous current stateRev with sessionName := name } := by
  simp only [AttentionCell.syncAttentionCompletion]
  split_ifs <;> rfl

/-- The end of a commit does not read the session name. -/
theorem finishCell_sessionName (env : CommitEnv) (record : PaneTransition) (prevStatus : StatusText)
    (previousAttention : Option AttentionKind) (changed : Bool) (name : String)
    (cell : AttentionCell) :
    finishCell env record prevStatus previousAttention changed id { cell with sessionName := name }
      = ({ (finishCell env record prevStatus previousAttention changed id cell).1 with
            sessionName := name },
          (finishCell env record prevStatus previousAttention changed id cell).2) := by
  cases hpreserves : preservesChatCompletion prevStatus record.status previousAttention with
  | true =>
    simp only [finishCell, registerTransition_sessionName, id, hpreserves, if_true]
    rfl
  | false =>
    simp only [finishCell, registerTransition_sessionName, id, hpreserves, Bool.false_eq_true,
      if_false, syncAttentionCompletion_sessionName]
    rfl

theorem seedFresh_existing (existing : AgentInfo) (status : StatusText) (times : AgentTimes) :
    seedFresh (some existing) status times = id := by
  funext cell
  simp [seedFresh]

/-- The cell, but for the session name. -/
def unnamed (cell : AttentionCell) : AttentionCell := { cell with sessionName := "" }

/-- **The cells agree** exactly where both commits move the content revision or neither does, and
with them the transitions. -/
theorem acceptCell_eq_statusCell_iff (now observedAt : Int) (mint : String)
    (title : String → String) (index : Nat) (epoch : Int) (committed incoming : AgentInfo)
    (times : AgentTimes) (cell : AttentionCell) :
    (let poll := acceptCell host (sameDraws now observedAt mint title) index epoch .poll none
        (some committed) incoming times cell
      let event := statusCell host (sameDraws now observedAt mint title) epoch committed.agent
        incoming cell
      unnamed poll.1 = unnamed event.1 ∧ poll.2 = event.2) ↔
      (contentMoved committed incoming || (cell.syncCycle incoming.agentStatus.text mint).2)
        = (decide (cell.prevStatus ≠ incoming.agentStatus.text ∨
              incoming.agent ≠ committed.agent)
            || (cell.syncCycle incoming.agentStatus.text mint).2) := by
  constructor
  · rintro ⟨hcell, -⟩
    have hrev := congrArg AttentionCell.contentRev hcell
    simp only [unnamed] at hrev
    rw [(acceptCell_content host _ index epoch .poll none (some committed) incoming times cell
        rfl).2.2, (statusCell_content host _ epoch committed.agent incoming cell rfl).2.2] at hrev
    have hflag : ∀ a b : Bool, (if a then cell.contentRev + 1 else cell.contentRev)
        = (if b then cell.contentRev + 1 else cell.contentRev) → a = b := by
      intro a b
      cases a <;> cases b <;> simp
    exact hflag _ _ hrev
  · intro hmoved
    rw [acceptCell_eq, statusCell_eq, seedFresh_existing, finishCell_sessionName]
    simp only [stampCell, rowMoved, enterCell, sameDraws, hmoved]
    exact ⟨rfl, rfl⟩

/-- The first half of both commits' times: the row's last update. -/
def restamp (now : Int) (key : ChangeKey) (times : AgentTimes) : AgentTimes :=
  if !times.seen || decide (times.changeKey ≠ key) then
    { times with changeKey := key, updatedAt := now, seen := true }
  else times

/-- The second half: the activity follows the update. -/
def advance (times : AgentTimes) : AgentTimes :=
  if times.lastActiveAt < times.updatedAt then { times with lastActiveAt := times.updatedAt }
  else times

theorem statusTimes_eq (now : Int) (key : ChangeKey) (times : AgentTimes) :
    statusTimes now key times = advance (restamp now key times) := rfl

theorem acceptTimes_eq (now : Int) (initial : Bool) (committed incoming : AgentInfo)
    (key : ChangeKey) (times : AgentTimes) :
    acceptTimes now initial (some committed) incoming key times
      = if committed.agentStatus ≠ incoming.agentStatus ∨
            committed.stateChangeSeq ≠ incoming.stateChangeSeq then
          advance (restamp now key times)
        else restamp now key times := by
  by_cases hactive : committed.agentStatus ≠ incoming.agentStatus ∨
      committed.stateChangeSeq ≠ incoming.stateChangeSeq
  · rw [if_pos hactive]
    simp only [acceptTimes, Option.isNone_some, Bool.false_eq_true, if_false,
      decide_eq_true hactive, Bool.true_and, decide_eq_true_eq]
    rfl
  · rw [if_neg hactive]
    simp only [acceptTimes, Option.isNone_some, Bool.false_eq_true, if_false,
      decide_eq_false hactive, Bool.false_and]
    rfl

/-- The last update of a row with this key: it stays while the key does, and is now otherwise. -/
def lastUpdate (now : Int) (key : ChangeKey) (times : AgentTimes) : Int :=
  if times.seen = true ∧ times.changeKey = key then times.updatedAt else now

theorem restamp_lastActiveAt (now : Int) (key : ChangeKey) (times : AgentTimes) :
    (restamp now key times).lastActiveAt = times.lastActiveAt := by
  unfold restamp
  split <;> rfl

theorem restamp_updatedAt (now : Int) (key : ChangeKey) (times : AgentTimes) :
    (restamp now key times).updatedAt = lastUpdate now key times := by
  unfold restamp lastUpdate
  by_cases hseen : times.seen = true <;> by_cases hkey : times.changeKey = key <;>
    simp [hseen, hkey]

theorem advance_updatedAt (times : AgentTimes) : (advance times).updatedAt = times.updatedAt := by
  unfold advance
  split <;> rfl

theorem advance_lastActiveAt (times : AgentTimes) :
    (advance times).lastActiveAt = max times.lastActiveAt times.updatedAt := by
  unfold advance
  split <;> simp only [max_def] <;> split <;> omega

/-- **The times agree** exactly where the update does and, with the status as it was, there is no
activity to move. -/
theorem acceptTimes_eq_statusTimes_iff (now : Int) (initial : Bool)
    (committed incoming : AgentInfo) (hseq : committed.stateChangeSeq = incoming.stateChangeSeq)
    (key key' : ChangeKey) (times : AgentTimes) :
    ((acceptTimes now initial (some committed) incoming key times).updatedAt
        = (statusTimes now key' times).updatedAt ∧
      (acceptTimes now initial (some committed) incoming key times).lastActiveAt
        = (statusTimes now key' times).lastActiveAt) ↔
      lastUpdate now key times = lastUpdate now key' times ∧
        (incoming.agentStatus = committed.agentStatus →
          lastUpdate now key' times ≤ times.lastActiveAt) := by
  rw [acceptTimes_eq, statusTimes_eq, advance_updatedAt, advance_lastActiveAt, restamp_updatedAt,
    restamp_lastActiveAt]
  by_cases hstatus : incoming.agentStatus = committed.agentStatus
  · -- the accept does not look at the activity
    rw [if_neg (by rintro (hne | hne) <;> [exact hne hstatus.symm; exact hne hseq]),
      restamp_updatedAt, restamp_lastActiveAt, left_eq_sup]
    exact and_congr_right fun _ => ⟨fun h _ => h, fun h => h hstatus⟩
  · rw [if_pos (.inl (Ne.symm hstatus)), advance_updatedAt, advance_lastActiveAt,
      restamp_updatedAt, restamp_lastActiveAt]
    refine and_congr_right fun hupdate => ?_
    rw [hupdate]
    exact iff_of_true rfl fun h => absurd h hstatus

/-! ## §2 — the two commits -/

/-- The committed snapshot with the row of a payload rewritten by it. -/
def sampled (payload : StatusChanged) : SessionSnapshot :=
  { t.snapshot with agents := t.statusRows payload }

def statusKey (payload : StatusChanged) (committed : AgentInfo) : ChangeKey :=
  .of (statusRow payload committed) (t.statusScroll payload.paneId)

def statusView (env : CommitEnv) (payload : StatusChanged) (committed : AgentInfo) : PaneView :=
  let result := statusCell host env (t.revision + 1 : Nat) committed.agent
    (statusRow payload committed) (ledger.cells payload.paneId)
  { cell := result.1
    generation := t.generations payload.paneId
    times := statusTimes env.now (t.statusKey payload committed) (t.agentTimes payload.paneId)
    transitions := result.2 }

/-- The key of the row as a poll reads it, with the scroll offset of the last pane record. -/
def sampledKey (payload : StatusChanged) (committed : AgentInfo) : ChangeKey :=
  .of (statusRow payload committed)
    (((paneRecord t.snapshot.panes payload.paneId).bind (·.scroll)).getD 0)

/-- A commit of this status moves the attention: it enters a blocked cycle or leaves one. -/
def CycleMoves (status : StatusText) (details : BlockedDetails) : Prop :=
  if status = .blocked then details.kind = none ∨ details.eventId = "" else details ≠ {}

instance (status : StatusText) (details : BlockedDetails) : Decidable (CycleMoves status details) :=
  inferInstanceAs (Decidable
    (if status = .blocked then details.kind = none ∨ details.eventId = "" else details ≠ {}))

theorem syncCycle_iff (status : StatusText) (mint : String) (cell : AttentionCell) :
    (cell.syncCycle status mint).2 = true ↔ CycleMoves status cell.blocked := by
  unfold AttentionCell.syncCycle CycleMoves
  by_cases hstatus : status = .blocked
  · simp [hstatus]
  · simp [hstatus, AttentionCell.clearBlocked]

/-- **When the event and the sample agree.** For the content revision: the attention moves, or the
agent does, or the status of the row differs from the committed one just if the displayed one
differs from the one the cell saw last. For the times: the row's last update is the same with the
scroll offset of the pane's first record and of its last, and a payload that leaves the status finds
an activity time that is not before it. -/
structure Agrees (now : Int) (payload : StatusChanged) (committed : AgentInfo) : Prop where
  content : CycleMoves payload.agentStatus.text (ledger.cells payload.paneId).blocked ∨
    (statusRow payload committed).agent ≠ committed.agent ∨
    (payload.agentStatus = committed.agentStatus ↔
      (ledger.cells payload.paneId).prevStatus = payload.agentStatus.text)
  update : lastUpdate now (t.sampledKey payload committed) (t.agentTimes payload.paneId)
    = lastUpdate now (t.statusKey payload committed) (t.agentTimes payload.paneId)
  activity : payload.agentStatus = committed.agentStatus →
    lastUpdate now (t.statusKey payload committed) (t.agentTimes payload.paneId)
      ≤ (t.agentTimes payload.paneId).lastActiveAt

variable {host t ledger} {now : Int} {payload : StatusChanged} {committed : AgentInfo}

/-- The two content comparisons, on the row a payload rewrites. -/
theorem moved_eq_iff (cell : AttentionCell) (mint : String) :
    ((contentMoved committed (statusRow payload committed)
          || (cell.syncCycle payload.agentStatus.text mint).2)
        = (decide (cell.prevStatus ≠ payload.agentStatus.text ∨
              (statusRow payload committed).agent ≠ committed.agent)
            || (cell.syncCycle payload.agentStatus.text mint).2)) ↔
      CycleMoves payload.agentStatus.text cell.blocked ∨
        (statusRow payload committed).agent ≠ committed.agent ∨
        (payload.agentStatus = committed.agentStatus ↔
          cell.prevStatus = payload.agentStatus.text) := by
  have hmoved : contentMoved committed (statusRow payload committed)
      = decide (payload.agentStatus ≠ committed.agentStatus ∨
          (statusRow payload committed).agent ≠ committed.agent) := by
    unfold contentMoved
    rw [decide_eq_decide, ne_comm, ne_comm (b := (statusRow payload committed).agent)]
    simp [statusRow]
  rw [hmoved, ← syncCycle_iff _ mint]
  cases (cell.syncCycle payload.agentStatus.text mint).2 with
  | true => simp
  | false =>
    by_cases hagent : (statusRow payload committed).agent = committed.agent
    · simp [hagent, decide_eq_decide]
    · simp [hagent]

section

variable (honce : (t.snapshot.agents.map (·.paneId)).count payload.paneId ≤ 1)
  (hrow : t.paneOf payload.paneId = some committed)
include honce hrow

/-- An accept goes on from the committed row: the payload keeps its identity. -/
theorem sampled_existingRow :
    t.replaces (statusRow payload committed) = false ∧
      t.existingRow (statusRow payload committed) = some committed := by
  have hold : t.oldRow (statusRow payload committed).paneId = some committed := by
    rw [statusRow_paneId, show committed.paneId = payload.paneId from Keyed.key_of_lookup hrow]
    exact (Keyed.lookup_reverse honce).trans hrow
  have hsame : paneSessionReplaced committed (statusRow payload committed) = false := by
    rw [paneSessionReplaced_eq_false_iff]
    intro f _ _
    exact (statusRow_identity payload committed f).symm
  have hreplaces : t.replaces (statusRow payload committed) = false := by
    rw [replaces, hold]
    exact hsame
  refine ⟨hreplaces, ?_⟩
  rw [Topology.existingRow, hreplaces, if_neg Bool.false_ne_true, hold]

end

theorem lookup_statusRow (hrow : t.paneOf payload.paneId = some committed) :
    Keyed.lookup AgentInfo.paneId payload.paneId (t.statusRows payload)
      = some (statusRow payload committed) := by
  refine (t.lookup_statusRows payload payload.paneId).trans ?_
  rw [if_pos rfl, hrow]
  rfl

/-- The poll samples the rewritten row at some place, and commits it. -/
theorem sampled_row (host : Host) (ledger : Ledger)
    (hrow : t.paneOf payload.paneId = some committed) (env : CommitEnv) :
    (∃ index, (statusRow payload committed, index) ∈ t.incomingRows (t.sampled payload) .poll) ∧
      (t.acceptEnriched host ledger env (t.sampled payload) (fun _ => none) .poll).1.paneOf
        payload.paneId = some (statusRow payload committed) := by
  refine ⟨t.exists_mem_incomingRows (t.sampled payload) .poll
    (Keyed.mem_of_lookup (lookup_statusRow hrow)), ?_⟩
  have hagents : (t.sampled payload).agents.map (t.preserveStatus .poll)
      = (t.sampled payload).agents := List.map_id' _
  show Keyed.lookup AgentInfo.paneId payload.paneId
    ((t.sampled payload).agents.map (t.preserveStatus .poll)) = _
  rw [hagents]
  exact lookup_statusRow hrow

section

variable {env : CommitEnv} {event : Topology × Ledger × AcceptOutcome}
  (hrow : t.paneOf payload.paneId = some committed)
  (h : t.commitAgentStatus host ledger env payload = some event)
include hrow h

theorem event_row :
    event.1.paneOf payload.paneId = some (statusRow payload committed) := by
  obtain ⟨committed', hrow', -, rfl⟩ := t.commitAgentStatus_eq_some host ledger env h
  exact lookup_statusRow hrow

theorem resultView_event :
    resultView payload.paneId event = t.statusView host ledger env payload committed := by
  obtain ⟨committed', hrow', -, rfl⟩ := t.commitAgentStatus_eq_some host ledger env h
  obtain rfl := Option.some.inj (hrow.symm.trans hrow')
  have hid : committed.paneId = payload.paneId := Keyed.key_of_lookup hrow
  have htransitions : (t.statusView host ledger env payload committed).transitions.filter
      (·.paneId = payload.paneId) =
        (t.statusView host ledger env payload committed).transitions := by
    rw [List.filter_eq_self, statusView, statusCell_eq]
    intro x hx
    exact decide_eq_true ((finishCell_paneId env _ _ _ _ _ _ x hx).trans hid)
  simp only [statusView] at htransitions ⊢
  simp only [resultView, Ledger.setCell_cells, if_true, Function.update_self, htransitions]
  rfl

end

/-- **The pane after the poll**: the turn of the rewritten row, from the committed one. -/
theorem resultView_poll (host : Host) (ledger : Ledger)
    (honce : (t.snapshot.agents.map (·.paneId)).count payload.paneId ≤ 1)
    (hrow : t.paneOf payload.paneId = some committed) (env : CommitEnv) :
    ∃ index,
      let times := acceptTimes env.now (decide (t.acceptedAt = 0)) (some committed)
        (statusRow payload committed) (t.sampledKey payload committed) (t.agentTimes payload.paneId)
      let result := acceptCell host env index (t.revision + 1 : Nat) .poll none (some committed)
        (statusRow payload committed) times (ledger.cells payload.paneId)
      resultView payload.paneId (t.acceptEnriched host ledger env (t.sampled payload)
          (fun _ => none) .poll)
        = { cell := result.1, generation := t.generations payload.paneId, times
            transitions := result.2 } := by
  have hid : (statusRow payload committed).paneId = payload.paneId := by
    rw [statusRow_paneId]
    exact Keyed.key_of_lookup hrow
  obtain ⟨⟨index, hmem⟩, -⟩ := sampled_row host ledger hrow env
  obtain ⟨hreplaces, hexisting⟩ := sampled_existingRow honce hrow
  have hlisted : ((t.sampled payload).agents.map (·.paneId)).count
      (statusRow payload committed).paneId ≤ 1 := by
    rw [hid]
    unfold sampled statusRows
    rw [Keyed.map_update (statusRow_paneId payload)]
    exact honce
  have hview := t.resultView_of_row host ledger env (t.sampled payload) (fun _ => none) .poll
    hlisted hmem
  simp only [hid] at hview
  refine ⟨index, hview.trans ?_⟩
  have hgeneration : t.acceptGeneration (statusRow payload committed)
      (t.generations payload.paneId) = t.generations payload.paneId := by
    rw [acceptGeneration, hreplaces, hexisting]
    rfl
  simp only [acceptPane, acceptPaneCell, acceptPaneTimes, hreplaces, hexisting,
    Bool.false_eq_true, if_false, paneView, List.nil_append, hgeneration, hid]
  rfl

/-- **An event commit against the sample commit.** For a pane with one row, and a payload that moves
something in it: a status event and a poll of the snapshot with just that row rewritten lead to the
same row, to the same cell but for the session name, to the same times and to the same transitions
for the pane exactly where the two agree. -/
theorem commitAgentStatus_eq_poll
    (honce : (t.snapshot.agents.map (·.paneId)).count payload.paneId ≤ 1)
    (hrow : t.paneOf payload.paneId = some committed)
    (hmoves : payload.repeats committed = false) (observedAt : Int) (mint : String)
    (title : String → String) :
    ∃ event, t.commitAgentStatus host ledger (sameDraws now observedAt mint title) payload
        = some event ∧
      let poll := t.acceptEnriched host ledger (sameDraws now observedAt mint title)
        (t.sampled payload) (fun _ => none) .poll
      ((poll.1.paneOf payload.paneId = event.1.paneOf payload.paneId ∧
        unnamed (poll.2.1.cells payload.paneId) = unnamed (event.2.1.cells payload.paneId) ∧
        (poll.1.agentTimes payload.paneId).updatedAt
          = (event.1.agentTimes payload.paneId).updatedAt ∧
        (poll.1.agentTimes payload.paneId).lastActiveAt
          = (event.1.agentTimes payload.paneId).lastActiveAt ∧
        poll.2.2.transitions.filter (·.paneId = payload.paneId)
          = event.2.2.transitions.filter (·.paneId = payload.paneId)) ↔
        t.Agrees ledger now payload committed) := by
  obtain ⟨event, hevent⟩ := Option.isSome_iff_exists.mp
    (t.commitAgentStatus_isSome host ledger (sameDraws now observedAt mint title) hrow hmoves)
  refine ⟨event, hevent, ?_⟩
  intro poll
  obtain ⟨-, hpollRow⟩ := sampled_row host ledger hrow (sameDraws now observedAt mint title)
  obtain ⟨index, hpoll⟩ := resultView_poll host ledger honce hrow
    (sameDraws now observedAt mint title)
  have hview := resultView_event hrow hevent
  have htimes := acceptTimes_eq_statusTimes_iff now (decide (t.acceptedAt = 0)) committed
    (statusRow payload committed) rfl (t.sampledKey payload committed)
    (t.statusKey payload committed) (t.agentTimes payload.paneId)
  have hcells := (acceptCell_eq_statusCell_iff host now observedAt mint title index
    (t.revision + 1 : Nat) committed (statusRow payload committed)
    (acceptTimes now (decide (t.acceptedAt = 0)) (some committed) (statusRow payload committed)
      (t.sampledKey payload committed) (t.agentTimes payload.paneId))
    (ledger.cells payload.paneId)).trans (moved_eq_iff (ledger.cells payload.paneId) mint)
  have hpollCell : poll.2.1.cells payload.paneId = _ := congrArg PaneView.cell hpoll
  have hpollTimes : poll.1.agentTimes payload.paneId = _ := congrArg PaneView.times hpoll
  have hpollTransitions : poll.2.2.transitions.filter (·.paneId = payload.paneId) = _ :=
    congrArg PaneView.transitions hpoll
  have hcell : event.2.1.cells payload.paneId = _ := congrArg PaneView.cell hview
  have heventTimes : event.1.agentTimes payload.paneId = _ := congrArg PaneView.times hview
  have htransitions : event.2.2.transitions.filter (·.paneId = payload.paneId) = _ :=
    congrArg PaneView.transitions hview
  rw [hpollCell, hpollTimes, hpollTransitions, hcell, heventTimes, htransitions]
  constructor
  · rintro ⟨-, hsame, hupdated, hactive, hemitted⟩
    obtain ⟨hupdate, hactivity⟩ := htimes.mp ⟨hupdated, hactive⟩
    exact ⟨hcells.mp ⟨hsame, hemitted⟩, hupdate, hactivity⟩
  · intro h
    obtain ⟨hsame, hemitted⟩ := hcells.mpr h.content
    obtain ⟨hupdated, hactive⟩ := htimes.mpr ⟨h.update, h.activity⟩
    exact ⟨hpollRow.trans (event_row hrow hevent).symm, hsame, hupdated, hactive, hemitted⟩

/-! ## §3 — a status, and a title -/

/-- A poll of one idle pane under a name. -/
def namedPoll (now : Int) (name : String) : SystemEvent :=
  .accept { now }
    { agents := [{ paneId := "w1:p1", terminalId := "t1", name, agentStatus := .idle }] }
    (fun _ => none) .poll

/-- The pane was renamed by the last poll, with no activity. -/
def renamed : System := System.after System.plainHost [namedPoll 1 "a", namedPoll 2 "b"] 2

/-- The pane starts working: the event and the sample agree. -/
theorem commitAgentStatus_eq_poll_working :
    ∃ event, renamed.topology.commitAgentStatus System.plainHost renamed.ledger
        (sameDraws 3 3 "e1" fun _ => "") { paneId := "w1:p1", agentStatus := .working }
          = some event ∧
      unnamed ((renamed.topology.acceptEnriched System.plainHost renamed.ledger
          (sameDraws 3 3 "e1" fun _ => "")
          (renamed.topology.sampled { paneId := "w1:p1", agentStatus := .working })
          (fun _ => none) .poll).2.1.cells "w1:p1")
        = unnamed (event.2.1.cells "w1:p1") := by
  have hrow : renamed.topology.paneOf "w1:p1" = some
      { paneId := "w1:p1", terminalId := "t1", name := "b", agentStatus := .idle } := by
    decide +kernel
  obtain ⟨event, hevent, hiff⟩ := @commitAgentStatus_eq_poll System.plainHost
    renamed.topology renamed.ledger 3 { paneId := "w1:p1", agentStatus := .working } _
    (by decide +kernel) hrow (by decide +kernel) 3 "e1" (fun _ => "")
  obtain ⟨-, hcell, -⟩ := hiff.mpr ⟨by decide +kernel, by decide +kernel, by decide +kernel⟩
  exact ⟨event, hevent, hcell⟩

/-- **A title moves the activity time of the event, not of the sample.** -/
theorem title_event_moves_activity :
    let payload : StatusChanged :=
      { paneId := "w1:p1", agentStatus := .idle, title := some "build" }
    let env := sameDraws 3 3 "e1" fun _ => ""
    (renamed.topology.commitAgentStatus System.plainHost renamed.ledger env payload).map
        (fun event => (event.1.agentTimes "w1:p1").lastActiveAt) = some 2 ∧
      ((renamed.topology.acceptEnriched System.plainHost renamed.ledger env
        (renamed.topology.sampled payload) (fun _ => none) .poll).1.agentTimes
          "w1:p1").lastActiveAt = 0 := by
  decide +kernel

end Topology

end Lerdr.Coord
