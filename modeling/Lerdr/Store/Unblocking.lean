/-
# Lerdr.Store.Unblocking — a client leaves the blocked state with the relay.

The relay's row of a pane that is not blocked carries nothing of a block: leaving the status clears
the cell. The relay sends a changed row once. The client believes the first such row only if its own
row is not blocked, or the user has answered it, or it has seen such a row before; otherwise it
keeps the block, and no further frame comes that would end it.
-/
import Lerdr.Coord.Content
import Lerdr.Coord.Forwarder
import Lerdr.Store.AgentStore

namespace Lerdr.Coord

open Lib

/-! ## §1 — the relay's rows -/

/-- The row carries nothing of a block. -/
structure AgentState.Quiet (row : AgentState) : Prop where
  attentionKind : row.attentionKind = none
  prompt : row.prompt = ""
  command : row.command = ""
  options : row.options = []
  approvalFingerprint : row.approvalFingerprint = ""
  interaction : row.interaction = none
  questionLayout : row.questionLayout = false

namespace Topology

theorem syncCycle_blocked_of_ne {status : StatusText} (h : status ≠ .blocked) (mint : String)
    (cell : AttentionCell) : (cell.syncCycle status mint).1.blocked = {} := by
  rw [AttentionCell.syncCycle, if_pos h]
  rfl

/-- An accept clears the block of a pane that is not blocked. -/
theorem acceptCell_blocked_of_ne (host : Host) (env : CommitEnv) (index : Nat) (epoch : Int)
    (kind : CommitKind) (enrichment : Option Classification) (existing : Option AgentInfo)
    {incoming : AgentInfo} (times : AgentTimes) (cell : AttentionCell)
    (h : incoming.agentStatus.text ≠ .blocked) :
    (acceptCell host env index epoch kind enrichment existing incoming times cell).1.blocked
      = {} := by
  have hentered : (enterCell host env index kind enrichment existing incoming cell).1.blocked
      = {} := by
    have hcleared := syncCycle_blocked_of_ne h (env.mint index) cell
    cases enrichment with
    | none => exact hcleared
    | some c =>
      simp only [enterCell]
      rw [if_neg fun hadopts => h hadopts.1]
      exact hcleared
  rw [acceptCell_eq]
  have hsame := sameContent_finishCell env (rowRecord host env index epoch incoming) cell.prevStatus
    cell.blocked.kind (enterCell host env index kind enrichment existing incoming cell).2
    (sameContent_seedFresh existing incoming.agentStatus.text times)
  exact (hsame _).blocked.trans hentered

theorem statusCell_blocked_of_ne (host : Host) (env : CommitEnv) (epoch : Int)
    (prevAgent : Option String) {incoming : AgentInfo} (cell : AttentionCell)
    (h : incoming.agentStatus.text ≠ .blocked) :
    (statusCell host env epoch prevAgent incoming cell).1.blocked = {} := by
  rw [statusCell_eq]
  exact (sameContent_finishCell env _ _ _ _ AttentionCell.SameContent.refl _).blocked.trans
    (syncCycle_blocked_of_ne h (env.mint 0) cell)

end Topology

namespace System

/-- The cell of a pane that is not blocked carries nothing of a block. -/
def Quiet (s : System) : Prop :=
  ∀ p, ∀ row ∈ s.row p, row.agentStatus.text ≠ .blocked → (s.cell p).blocked = {}

/-- Snapshots list each pane once, and a classification names the event it belongs to. -/
def Named (_ : System) : SystemEvent → Prop
  | .accept _ snapshot _ _ => snapshot.Once
  | .attention _ _ eventId _ _ _ => eventId ≠ ""
  | _ => True

instance (s : System) : (e : SystemEvent) → Decidable (s.Named e)
  | .accept _ snapshot _ _ => inferInstanceAs (Decidable snapshot.Once)
  | .attention _ _ eventId _ _ _ => inferInstanceAs (Decidable (eventId ≠ ""))
  | .status .. | .bump .. | .markStale | .inventoryFailed .. | .republish | .publish
  | .acknowledge .. => .isTrue trivial

variable {host : Host} {s : System} {e : SystemEvent} {p : String}

theorem Named.once (h : s.Named e) : e.Once := by
  cases e with
  | accept env snapshot enrichments kind => exact h
  | _ => trivial

/-- A classification that moves a cell finds its event there. -/
theorem Named.blocked_ne (h : s.Named e) (hmoves : p ∈ s.classifies host e) :
    (s.cell p).blocked ≠ {} := by
  cases e with
  | attention view paneId eventId generation contentRev c =>
    obtain ⟨t, -, ht⟩ := Option.bind_eq_some_iff.mp hmoves
    obtain ⟨hfences, hid⟩ := Option.ite_none_right_eq_some.mp ht
    obtain rfl := Option.some.inj hid
    simp only [Topology.movesAttention, Bool.and_eq_true, decide_eq_true_eq] at hfences
    obtain ⟨⟨⟨-, hevent⟩, -⟩, -⟩ := hfences
    intro hempty
    have hnone : (s.ledger.cells paneId).blocked = {} := hempty
    rw [hnone] at hevent
    exact h hevent.symm
  | _ => cases hmoves

theorem Quiet.step (h : s.Quiet) (he : s.Named e) : (s.step host e).Quiet := by
  intro p row hrow hstatus
  cases step_pane host s he.once p with
  | sampled _ _ _ hrow' hcell _ _ =>
    obtain rfl := Option.mem_unique hrow hrow'
    rw [hcell]
    exact Topology.acceptCell_blocked_of_ne host _ _ _ _ _ _ _ _ hstatus
  | removed _ _ _ hrow' _ _ _ =>
    rw [hrow'] at hrow
    cases hrow
  | rewritten _ _ hrow' hcell _ _ =>
    obtain rfl := Option.mem_unique hrow hrow'
    rw [hcell]
    exact Topology.statusCell_blocked_of_ne host _ _ _ _ hstatus
  | classified hmoves hrow' _ _ _ _ =>
    -- the cell carries an event, so the pane is blocked
    rw [hrow'] at hrow
    exact absurd (h p row hrow hstatus) (he.blocked_ne hmoves)
  | @acknowledged status lastActiveAt now hrow' hcell _ _ =>
    rw [hrow'] at hrow
    rw [hcell, (AttentionCell.sameContent_acknowledge status lastActiveAt now (s.cell p)).blocked]
    exact h p row hrow hstatus
  | bumped _ hrow' hcell _ _ =>
    rw [hrow'] at hrow
    rw [hcell]
    exact h p row hrow hstatus
  | kept hrow' hcell _ _ =>
    rw [hrow'] at hrow
    have hblocked := h p row hrow hstatus
    obtain ⟨interaction, hid, hcell⟩ := hcell
    rw [hblocked, Option.map_none, Option.map_eq_none_iff] at hid
    rw [hcell, AttentionCell.ask, hid, hblocked]

/-- The rows that the topology and its ledger project. -/
def rows (s : System) : List AgentState := s.topology.agents s.ledger

theorem exists_info_of_mem_rows {row : AgentState} (h : row ∈ s.rows) :
    ∃ info ∈ s.topology.snapshot.agents, s.topology.agentState s.ledger info = row :=
  List.mem_map.mp ((List.perm_insertionSort _ _).mem_iff.mp h)

/-- **The row of a pane that is not blocked carries nothing of a block.** -/
theorem Quiet.rows (h : s.Quiet) (honce : s.Once) {row : AgentState} (hrow : row ∈ s.rows)
    (hstatus : row.status ≠ .blocked) : row.Quiet := by
  obtain ⟨info, hinfo, rfl⟩ := exists_info_of_mem_rows hrow
  have hcommitted : s.row info.paneId = some info := Keyed.lookup_of_mem honce hinfo
  have htext : info.agentStatus.text ≠ .blocked := by
    intro htext
    apply hstatus
    show (s.ledger.cells info.paneId).displayedStatus info.agentStatus.text = _
    rw [htext]
    rfl
  have hcell : (s.ledger.cells info.paneId).blocked = {} := h _ info hcommitted htext
  constructor <;> simp only [Topology.agentState, hcell]

theorem Once.rows (h : s.Once) : (s.rows.map (·.paneId)).Nodup := by
  have hperm := (List.perm_insertionSort (fun a b : AgentState => a.paneId ≤ b.paneId)
    (s.topology.snapshot.agents.map (s.topology.agentState s.ledger))).map AgentState.paneId
  refine hperm.nodup_iff.mpr ?_
  rw [List.map_map]
  exact h

theorem quiet_after {events : List SystemEvent} (h : Each host Named events) (k : Nat) :
    (after host events k).Quiet ∧ (after host events k).Once := by
  refine ⟨?_, h.once (fun _ _ he => he.once) k⟩
  refine h.since (fun _ _ hs he => hs.step he) (Nat.zero_le k) ?_
  intro p row hrow
  cases hrow

end System

end Lerdr.Coord

namespace Lerdr.Store

open Coord

/-! ## §2 — what the client makes of them -/

theorem clientPaneId_inj {relayId a b : String}
    (h : clientPaneId relayId a = clientPaneId relayId b) : a = b := by
  have hlist := congrArg String.toList h
  simp only [clientPaneId, String.toList_append] at hlist
  exact String.toList_inj.mp (List.append_cancel_left hlist)

theorem not_rawBlocked {status : StatusText} (h : status ≠ .blocked) :
    rawBlocked (some status) = false := by
  rw [rawBlocked, decide_eq_false_iff_not]
  exact fun hblocked => h (Option.some.inj hblocked)

/-- A quiet row of the relay stands for an unblocked row of the client. -/
theorem normalizeAgent_unblocked {row : AgentState} (hquiet : row.Quiet)
    (hstatus : row.status ≠ .blocked) (relayId : String) (capable : Bool) :
    (AgentRow.normalizeAgent relayId (.ofState row) capable).Unblocked row.status := by
  have hraw := not_rawBlocked hstatus
  constructor <;>
    simp [AgentRow.normalizeAgent, AgentRow.normalizeAgentAttention, AgentPatch.ofState, hraw,
      present, hquiet.prompt, hquiet.command]

theorem normalizeAgent_paneRevision (relayId : String) (patch : AgentPatch) (capable : Bool) :
    (AgentRow.normalizeAgent relayId patch capable).paneRevision = patch.paneRevision := by
  simp only [AgentRow.normalizeAgent, AgentRow.normalizeAgentAttention]
  split <;> rfl

theorem updateRow_unblocked (s : AgentStore) (relayId : String) {message : AgentUpdateMessage}
    {status : StatusText} (hmessage : message.status = some status) (hstatus : status ≠ .blocked)
    (capable : Bool) :
    (s.updateRow relayId message capable).Unblocked status ∧
      (s.updateRow relayId message capable).paneRevision = message.paneRevision := by
  have hraw := not_rawBlocked hstatus
  have hpatch : ∀ before, AgentStore.updatePatch before message = .ofUpdate message := by
    intro before
    cases before with
    | none => rfl
    | some row => simp only [AgentStore.updatePatch, hmessage, hraw, Bool.false_and,
        Bool.false_eq_true, if_false]
  rw [AgentStore.updateRow, hpatch, normalizeAgent_paneRevision]
  refine ⟨?_, rfl⟩
  constructor <;>
    simp [AgentRow.normalizeAgent, AgentRow.normalizeAgentAttention, AgentPatch.ofUpdate, hmessage,
      hraw]

/-- The update that follows an acknowledgement (`actions/mod.rs`). -/
def acknowledgedUpdate (row : AgentState) : AgentUpdateMessage where
  paneId := row.paneId
  status := some row.status
  paneRevision := some row.paneRevision

/-- The frames in which the relay shows a row, with the revision each carries: the snapshot and the
full inventory, the diff of a commit, and the update that follows an acknowledgement. -/
inductive Shows (s : System) (relayId : String) (row : AgentState) :
    AgentStore.Op → Option Int → Prop
  | inventory (capable : Bool) :
      Shows s relayId row (.agents relayId s.rows capable) (present 0 row.paneRevision)
  | diff (capable : Bool) :
      Shows s relayId row (.agents relayId (s.rows.map AgentState.unrevised) capable) none
  | update (capable : Bool) :
      Shows s relayId row (.agentUpdate relayId (acknowledgedUpdate row) capable)
        (some row.paneRevision)

theorem mergeSnapshot_unblocked {s : AgentStore} (hs : s.Once) {relayId : String}
    {rows : List AgentState} (honce : (rows.map (·.paneId)).Nodup) {row : AgentState}
    (hrow : row ∈ rows) (hquiet : row.Quiet) (hstatus : row.status ≠ .blocked)
    (hbelieves : s.Believes (clientPaneId relayId row.paneId) (present 0 row.paneRevision))
    (capable : Bool) :
    ∃ agent, (s.mergeSnapshot relayId rows capable).agentNow (clientPaneId relayId row.paneId)
      = some agent ∧ agent.Unblocked row.status := by
  have hids : (rows.map fun row => clientPaneId relayId row.paneId).Nodup := by
    have hmap := honce.map (f := clientPaneId relayId) fun _ _ h => clientPaneId_inj h
    rwa [List.map_map] at hmap
  refine ⟨_, AgentStore.agentNow_mergeSnapshot hs capable hids hrow, ?_⟩
  refine AgentStore.Believes.unblocked ?_ hstatus (normalizeAgent_unblocked hquiet hstatus _ _)
  rw [normalizeAgent_paneRevision]
  exact hbelieves

/-- **The client leaves the blocked state with the relay.** Whatever the store has processed: if the
last frame shows the pane with a status that is not blocked, and the store believes it, the store's
row shows that status and nothing of a block. -/
theorem client_leaves_blocked (host : Host) {events : List SystemEvent}
    (hnamed : System.Each host System.Named events) (k : Nat) (ops : List AgentStore.Op)
    {relayId : String} {row : AgentState} (hrow : row ∈ (System.after host events k).rows)
    (hstatus : row.status ≠ .blocked) {op : AgentStore.Op} {revision : Option Int}
    (hlast : Shows (System.after host events k) relayId row op revision)
    (hbelieves : (AgentStore.after ops).Believes (clientPaneId relayId row.paneId) revision) :
    ∃ agent, (AgentStore.after (ops ++ [op])).agentNow (clientPaneId relayId row.paneId)
      = some agent ∧ agent.Unblocked row.status := by
  obtain ⟨hquiet, honce⟩ := System.quiet_after hnamed k
  have hs := AgentStore.once_after ops
  rw [AgentStore.after, List.foldl_append]
  show ∃ agent, ((AgentStore.after ops).step op).agentNow _ = _ ∧ _
  cases hlast with
  | inventory capable =>
    exact mergeSnapshot_unblocked hs honce.rows hrow (hquiet.rows honce hrow hstatus) hstatus
      hbelieves capable
  | diff capable =>
    have hids : ((System.after host events k).rows.map AgentState.unrevised).map (·.paneId)
        = (System.after host events k).rows.map (·.paneId) := by
      rw [List.map_map]
      rfl
    have hunrevised : row.unrevised.Quiet := by
      obtain ⟨h₁, h₂, h₃, h₄, h₅, h₆, h₇⟩ := hquiet.rows honce hrow hstatus
      exact ⟨h₁, h₂, h₃, h₄, h₅, h₆, h₇⟩
    have hmem : row.unrevised ∈ (System.after host events k).rows.map AgentState.unrevised :=
      List.mem_map_of_mem hrow
    exact mergeSnapshot_unblocked hs (by rw [hids]; exact honce.rows) hmem hunrevised hstatus
      hbelieves capable
  | update capable =>
    have hmessage : (acknowledgedUpdate row).status = some row.status := rfl
    obtain ⟨hnext, hrevision⟩ := updateRow_unblocked (AgentStore.after ops) relayId hmessage hstatus
      capable
    refine ⟨_, AgentStore.agentNow_applyAgentUpdate hs ?_, ?_⟩
    · rw [AgentRow.stale, AgentRow.guarded, hrevision]
      exact hbelieves.fresh
    · refine AgentStore.Believes.unblocked ?_ hstatus hnext
      rw [hrevision]
      exact hbelieves

/-- The relay after some polls of one pane. -/
def polledSystem (statuses : List AgentStatus) : System :=
  System.after System.plainHost (statuses.map statusPoll) statuses.length

def diffOp (statuses : List AgentStatus) : AgentStore.Op :=
  .agents "r" ((polledSystem statuses).rows.map AgentState.unrevised) true

/-- The pane leaves the block, and its status moves once more: the second frame is believed. -/
theorem client_leaves_blocked_second :
    ∃ agent, (AgentStore.after ([diffOp [.blocked], diffOp [.blocked, .working]] ++
        [diffOp [.blocked, .working, .done]])).agentNow (clientPaneId "r" "w1:p1") = some agent ∧
      agent.Unblocked .done := by
  have hnamed : System.Each System.plainHost System.Named
      ([.blocked, .working, .done].map statusPoll) := by
    decide +kernel
  obtain ⟨row, hrow, hid, hstatus⟩ : ∃ row ∈ (System.after System.plainHost
      ([.blocked, .working, .done].map statusPoll) 3).rows,
      row.paneId = "w1:p1" ∧ row.status = .done := by
    decide +kernel
  have hlast : Shows (System.after System.plainHost ([.blocked, .working, .done].map statusPoll) 3)
      "r" row (diffOp [.blocked, .working, .done]) none := Shows.diff true
  have hbelieves : (AgentStore.after [diffOp [.blocked], diffOp [.blocked, .working]]).Believes
      (clientPaneId "r" "w1:p1") none :=
    ⟨by decide +kernel, by decide +kernel, by decide +kernel⟩
  have hne : row.status ≠ .blocked := by
    rw [hstatus]
    decide
  rw [← hid] at hbelieves ⊢
  rw [← hstatus]
  exact client_leaves_blocked System.plainHost hnamed 3 _ hrow hne hlast hbelieves

/-- **The client stays blocked.** The relay sends the blocked row and then, once, the working one;
the next commit sends nothing. The client's row is still blocked. -/
theorem client_stays_blocked :
    (broadcastDiff (polled [.blocked, .working] ["w1"]) (polled [.blocked] ["w1"]).view).1
        = [.agents ((polledSystem [.blocked, .working]).rows.map AgentState.unrevised)] ∧
      (broadcastDiff (polled [.blocked, .working, .working] ["w1"])
        (polled [.blocked, .working] ["w1"]).view).1 = [] ∧
      (polledSystem [.blocked, .working]).rows.map (·.status) = [.working] ∧
      ((AgentStore.after [diffOp [.blocked], diffOp [.blocked, .working]]).agentNow
        "r::w1:p1").map (fun agent => (agent.status, agent.attentionKind))
        = some (some .blocked, some .unknown) := by
  decide +kernel

end Lerdr.Store
