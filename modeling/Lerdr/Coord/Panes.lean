/-
# Lerdr.Coord.Panes — one pane through a commit.

A commit runs over a whole snapshot, but each turn of its loop touches one pane. Where a snapshot
lists each pane once, what an accept does to a pane is therefore the turn of its own row: the cell,
the generation, the times and the transitions of the pane afterwards are `acceptPane` of those
before. A pane without a row is dropped, if it had one, and left alone otherwise.
-/
import Lerdr.Coord.Revisions

namespace Lerdr.Coord

open Lib

/-- Each pane has one agent row. -/
def SessionSnapshot.Once (s : SessionSnapshot) : Prop := (s.agents.map (·.paneId)).Nodup

instance (s : SessionSnapshot) : Decidable s.Once :=
  inferInstanceAs (Decidable (s.agents.map (·.paneId)).Nodup)

/-! ## §1 — the fields a cell's operations keep -/

namespace AttentionCell

/-- The two cells differ in the marks of a completion only. -/
structure SameContent (cell cell' : AttentionCell) : Prop where
  blocked : cell'.blocked = cell.blocked
  contentRev : cell'.contentRev = cell.contentRev
  prevStatus : cell'.prevStatus = cell.prevStatus

theorem SameContent.refl (cell : AttentionCell) : SameContent cell cell := ⟨rfl, rfl, rfl⟩

theorem SameContent.trans {a b c : AttentionCell} (h : SameContent a b) (h' : SameContent b c) :
    SameContent a c :=
  ⟨h'.blocked.trans h.blocked, h'.contentRev.trans h.contentRev,
    h'.prevStatus.trans h.prevStatus⟩

theorem sameContent_registerTransition (record : PaneTransition) (prev : StatusText)
    (previousAttention : Option AttentionKind) (cell : AttentionCell) :
    SameContent cell (cell.registerTransition record prev previousAttention).1 := by
  simp only [registerTransition]
  split_ifs <;> exact ⟨rfl, rfl, rfl⟩

theorem sameContent_syncAttentionCompletion (previous current : Option AttentionKind)
    (stateRev : Int) (cell : AttentionCell) :
    SameContent cell (cell.syncAttentionCompletion previous current stateRev) := by
  simp only [syncAttentionCompletion]
  split_ifs <;> exact ⟨rfl, rfl, rfl⟩

theorem sameContent_acknowledge (status : StatusText) (lastActiveAt now : Int)
    (cell : AttentionCell) : SameContent cell (cell.acknowledge status lastActiveAt now) := by
  simp only [acknowledge]
  split <;> exact ⟨rfl, rfl, rfl⟩

theorem registerTransition_record (record : PaneTransition) (prev : StatusText)
    (previousAttention : Option AttentionKind) (cell : AttentionCell) :
    (cell.registerTransition record prev previousAttention).2 = none ∨
      (cell.registerTransition record prev previousAttention).2 = some record := by
  simp only [registerTransition]
  split_ifs <;> simp

end AttentionCell

namespace Topology

variable (host : Host) (t : Topology) (ledger : Ledger) (env : CommitEnv)

/-! ## §2 — the pipeline of the two commits -/

/-- The cell after the cycle sync and the enrichment of an accept, and whether its attention
changed. -/
def enterCell (index : Nat) (kind : CommitKind) (enrichment : Option Classification)
    (existing : Option AgentInfo) (incoming : AgentInfo) (cell : AttentionCell) :
    AttentionCell × Bool :=
  let entered := cell.syncCycle incoming.agentStatus.text (env.mint index)
  match enrichment with
  | some c =>
    if incoming.agentStatus.text = StatusText.blocked ∧
        (decide (kind = .poll) || existing.isNone) = true then
      ((entered.1.applyClassification host c).1,
        entered.2 || (entered.1.applyClassification host c).2)
    else entered
  | none => entered

/-- The revisions a commit writes: `moved` says that the content fields differ, `changed` that the
attention does. -/
def stampCell (epoch : Int) (status : StatusText) (moved changed : Bool) (cell : AttentionCell) :
    AttentionCell :=
  { cell with
    contentRev := if moved || changed then cell.contentRev + 1 else cell.contentRev
    attentionRev := if changed then cell.attentionRev + 1 else cell.attentionRev
    stateRev := epoch
    prevStatus := status }

/-- A fresh pane that is already done, or idle. -/
def seedFresh (existing : Option AgentInfo) (status : StatusText) (times : AgentTimes)
    (cell : AttentionCell) : AttentionCell :=
  if existing.isNone && (isDoneStatus status || decide (status = StatusText.idle)) then
    if cell.lastSeenAt < times.lastActiveAt then
      { cell with unseenDone := true, ackDone := false }
    else if isDoneStatus status && decide (0 < times.lastActiveAt ∨ 0 < cell.lastSeenAt) then
      { cell with ackDone := true }
    else cell
  else cell

/-- The end of both commits: transition, seeding, completion sync, refire. -/
def finishCell (record : PaneTransition) (prevStatus : StatusText)
    (previousAttention : Option AttentionKind) (changed : Bool)
    (seed : AttentionCell → AttentionCell) (cell : AttentionCell) :
    AttentionCell × List PaneTransition :=
  let registered := cell.registerTransition record prevStatus previousAttention
  let seeded := seed registered.1
  let settled :=
    if preservesChatCompletion prevStatus record.status previousAttention then seeded
    else seeded.syncAttentionCompletion previousAttention seeded.blocked.kind record.revision
  (settled, registered.2.toList ++
    if refires prevStatus record.status previousAttention changed settled then
      [{ record with observedAt := env.now }]
    else [])

def rowRecord (index : Nat) (epoch : Int) (incoming : AgentInfo) : PaneTransition where
  paneId := incoming.paneId
  agent := incoming.agent.getD ""
  project := projectOf host (incoming.cwd.getD "")
  status := incoming.agentStatus.text
  revision := epoch
  observedAt := env.observedAt index

/-- The content fields of an incoming row differ from those of the row it goes on from. -/
def rowMoved (existing : Option AgentInfo) (incoming : AgentInfo) : Bool :=
  match existing with
  | none => true
  | some e => contentMoved e incoming

theorem acceptCell_eq (index : Nat) (epoch : Int) (kind : CommitKind)
    (enrichment : Option Classification) (existing : Option AgentInfo) (incoming : AgentInfo)
    (times : AgentTimes) (cell : AttentionCell) :
    acceptCell host env index epoch kind enrichment existing incoming times cell
      = finishCell env (rowRecord host env index epoch incoming) cell.prevStatus cell.blocked.kind
          (enterCell host env index kind enrichment existing incoming cell).2
          (seedFresh existing incoming.agentStatus.text times)
          { stampCell epoch incoming.agentStatus.text (rowMoved existing incoming)
              (enterCell host env index kind enrichment existing incoming cell).2
              (enterCell host env index kind enrichment existing incoming cell).1 with
            sessionName := env.title incoming.paneId } := by
  cases enrichment with
  | none => rfl
  | some c => rfl

theorem statusCell_eq (epoch : Int) (prevAgent : Option String) (incoming : AgentInfo)
    (cell : AttentionCell) :
    statusCell host env epoch prevAgent incoming cell
      = finishCell env (rowRecord host env 0 epoch incoming) cell.prevStatus cell.blocked.kind
          (cell.syncCycle incoming.agentStatus.text (env.mint 0)).2 id
          (stampCell epoch incoming.agentStatus.text
            (decide (cell.prevStatus ≠ incoming.agentStatus.text ∨ incoming.agent ≠ prevAgent))
            (cell.syncCycle incoming.agentStatus.text (env.mint 0)).2
            (cell.syncCycle incoming.agentStatus.text (env.mint 0)).1) := rfl

theorem sameContent_seedFresh (existing : Option AgentInfo) (status : StatusText)
    (times : AgentTimes) (cell : AttentionCell) :
    AttentionCell.SameContent cell (seedFresh existing status times cell) := by
  simp only [seedFresh]
  split_ifs <;> exact ⟨rfl, rfl, rfl⟩

section

variable (record : PaneTransition) (prevStatus : StatusText)
  (previousAttention : Option AttentionKind) (changed : Bool)

theorem sameContent_finishCell {seed : AttentionCell → AttentionCell}
    (hseed : ∀ cell, AttentionCell.SameContent cell (seed cell)) (cell : AttentionCell) :
    AttentionCell.SameContent cell
      (finishCell env record prevStatus previousAttention changed seed cell).1 := by
  have hregistered := (AttentionCell.sameContent_registerTransition record prevStatus
    previousAttention cell).trans (hseed _)
  simp only [finishCell]
  split
  · exact hregistered
  · exact hregistered.trans (AttentionCell.sameContent_syncAttentionCompletion _ _ _ _)

theorem finishCell_paneId (seed : AttentionCell → AttentionCell) (cell : AttentionCell) :
    ∀ x ∈ (finishCell env record prevStatus previousAttention changed seed cell).2,
      x.paneId = record.paneId := by
  intro x hx
  simp only [finishCell] at hx
  rcases List.mem_append.mp hx with hx | hx
  · rw [Option.mem_toList] at hx
    rcases cell.registerTransition_record record prevStatus previousAttention with hnone | hsome
    · rw [hnone] at hx
      cases hx
    · rw [hsome] at hx
      cases hx
      rfl
  · obtain ⟨-, hx⟩ := List.mem_ite_nil_right.mp hx
    rw [List.mem_singleton.mp hx]

end

/-! ## §3 — the turn of one row -/

/-- What a commit keeps of one pane, and the transitions it has emitted for it. -/
structure PaneView where
  cell : AttentionCell
  generation : Int
  times : AgentTimes
  transitions : List PaneTransition

/-- The pane in the middle of the row loop. -/
def Accepting.view (p : String) (acc : Accepting) : PaneView where
  cell := acc.ledger.cells p
  generation := acc.generations p
  times := acc.agentTimes p
  transitions := acc.transitions.filter (·.paneId = p)

def resultView (p : String) (result : Topology × Ledger × AcceptOutcome) : PaneView where
  cell := result.2.1.cells p
  generation := result.1.generations p
  times := result.1.agentTimes p
  transitions := result.2.2.transitions.filter (·.paneId = p)

/-- The row replaces the session of the committed one. -/
def replaces (incoming : AgentInfo) : Bool :=
  match t.oldRow incoming.paneId with
  | some e => paneSessionReplaced e incoming
  | none => false

/-- The committed row that the incoming one goes on from. -/
def existingRow (incoming : AgentInfo) : Option AgentInfo :=
  if t.replaces incoming then none else t.oldRow incoming.paneId

/-- The generation of a pane after the turn of its row. -/
def acceptGeneration (incoming : AgentInfo) (generation : Int) : Int :=
  if t.replaces incoming || ((t.existingRow incoming).isNone && !decide (t.acceptedAt = 0) &&
      decide (0 < generation)) then generation + 1
  else generation

/-- The times of a pane after the turn of its row. -/
def acceptPaneTimes (panes : List PaneInfo) (incoming : AgentInfo) (times : AgentTimes) :
    AgentTimes :=
  acceptTimes env.now (decide (t.acceptedAt = 0)) (t.existingRow incoming) incoming
    (.of incoming (((paneRecord panes incoming.paneId).bind (·.scroll)).getD 0)) times

section Row

variable (epoch : Int) (kind : CommitKind) (enrichments : String → Option Classification)
  (panes : List PaneInfo)

def acceptPaneCell (row : AgentInfo × Nat) (v : PaneView) :
    AttentionCell × List PaneTransition :=
  acceptCell host env row.2 epoch kind (enrichments row.1.paneId) (t.existingRow row.1) row.1
    (t.acceptPaneTimes env panes row.1 v.times)
    (if t.replaces row.1 then v.cell.resetOnReplacement else v.cell)

/-- A turn of the row loop, at its own pane. -/
def acceptPane (row : AgentInfo × Nat) (v : PaneView) : PaneView where
  cell := (acceptPaneCell host t env epoch kind enrichments panes row v).1
  generation := t.acceptGeneration row.1 v.generation
  times := t.acceptPaneTimes env panes row.1 v.times
  transitions := v.transitions ++ (acceptPaneCell host t env epoch kind enrichments panes row v).2

/-- The turn of the row loop, by its parts. -/
theorem acceptRow_eq (acc : Accepting) (row : AgentInfo × Nat) :
    acceptRow host t env epoch kind enrichments panes acc row
      = { ledger := ((if t.replaces row.1 then
              (acc.ledger.resetUpstreamRev row.1.paneId).setCell row.1.paneId
                (acc.ledger.cells row.1.paneId).resetOnReplacement
            else acc.ledger).setCell row.1.paneId
              (acceptPaneCell host t env epoch kind enrichments panes row
                (acc.view row.1.paneId)).1).noteUpstreamRev row.1.paneId row.1.revision
          generations := Function.update acc.generations row.1.paneId
            (t.acceptGeneration row.1 (acc.generations row.1.paneId))
          agentTimes := Function.update acc.agentTimes row.1.paneId
            (t.acceptPaneTimes env panes row.1 (acc.agentTimes row.1.paneId))
          transitions := acc.transitions ++ (acceptPaneCell host t env epoch kind enrichments panes
            row (acc.view row.1.paneId)).2 } := by
  have hgenerations : (if t.replaces row.1 || ((t.existingRow row.1).isNone &&
        !decide (t.acceptedAt = 0) && decide (0 < acc.generations row.1.paneId)) then
          Function.update acc.generations row.1.paneId (acc.generations row.1.paneId + 1)
        else acc.generations)
      = Function.update acc.generations row.1.paneId
          (t.acceptGeneration row.1 (acc.generations row.1.paneId)) := by
    unfold acceptGeneration
    split
    · rfl
    · rw [Function.update_eq_self]
  have hcell : (if t.replaces row.1 then
        (acc.ledger.resetUpstreamRev row.1.paneId).setCell row.1.paneId
          (acc.ledger.cells row.1.paneId).resetOnReplacement
      else acc.ledger).cells row.1.paneId
        = if t.replaces row.1 then (acc.view row.1.paneId).cell.resetOnReplacement
          else (acc.view row.1.paneId).cell := by
    split_ifs
    · rw [Ledger.setCell_cells, if_pos rfl]
      rfl
    · rfl
  unfold acceptPaneCell
  rw [← hgenerations, ← hcell]
  rfl

variable {host t env epoch kind enrichments panes}

theorem acceptPaneCell_paneId (row : AgentInfo × Nat)
    (v : PaneView) : ∀ x ∈ (acceptPaneCell host t env epoch kind enrichments panes row v).2,
      x.paneId = row.1.paneId := by
  unfold acceptPaneCell
  rw [acceptCell_eq]
  exact finishCell_paneId env _ _ _ _ _ _

/-- A turn of the row loop leaves every other pane alone. -/
theorem acceptRow_view_other (acc : Accepting)
    (row : AgentInfo × Nat) (p : String) (hp : p ≠ row.1.paneId) :
    (acceptRow host t env epoch kind enrichments panes acc row).view p = acc.view p := by
  have htransitions : (acceptPaneCell host t env epoch kind enrichments panes row
      (acc.view row.1.paneId)).2.filter (·.paneId = p) = [] := by
    rw [List.filter_eq_nil_iff]
    intro x hx hxp
    rw [acceptPaneCell_paneId row _ x hx] at hxp
    exact hp (of_decide_eq_true hxp).symm
  rw [acceptRow_eq]
  simp only [Accepting.view, Ledger.noteUpstreamRev_cells, Ledger.setCell_cells, if_neg hp,
    Function.update_of_ne hp, List.filter_append]
  rw [Accepting.view] at htransitions
  rw [htransitions, List.append_nil]
  split_ifs <;> simp [hp]

/-- At its own pane it is `acceptPane`. -/
theorem acceptRow_view_self (acc : Accepting) (row : AgentInfo × Nat) :
    (acceptRow host t env epoch kind enrichments panes acc row).view row.1.paneId
      = acceptPane host t env epoch kind enrichments panes row (acc.view row.1.paneId) := by
  have htransitions : (acceptPaneCell host t env epoch kind enrichments panes row
      (acc.view row.1.paneId)).2.filter (·.paneId = row.1.paneId)
        = (acceptPaneCell host t env epoch kind enrichments panes row
            (acc.view row.1.paneId)).2 := by
    rw [List.filter_eq_self]
    intro x hx
    exact decide_eq_true (acceptPaneCell_paneId row _ x hx)
  rw [acceptRow_eq]
  simp only [Accepting.view, Ledger.noteUpstreamRev_cells, Ledger.setCell_cells, if_true,
    Function.update_self, List.filter_append, acceptPane]
  rw [Accepting.view] at htransitions
  rw [htransitions]

end Row

/-! ## §4 — a whole accept, at one pane -/

theorem zipIdx_paneIds (agents : List AgentInfo) (n : Nat) :
    (agents.zipIdx n).map (·.1.paneId) = agents.map (·.paneId) := by
  rw [← List.zipIdx_map_fst n agents, List.map_map]
  simp [Function.comp_def]

theorem map_preserveStatus_paneIds (kind : CommitKind) (agents : List AgentInfo) :
    (agents.map (t.preserveStatus kind)).map (·.paneId) = agents.map (·.paneId) := by
  simp [Function.comp_def]

/-- The removal pass, at a pane it does not remove. -/
theorem foldl_removePane_view {p : String} {removed : List String} (hp : p ∉ removed)
    (acc : Accepting) : (removed.foldl removePane acc).view p = acc.view p := by
  refine Keyed.foldl_of_not_mem id Accepting.view ?_ (by simpa using hp) acc
  intro s q k hk
  replace hk : k ≠ q := hk
  simp only [Accepting.view, removePane, Ledger.remove, Ledger.setCell_cells, if_neg hk,
    Function.update_of_ne hk]

/-- The removal pass, at a pane it removes. -/
theorem foldl_removePane_view_of_mem {p : String} {removed : List String} (hnodup : removed.Nodup)
    (hp : p ∈ removed) (acc : Accepting) :
    (removed.foldl removePane acc).view p =
      { cell := {}, generation := acc.generations p + 1, times := {},
        transitions := acc.transitions.filter (·.paneId = p) } := by
  refine Keyed.foldl_of_mem id Accepting.view
    (fun _ v =>
      { cell := {}, generation := v.generation + 1, times := {}, transitions := v.transitions })
    ?_ ?_ (by simpa using List.nodup_iff_count_le_one.mp hnodup p) hp acc
  · intro s q k hk
    replace hk : k ≠ q := hk
    simp only [Accepting.view, removePane, Ledger.remove, Ledger.setCell_cells, if_neg hk,
      Function.update_of_ne hk]
  · intro s q
    simp only [id, Accepting.view, removePane, Ledger.remove, Ledger.setCell_cells, if_true,
      Function.update_self]

theorem nodup_removedPanes (agents : List AgentInfo) : (t.removedPanes agents).Nodup := by
  unfold removedPanes
  apply List.Nodup.filter
  exact (List.perm_insertionSort _ _).nodup_iff.mpr (List.nodup_dedup _)

section Accept

variable (snapshot : SessionSnapshot) (enrichments : String → Option Classification)
  (kind : CommitKind)
variable {p : String}

/-- The rows of an accept, with their turns' numbers. -/
def incomingRows : List (AgentInfo × Nat) := (snapshot.agents.map (t.preserveStatus kind)).zipIdx

def paneView (p : String) : PaneView where
  cell := ledger.cells p
  generation := t.generations p
  times := t.agentTimes p
  transitions := []

/-- An accept is the row loop, the removal pass, and what touches watermarks only. -/
theorem resultView_acceptEnriched (p : String) :
    resultView p (t.acceptEnriched host ledger env snapshot enrichments kind)
      = ((t.removedPanes (snapshot.agents.map (t.preserveStatus kind))).foldl removePane
          ((t.incomingRows snapshot kind).foldl
            (acceptRow host t env (t.revision + 1 : Nat) kind enrichments snapshot.panes)
            { ledger, generations := t.generations, agentTimes := t.agentTimes })).view p := by
  simp only [resultView, acceptEnriched, Ledger.retainUpstream_cells, foldl_seedUpstream_cells,
    Accepting.view, incomingRows]

theorem incomingRows_paneIds :
    (t.incomingRows snapshot kind).map (·.1.paneId) = snapshot.agents.map (·.paneId) := by
  unfold incomingRows
  rw [zipIdx_paneIds, map_preserveStatus_paneIds]

theorem exists_mem_incomingRows {sampled : AgentInfo} (h : sampled ∈ snapshot.agents) :
    ∃ index, (t.preserveStatus kind sampled, index) ∈ t.incomingRows snapshot kind := by
  obtain ⟨index, hindex⟩ := List.mem_iff_getElem?.mp (List.mem_map_of_mem
    (f := t.preserveStatus kind) h)
  exact ⟨index, List.mk_mem_zipIdx_iff_getElem?.mpr hindex⟩

theorem sampled_of_mem_incomingRows {row : AgentInfo × Nat}
    (h : row ∈ t.incomingRows snapshot kind) :
    ∃ sampled ∈ snapshot.agents, t.preserveStatus kind sampled = row.1 := by
  have hmem : row.1 ∈ snapshot.agents.map (t.preserveStatus kind) :=
    (List.mem_zipIdx' h).2 ▸ List.getElem_mem _
  exact List.mem_map.mp hmem

/-- **An accept, at a pane it samples**: the turn of the pane's own row. -/
theorem resultView_of_row {row : AgentInfo × Nat}
    (honce : (snapshot.agents.map (·.paneId)).count row.1.paneId ≤ 1)
    (hrow : row ∈ t.incomingRows snapshot kind) :
    resultView row.1.paneId (t.acceptEnriched host ledger env snapshot enrichments kind)
      = acceptPane host t env (t.revision + 1 : Nat) kind enrichments snapshot.panes row
          (t.paneView ledger row.1.paneId) := by
  have hid : row.1.paneId ∈ snapshot.agents.map (·.paneId) := by
    rw [← t.incomingRows_paneIds snapshot kind]
    exact List.mem_map_of_mem hrow
  have hkept : row.1.paneId ∉ t.removedPanes (snapshot.agents.map (t.preserveStatus kind)) := by
    rw [mem_removedPanes, map_preserveStatus_paneIds]
    exact fun h => h.2 hid
  rw [resultView_acceptEnriched, foldl_removePane_view hkept]
  refine Keyed.foldl_of_mem (fun row : AgentInfo × Nat => row.1.paneId)
    Accepting.view
    (acceptPane host t env (t.revision + 1 : Nat) kind enrichments snapshot.panes)
    ?_ ?_ ?_ hrow _
  · intro s x k hk
    exact acceptRow_view_other s x k hk
  · intro s x
    exact acceptRow_view_self s x
  · rw [t.incomingRows_paneIds snapshot kind]
    exact honce

/-- The row loop leaves a pane without a row alone. -/
theorem foldl_acceptRow_view (hp : p ∉ snapshot.agents.map (·.paneId)) (acc : Accepting) :
    ((t.incomingRows snapshot kind).foldl
      (acceptRow host t env (t.revision + 1 : Nat) kind enrichments snapshot.panes) acc).view p
      = acc.view p := by
  refine Keyed.foldl_of_not_mem (fun row : AgentInfo × Nat => row.1.paneId)
    Accepting.view ?_ ?_ acc
  · intro s x k hk
    exact acceptRow_view_other s x k hk
  · rw [t.incomingRows_paneIds snapshot kind]
    exact hp

/-- **An accept, at a pane it no longer samples**: the cell is dropped and the generation moves. -/
theorem resultView_of_removed (hlive : p ∈ t.liveIds) (hp : p ∉ snapshot.agents.map (·.paneId)) :
    resultView p (t.acceptEnriched host ledger env snapshot enrichments kind)
      = { cell := {}, generation := t.generations p + 1, times := {}, transitions := [] } := by
  have hremoved : p ∈ t.removedPanes (snapshot.agents.map (t.preserveStatus kind)) := by
    rw [mem_removedPanes, map_preserveStatus_paneIds]
    exact ⟨hlive, hp⟩
  have hloop := foldl_acceptRow_view host t env snapshot enrichments kind hp
    { ledger, generations := t.generations, agentTimes := t.agentTimes }
  rw [resultView_acceptEnriched, foldl_removePane_view_of_mem (t.nodup_removedPanes _) hremoved]
  have hgeneration := congrArg PaneView.generation hloop
  have htransitions := congrArg PaneView.transitions hloop
  simp only [Accepting.view] at hgeneration htransitions
  rw [hgeneration, htransitions]
  rfl

/-- **An accept, at a pane it knows nothing of.** -/
theorem resultView_of_absent (hlive : p ∉ t.liveIds) (hp : p ∉ snapshot.agents.map (·.paneId)) :
    resultView p (t.acceptEnriched host ledger env snapshot enrichments kind)
      = t.paneView ledger p := by
  have hkept : p ∉ t.removedPanes (snapshot.agents.map (t.preserveStatus kind)) := by
    rw [mem_removedPanes]
    exact fun h => hlive h.1
  rw [resultView_acceptEnriched, foldl_removePane_view hkept,
    foldl_acceptRow_view host t env _ _ _ hp]
  rfl

/-- The row a pane has after an accept is the one its turn committed. -/
theorem exists_row_of_mem (honce : snapshot.Once) (hp : p ∈ snapshot.agents.map (·.paneId)) :
    ∃ row ∈ t.incomingRows snapshot kind, row.1.paneId = p ∧
      (t.acceptEnriched host ledger env snapshot enrichments kind).1.paneOf p = some row.1 := by
  rw [← t.incomingRows_paneIds snapshot kind] at hp
  obtain ⟨row, hrow, rfl⟩ := List.mem_map.mp hp
  refine ⟨row, hrow, rfl, ?_⟩
  have hmem : row.1 ∈ snapshot.agents.map (t.preserveStatus kind) :=
    List.mem_map.mpr (t.sampled_of_mem_incomingRows snapshot kind hrow)
  have hnodup : ((snapshot.agents.map (t.preserveStatus kind)).map (·.paneId)).Nodup := by
    rw [map_preserveStatus_paneIds]
    exact honce
  exact Keyed.lookup_of_mem hnodup hmem

end Accept

/-! ## §5 — a status event -/

theorem commitAgentStatus_isSome {payload : StatusChanged} {committed : AgentInfo}
    (hrow : t.paneOf payload.paneId = some committed) (hmoves : payload.repeats committed = false) :
    (t.commitAgentStatus host ledger env payload).isSome = true := by
  have hindex : (t.snapshot.agents.findIdx? (·.paneId = payload.paneId)).isSome = true := by
    rw [List.findIdx?_isSome, List.any_eq_true]
    exact ⟨committed, Keyed.mem_of_lookup hrow, decide_eq_true (Keyed.key_of_lookup hrow)⟩
  obtain ⟨index, hindex⟩ := Option.isSome_iff_exists.mp hindex
  unfold StatusChanged.repeats at hmoves
  simp only [commitAgentStatus, hindex, hrow, hmoves]
  rfl

theorem lookup_statusRows (payload : StatusChanged) (p : String) :
    Keyed.lookup AgentInfo.paneId p (t.statusRows payload)
      = if p = payload.paneId then (t.paneOf p).map (statusRow payload) else t.paneOf p := by
  by_cases hp : p = payload.paneId
  · subst hp
    rw [if_pos rfl]
    exact Keyed.lookup_update_self (statusRow_paneId payload)
  · rw [if_neg hp]
    exact Keyed.lookup_update_of_ne (statusRow_paneId payload) hp

end Topology

/-! ## §6 — one event of the system, at one pane -/

namespace System

def row (s : System) (p : String) : Option AgentInfo := s.topology.paneOf p

def cell (s : System) (p : String) : AttentionCell := s.ledger.cells p

def generation (s : System) (p : String) : Int := s.topology.generations p

theorem live_iff_row (s : System) (p : String) : s.Live p ↔ s.row p ≠ none := by
  rw [row, ne_eq, show s.topology.paneOf p = none ↔ p ∉ s.topology.liveIds from
    Keyed.lookup_eq_none_iff, not_not]
  rfl

end System

/-- The snapshots the event commits list each pane once. -/
def SystemEvent.Once : SystemEvent → Prop
  | .accept _ snapshot _ _ => snapshot.Once
  | _ => True

instance : (e : SystemEvent) → Decidable e.Once
  | .accept _ snapshot _ _ => inferInstanceAs (Decidable snapshot.Once)
  | .status .. | .bump .. | .markStale | .inventoryFailed .. | .republish | .publish
  | .attention .. | .acknowledge .. => .isTrue trivial

namespace System

variable (host : Host)

/-- **What an event can do to a pane.** -/
inductive PaneStep (s : System) (e : SystemEvent) (p : String) (s' : System) : Prop where
  /-- an accept samples it -/
  | sampled {env : CommitEnv} {snapshot : SessionSnapshot}
      {enrichments : String → Option Classification} {kind : CommitKind} {incoming : AgentInfo}
      {index : Nat} (event : e = .accept env snapshot enrichments kind)
      (sampled : (incoming, index) ∈ s.topology.incomingRows snapshot kind)
      (paneId : incoming.paneId = p) (row_eq : s'.row p = some incoming)
      (cell_eq : s'.cell p = (s.topology.acceptPaneCell host env (s.topology.revision + 1 : Nat)
        kind enrichments snapshot.panes (incoming, index) (s.topology.paneView s.ledger p)).1)
      (generation_eq : s'.generation p = s.topology.acceptGeneration incoming (s.generation p))
      (revision_eq : s'.topology.revision = s.topology.revision + 1)
  /-- an accept no longer samples it -/
  | removed {env : CommitEnv} {snapshot : SessionSnapshot}
      {enrichments : String → Option Classification} {kind : CommitKind}
      (event : e = .accept env snapshot enrichments kind)
      (absent : p ∉ snapshot.agents.map (·.paneId)) (live : s.Live p)
      (row_eq : s'.row p = none) (cell_eq : s'.cell p = {})
      (generation_eq : s'.generation p = s.generation p + 1)
      (revision_eq : s'.topology.revision = s.topology.revision + 1)
  /-- a status event rewrites its row -/
  | rewritten {env : CommitEnv} {payload : Topology.StatusChanged} {committed : AgentInfo}
      (event : e = .status env payload) (row : s.row p = some committed)
      (row_eq : s'.row p = some (Topology.statusRow payload committed))
      (cell_eq : s'.cell p = (Topology.statusCell host env (s.topology.revision + 1 : Nat)
        committed.agent (Topology.statusRow payload committed) (s.cell p)).1)
      (generation_eq : s'.generation p = s.generation p)
      (revision_eq : s'.topology.revision = s.topology.revision + 1)
  /-- a classification moves its cell -/
  | classified {c : Classification} (moves : p ∈ s.classifies host e) (row_eq : s'.row p = s.row p)
      (changed : ((s.cell p).applyClassification host c).2 = true)
      (cell_eq : s'.cell p = Topology.classifyCell host c (s.cell p))
      (generation_eq : s'.generation p = s.generation p)
      (revision_eq : s'.topology.revision = s.topology.revision)
  /-- a client acknowledges it -/
  | acknowledged {status : StatusText} {lastActiveAt now : Int} (row_eq : s'.row p = s.row p)
      (cell_eq : s'.cell p = (s.cell p).acknowledge status lastActiveAt now)
      (generation_eq : s'.generation p = s.generation p)
      (revision_eq : s'.topology.revision = s.topology.revision)
  /-- its session is replaced by a command -/
  | bumped {now : Int} (event : e = .bump p now) (row_eq : s'.row p = s.row p)
      (cell_eq : s'.cell p = s.cell p) (generation_eq : s'.generation p = s.generation p + 1)
      (revision_eq : s'.topology.revision = s.topology.revision + 1)
  /-- nothing of it moves, but for the body of a question that is classified again -/
  | kept (row_eq : s'.row p = s.row p) (cell : (s.cell p).SameQuestion (s'.cell p))
      (generation_eq : s'.generation p = s.generation p)
      (revision_le : s.topology.revision ≤ s'.topology.revision)

variable {host} {e : SystemEvent}

theorem PaneStep.untouched {s s' : System} {p : String} (hrow : s'.row p = s.row p)
    (hcell : s'.cell p = s.cell p) (hgeneration : s'.generation p = s.generation p)
    (hrevision : s.topology.revision ≤ s'.topology.revision) : PaneStep host s e p s' :=
  .kept hrow (hcell ▸ .refl _) hgeneration hrevision

theorem PaneStep.of_eq {s s' : System} (h : s' = s) (p : String) :
    PaneStep host s e p s' := by
  subst h
  exact .untouched rfl rfl rfl le_rfl

variable (host)

theorem accept_pane (s : System) (env : CommitEnv) {snapshot : SessionSnapshot}
    (enrichments : String → Option Classification) (kind : CommitKind) (honce : snapshot.Once)
    (p : String) : PaneStep host s (.accept env snapshot enrichments kind) p
      (s.step host (.accept env snapshot enrichments kind)) := by
  by_cases hsampled : p ∈ snapshot.agents.map (·.paneId)
  · obtain ⟨⟨incoming, index⟩, hmem, hid, hrow⟩ := s.topology.exists_row_of_mem host s.ledger env
      snapshot enrichments kind honce hsampled
    have hview := s.topology.resultView_of_row host s.ledger env snapshot enrichments kind
      (List.nodup_iff_count_le_one.mp honce _) hmem
    rw [hid] at hview
    exact .sampled rfl hmem hid hrow (congrArg Topology.PaneView.cell hview)
      (congrArg Topology.PaneView.generation hview) rfl
  · have hgone : (s.step host (.accept env snapshot enrichments kind)).row p = none := by
      by_contra hrow
      rw [← ne_eq, ← live_iff_row] at hrow
      simp only [Live, step, Topology.acceptEnriched_liveIds] at hrow
      exact hsampled hrow
    by_cases hlive : p ∈ s.topology.liveIds
    · have hview := s.topology.resultView_of_removed host s.ledger env snapshot enrichments kind
        hlive hsampled
      exact .removed rfl hsampled hlive hgone (congrArg Topology.PaneView.cell hview)
        (congrArg Topology.PaneView.generation hview) rfl
    · have hview := s.topology.resultView_of_absent host s.ledger env snapshot enrichments kind
        hlive hsampled
      have hnone : s.row p = none := by
        by_contra hrow
        exact hlive ((s.live_iff_row p).mpr hrow)
      exact .untouched (hgone.trans hnone.symm) (congrArg Topology.PaneView.cell hview)
        (congrArg Topology.PaneView.generation hview) (Nat.le_succ _)

theorem status_pane (s : System) (env : CommitEnv) (payload : Topology.StatusChanged)
    (p : String) : PaneStep host s (.status env payload) p (s.step host (.status env payload)) := by
  cases h : s.topology.commitAgentStatus host s.ledger env payload with
  | none => exact .of_eq (by simp only [step, h]) p
  | some result =>
    obtain ⟨committed, hrow, -, hresult⟩ :=
      s.topology.commitAgentStatus_eq_some host s.ledger env h
    simp only [step, h]
    rw [hresult]
    have hrows := s.topology.lookup_statusRows payload p
    by_cases hp : p = payload.paneId
    · subst hp
      rw [if_pos rfl, hrow] at hrows
      refine .rewritten rfl hrow hrows ?_ rfl rfl
      simp only [cell, Ledger.setCell_cells, if_true]
    · rw [if_neg hp] at hrows
      refine .untouched hrows ?_ rfl (Nat.le_succ _)
      simp only [cell, Ledger.setCell_cells, if_neg hp]

theorem attention_pane (s : System) (view : Nat) (paneId eventId : String)
    (generation contentRev : Int) (c : Classification) (p : String) :
    PaneStep host s (.attention view paneId eventId generation contentRev c) p
      (s.step host (.attention view paneId eventId generation contentRev c)) := by
  cases h : s.published[view]? with
  | none => exact .of_eq (by simp only [step, h]) p
  | some t =>
    have hcells := t.commitAttention_cells host s.ledger paneId eventId generation contentRev c p
    simp only [step, h]
    by_cases hmoves : p = paneId ∧
        t.movesAttention host s.ledger paneId eventId generation contentRev c = true
    · rw [if_pos hmoves] at hcells
      obtain ⟨rfl, hmoves⟩ := hmoves
      refine .classified ?_ rfl ?_ hcells rfl rfl
      · simp [classifies, h, hmoves]
      · simp only [Topology.movesAttention, Bool.and_eq_true] at hmoves
        exact hmoves.2
    · rw [if_neg hmoves] at hcells
      exact .kept rfl hcells rfl le_rfl

/-- **Every event is one of these, at every pane.** -/
theorem step_pane (s : System) (honce : e.Once) (p : String) :
    PaneStep host s e p (s.step host e) := by
  cases e with
  | accept env snapshot enrichments kind => exact accept_pane host s env enrichments kind honce p
  | status env payload => exact status_pane host s env payload p
  | bump paneId now =>
    by_cases hp : p = paneId
    · subst hp
      refine .bumped rfl rfl rfl ?_ rfl
      simp [step, generation, Topology.bumpGeneration]
    · refine .untouched rfl rfl ?_ (Nat.le_succ _)
      simp [step, generation, Topology.bumpGeneration, hp]
  | markStale =>
    refine .untouched ?_ rfl ?_ ?_ <;>
      · simp only [row, generation, step, Topology.markStale]
        split <;> simp [Topology.paneOf]
  | inventoryFailed now =>
    refine .untouched ?_ rfl ?_ ?_ <;>
      · simp only [row, generation, step, Topology.markInventoryFailure]
        split <;> simp [Topology.paneOf]
  | republish => exact .untouched rfl rfl rfl (Nat.le_succ _)
  | publish => exact .untouched rfl rfl rfl le_rfl
  | attention view paneId eventId generation contentRev c =>
    exact attention_pane host s view paneId eventId generation contentRev c p
  | acknowledge view paneId now =>
    cases h : s.published[view]? with
    | none => exact .of_eq (by simp only [step, h]) p
    | some t =>
      simp only [step, h]
      cases hrow : t.paneOf paneId with
      | none => exact .of_eq (by simp only [Topology.acknowledge, hrow]) p
      | some info =>
        by_cases hp : p = paneId
        · subst hp
          have hcell : (({ s with ledger := t.acknowledge s.ledger p now } : System)).cell p
              = (s.cell p).acknowledge info.agentStatus.text (t.agentTimes p).lastActiveAt now := by
            simp only [cell, Topology.acknowledge, hrow, Ledger.setCell_cells, if_true]
          exact .acknowledged rfl hcell rfl rfl
        · refine .untouched rfl ?_ rfl le_rfl
          simp only [cell, Topology.acknowledge, hrow, Ledger.setCell_cells, if_neg hp]

/-- The committed rows list each pane once. -/
def Once (s : System) : Prop := s.topology.snapshot.Once

theorem Once.step {s : System} (h : s.Once) (he : e.Once) :
    (s.step host e).Once := by
  show (s.step host e).topology.liveIds.Nodup
  cases e with
  | accept env snapshot enrichments kind =>
    show (s.topology.acceptEnriched host s.ledger env snapshot enrichments kind).1.liveIds.Nodup
    rw [Topology.acceptEnriched_liveIds]
    exact he
  | status env payload =>
    cases hcommit : s.topology.commitAgentStatus host s.ledger env payload with
    | none =>
      simp only [System.step, hcommit]
      exact h
    | some result =>
      have hids := (s.topology.commitAgentStatus_some host s.ledger env hcommit).2.1
      simp only [System.step, hcommit]
      rw [hids]
      exact h
  | bump paneId now => exact h
  | markStale =>
    simp only [System.step, Topology.markStale]
    split <;> exact h
  | inventoryFailed now =>
    simp only [System.step, Topology.markInventoryFailure]
    split <;> exact h
  | republish => exact h
  | publish => exact h
  | attention view paneId eventId generation contentRev c =>
    simp only [System.step]
    split <;> exact h
  | acknowledge view paneId now =>
    simp only [System.step]
    split <;> exact h

section

variable {host} {condition : System → SystemEvent → Prop} {events : List SystemEvent}
  (h : Each host condition events)
include h

/-- The committed rows of every state of the run list each pane once. -/
theorem Each.once (honce : ∀ s e, condition s e → e.Once) (k : Nat) :
    (after host events k).Once :=
  h.since (fun _ _ hs he => hs.step host (honce _ _ he)) (Nat.zero_le k) List.nodup_nil

end

end System

end Lerdr.Coord
