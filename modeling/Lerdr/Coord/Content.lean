/-
# Lerdr.Coord.Content — what the pair of generation and content revision fences.

A reader brackets a slow read of a pane between two looks at its generation and its content
revision, and takes the read as one of a single committed state if the pair is the same. Three
commits move the content revision: an accept and a status event where a content field or the blocked
details move, and a classification, through whatever clone, where the details do. A removed pane
loses its cell and with it the revision, but its generation has moved by then.

Two things it does not fence. The statuses compare as they are displayed: a status event that takes
`unknown` to a status this build does not know rewrites the row and moves no revision, since both
display as `unknown`. And questions compare by id: a classification with the id of the committed
question writes its own body over it, the marks and texts of the options among it, and moves none
either.
-/
import Lerdr.Coord.Generations

namespace Lerdr.Coord

/-! ## §1 — the cell's operations -/

namespace AttentionCell

theorem clearBlocked_unchanged {cell : AttentionCell} (h : cell.clearBlocked.2 = false) :
    cell.clearBlocked.1 = cell := by
  simp only [clearBlocked, decide_eq_false_iff_not, ne_eq, not_not] at h ⊢
  rw [← h]

/-- A cycle sync that changes nothing leaves the cell as it is. -/
theorem syncCycle_unchanged {status : StatusText} {mint : String} {cell : AttentionCell}
    (h : (cell.syncCycle status mint).2 = false) : (cell.syncCycle status mint).1 = cell := by
  unfold syncCycle at h ⊢
  split at h
  · rename_i hstatus
    rw [if_pos hstatus]
    exact clearBlocked_unchanged h
  · rename_i hstatus
    rw [if_neg hstatus]
    simp only [Bool.or_eq_false_iff, decide_eq_false_iff_not] at h ⊢
    obtain ⟨hkind, hevent⟩ := h
    rw [hkind, if_neg hevent, if_neg Bool.false_ne_true]

@[simp] theorem syncCycle_contentRev (status : StatusText) (mint : String) (cell : AttentionCell) :
    (cell.syncCycle status mint).1.contentRev = cell.contentRev := by
  unfold syncCycle
  split <;> rfl

@[simp] theorem applyClassification_contentRev (host : Host) (c : Classification)
    (cell : AttentionCell) : (cell.applyClassification host c).1.contentRev = cell.contentRev := rfl

end AttentionCell

namespace Topology

variable (host : Host) (env : CommitEnv)

theorem enterCell_contentRev (index : Nat) (kind : CommitKind) (enrichment : Option Classification)
    (existing : Option AgentInfo) (incoming : AgentInfo) (cell : AttentionCell) :
    (enterCell host env index kind enrichment existing incoming cell).1.contentRev
      = cell.contentRev := by
  unfold enterCell
  cases enrichment with
  | none => simp
  | some c =>
    simp only
    split <;> simp

/-- What an accept does not call a change of attention leaves the cell as it is, but for the body of
the question. -/
theorem enterCell_unchanged {index : Nat} {kind : CommitKind} {enrichment : Option Classification}
    {existing : Option AgentInfo} {incoming : AgentInfo} {cell : AttentionCell}
    (h : (enterCell host env index kind enrichment existing incoming cell).2 = false) :
    cell.SameQuestion (enterCell host env index kind enrichment existing incoming cell).1 := by
  have hsync : ∀ {entered : AttentionCell}, entered = cell → cell.SameQuestion entered :=
    fun heq => heq ▸ .refl cell
  unfold enterCell at h ⊢
  cases enrichment with
  | none => exact hsync (AttentionCell.syncCycle_unchanged h)
  | some c =>
    simp only at h ⊢
    split at h
    · rename_i hadopts
      rw [Bool.or_eq_false_iff] at h
      rw [if_pos hadopts]
      have hentered := AttentionCell.syncCycle_unchanged h.1
      rw [hentered] at h ⊢
      exact applyClassification_unchanged host h.2
    · rename_i hadopts
      rw [if_neg hadopts]
      exact hsync (AttentionCell.syncCycle_unchanged h)

/-- The committed status, content revision and details after an accept of one row. -/
theorem acceptCell_content (index : Nat) (epoch : Int) (kind : CommitKind)
    (enrichment : Option Classification) (existing : Option AgentInfo) (incoming : AgentInfo)
    (times : AgentTimes) (cell : AttentionCell) {after : AttentionCell}
    (h : after
      = (acceptCell host env index epoch kind enrichment existing incoming times cell).1) :
    after.prevStatus = incoming.agentStatus.text ∧
      after.blocked
        = (enterCell host env index kind enrichment existing incoming cell).1.blocked ∧
      after.contentRev = if rowMoved existing incoming ||
          (enterCell host env index kind enrichment existing incoming cell).2 then
          cell.contentRev + 1
        else cell.contentRev := by
  rw [acceptCell_eq] at h
  have hsame := h ▸ sameContent_finishCell env _ _ _ _
    (sameContent_seedFresh existing incoming.agentStatus.text times) _
  refine ⟨hsame.prevStatus, hsame.blocked, hsame.contentRev.trans ?_⟩
  simp only [stampCell, enterCell_contentRev]

theorem statusCell_content (epoch : Int) (prevAgent : Option String) (incoming : AgentInfo)
    (cell : AttentionCell) {after : AttentionCell}
    (h : after = (statusCell host env epoch prevAgent incoming cell).1) :
    after.prevStatus = incoming.agentStatus.text ∧
      after.blocked = (cell.syncCycle incoming.agentStatus.text (env.mint 0)).1.blocked ∧
      after.contentRev =
        if decide (cell.prevStatus ≠ incoming.agentStatus.text ∨ incoming.agent ≠ prevAgent) ||
            (cell.syncCycle incoming.agentStatus.text (env.mint 0)).2 then cell.contentRev + 1
        else cell.contentRev := by
  rw [statusCell_eq] at h
  have hsame := h ▸ sameContent_finishCell env _ _ _ _ AttentionCell.SameContent.refl _
  refine ⟨hsame.prevStatus, hsame.blocked, hsame.contentRev.trans ?_⟩
  simp only [stampCell, AttentionCell.syncCycle_contentRev]

theorem classifyCell_content (c : Classification) (cell : AttentionCell) :
    (classifyCell host c cell).prevStatus = cell.prevStatus ∧
      (classifyCell host c cell).contentRev = cell.contentRev + 1 := by
  have hsame := AttentionCell.sameContent_syncAttentionCompletion cell.blocked.kind
    (cell.applyClassification host c).1.blocked.kind (cell.stateRev + 1)
    { (cell.applyClassification host c).1 with
      stateRev := cell.stateRev + 1
      contentRev := cell.contentRev + 1
      attentionRev := cell.attentionRev + 1 }
  exact ⟨hsame.prevStatus, hsame.contentRev⟩

end Topology

/-! ## §2 — one event -/

/-- The details as `apply_classification` compares them: without the body of the question, and its
id. -/
def BlockedDetails.compared (details : BlockedDetails) : BlockedDetails × Option Rust.Text :=
  ({ details with interaction := none }, details.interaction.map (·.id))

theorem AttentionCell.SameQuestion.compared {cell cell' : AttentionCell}
    (h : cell.SameQuestion cell') : cell'.blocked.compared = cell.blocked.compared := by
  obtain ⟨interaction, hid, rfl⟩ := h
  exact Prod.ext rfl hid

/-- What a reader of a pane takes as its committed state. -/
structure PaneContent where
  status : StatusText
  name : Option String
  cwd : Option String
  agent : Option String
  stateChangeSeq : Nat
  blocked : BlockedDetails × Option Rust.Text
  deriving DecidableEq

namespace System

def content (s : System) (p : String) : Option PaneContent :=
  (s.row p).map fun row =>
    { status := row.agentStatus.text, name := row.name, cwd := row.cwd, agent := row.agent,
      stateChangeSeq := row.stateChangeSeq, blocked := (s.cell p).blocked.compared }

/-- `content_rev` of a pane. -/
def contentRev (s : System) (p : String) : Int := (s.cell p).contentRev

/-- The event replaces the session of the pane: a commit finds another identity, or a command says
so. -/
def ReplacesSession (s : System) (p : String) : SystemEvent → Prop
  | .accept _ snapshot _ _ => ∃ incoming ∈ snapshot.agents, incoming.paneId = p ∧
    s.topology.replaces incoming = true
  | .bump paneId _ => paneId = p
  | _ => False

/-- Each cell's last status is the committed one, as displayed. -/
def Tracked (s : System) : Prop :=
  ∀ p, ∀ row ∈ s.row p, (s.cell p).prevStatus = row.agentStatus.text

variable {host : Host} {s : System} {e : SystemEvent} {p : String}

theorem Tracked.step (h : s.Tracked) (he : e.Once) : (s.step host e).Tracked := by
  intro p row hrow
  cases step_pane host s he p with
  | @sampled env snapshot enrichments kind incoming index _ _ _ hrow' hcell _ _ =>
    obtain rfl := Option.mem_unique hrow hrow'
    exact (Topology.acceptCell_content host env index _ kind _ _ row _ _ hcell).1
  | removed _ _ _ hrow' _ _ _ =>
    rw [hrow'] at hrow
    cases hrow
  | @rewritten env payload committed _ _ hrow' hcell _ _ =>
    obtain rfl := Option.mem_unique hrow hrow'
    exact (Topology.statusCell_content host env _ _ _ _ hcell).1
  | @classified c _ hrow' _ hcell _ _ =>
    rw [hrow'] at hrow
    rw [hcell, (Topology.classifyCell_content host c (s.cell p)).1]
    exact h p row hrow
  | @acknowledged status lastActiveAt now hrow' hcell _ _ =>
    rw [hrow'] at hrow
    have hsame := AttentionCell.sameContent_acknowledge status lastActiveAt now (s.cell p)
    rw [hcell, hsame.prevStatus]
    exact h p row hrow
  | bumped _ hrow' hcell _ _ =>
    rw [hrow'] at hrow
    rw [hcell]
    exact h p row hrow
  | kept hrow' hcell _ _ =>
    rw [hrow'] at hrow
    obtain ⟨interaction, -, hcell⟩ := hcell
    rw [hcell]
    exact h p row hrow

/-- **What an event does to the pair, and to what it fences**, at a pane that is there. -/
inductive ContentStep (s : System) (p : String) (s' : System) : Prop where
  | moved (generation_lt : s.generation p < s'.generation p)
  | revised (live : s'.Live p) (generation_eq : s'.generation p = s.generation p)
      (contentRev_lt : s.contentRev p < s'.contentRev p)
  | same (generation_eq : s'.generation p = s.generation p)
      (contentRev_eq : s'.contentRev p = s.contentRev p) (content_eq : s'.content p = s.content p)

theorem content_eq_of {s' : System} (hrow : s'.row p = s.row p)
    (hblocked : (s'.cell p).blocked.compared = (s.cell p).blocked.compared) :
    s'.content p = s.content p := by
  unfold content
  rw [hrow, hblocked]

theorem live_of_content {s' : System} (h : s'.content p = s.content p) (hlive : s.Live p) :
    s'.Live p := by
  rw [live_iff_row] at hlive ⊢
  intro hnone
  unfold content at h
  rw [hnone, Option.map_none] at h
  exact hlive (Option.map_eq_none_iff.mp h.symm)

theorem contentStep_of_existing {s' : System} {env : CommitEnv} {index : Nat} {epoch : Int}
    {kind : CommitKind} {enrichment : Option Classification} {incoming committed : AgentInfo}
    {times : AgentTimes} (hcommitted : s.row p = some committed) (hrow : s'.row p = some incoming)
    (hcell : s'.cell p = (Topology.acceptCell host env index epoch kind enrichment (some committed)
      incoming times (s.cell p)).1)
    (hgeneration : s'.generation p = s.generation p) : ContentStep s p s' := by
  obtain ⟨-, hblocked, hrev⟩ := Topology.acceptCell_content host env index epoch kind enrichment
    (some committed) incoming times (s.cell p) hcell
  split at hrev
  · refine .revised ?_ hgeneration ?_
    · rw [live_iff_row, hrow]
      exact Option.some_ne_none incoming
    · show (s.cell p).contentRev < (s'.cell p).contentRev
      rw [hrev]
      exact Int.lt_succ _
  · rename_i hsame
    rw [Bool.or_eq_true, not_or, Bool.not_eq_true, Bool.not_eq_true] at hsame
    obtain ⟨hmoved, hchanged⟩ := hsame
    refine .same hgeneration hrev ?_
    simp only [Topology.rowMoved, Topology.contentMoved, decide_eq_false_iff_not, not_or,
      not_not] at hmoved
    obtain ⟨hstatus, hname, hcwd, hagent, hseq⟩ := hmoved
    have hcompared : (s'.cell p).blocked.compared = (s.cell p).blocked.compared := by
      rw [hblocked]
      exact (Topology.enterCell_unchanged host env hchanged).compared
    unfold content
    rw [hrow, hcommitted, hcompared, Option.map_some, Option.map_some, hstatus, hname, hcwd, hagent,
      hseq]

theorem contentStep_of_rewritten {s' : System} (htracked : s.Tracked) {env : CommitEnv}
    {payload : Topology.StatusChanged} {epoch : Int} {committed : AgentInfo}
    (hcommitted : s.row p = some committed)
    (hrow : s'.row p = some (Topology.statusRow payload committed))
    (hcell : s'.cell p = (Topology.statusCell host env epoch committed.agent
      (Topology.statusRow payload committed) (s.cell p)).1)
    (hgeneration : s'.generation p = s.generation p) : ContentStep s p s' := by
  obtain ⟨-, hblocked, hrev⟩ := Topology.statusCell_content host env epoch committed.agent
    (Topology.statusRow payload committed) (s.cell p) hcell
  split at hrev
  · refine .revised ?_ hgeneration ?_
    · rw [live_iff_row, hrow]
      exact Option.some_ne_none _
    · show (s.cell p).contentRev < (s'.cell p).contentRev
      rw [hrev]
      exact Int.lt_succ _
  · rename_i hsame
    rw [Bool.or_eq_true, not_or, Bool.not_eq_true, Bool.not_eq_true, decide_eq_false_iff_not,
      not_or, not_not, not_not] at hsame
    obtain ⟨⟨hstatus, hagent⟩, hchanged⟩ := hsame
    refine .same hgeneration hrev ?_
    rw [AttentionCell.syncCycle_unchanged hchanged] at hblocked
    rw [htracked p committed hcommitted] at hstatus
    unfold content
    rw [hrow, hcommitted, hblocked, Option.map_some, Option.map_some, ← hstatus, hagent]
    rfl

theorem step_content (host : Host) (hs : s.Once) (htracked : s.Tracked) (he : e.Once)
    (hlive : s.Live p) :
    ContentStep s p (s.step host e) := by
  cases step_pane host s he p with
  | @sampled env snapshot enrichments kind incoming index _ _ hid hrow hcell hgeneration _ =>
    obtain ⟨committed, hcommitted⟩ :=
      Option.ne_none_iff_exists'.mp ((s.live_iff_row p).mp hlive)
    have hold : s.topology.oldRow incoming.paneId = some committed := by
      rw [hid, Topology.oldRow_eq_paneOf hs]
      exact hcommitted
    cases hreplaces : s.topology.replaces incoming with
    | true =>
      refine .moved ?_
      rw [hgeneration, Topology.acceptGeneration, hreplaces, Bool.true_or, if_pos rfl]
      exact Int.lt_succ _
    | false =>
      have hexisting : s.topology.existingRow incoming = some committed := by
        rw [Topology.existingRow, hreplaces, if_neg Bool.false_ne_true, hold]
      simp only [Topology.acceptPaneCell, hreplaces, hexisting, Bool.false_eq_true,
        if_false] at hcell
      refine contentStep_of_existing hcommitted hrow hcell ?_
      rw [hgeneration, Topology.acceptGeneration, hreplaces, hexisting]
      rfl
  | removed _ _ _ _ _ hgeneration _ => exact .moved (by omega)
  | rewritten _ hcommitted hrow hcell hgeneration _ =>
    exact contentStep_of_rewritten htracked hcommitted hrow hcell hgeneration
  | @classified c _ hrow _ hcell hgeneration _ =>
    refine .revised ?_ hgeneration ?_
    · rw [live_iff_row, hrow, ← live_iff_row]
      exact hlive
    · show (s.cell p).contentRev < ((s.step host e).cell p).contentRev
      rw [hcell, (Topology.classifyCell_content host c (s.cell p)).2]
      exact Int.lt_succ _
  | @acknowledged status lastActiveAt now hrow hcell hgeneration _ =>
    have hsame := AttentionCell.sameContent_acknowledge status lastActiveAt now (s.cell p)
    rw [← hcell] at hsame
    exact .same hgeneration hsame.contentRev (content_eq_of hrow (by rw [hsame.blocked]))
  | bumped _ _ _ hgeneration _ => exact .moved (by omega)
  | kept hrow hcell hgeneration _ =>
    refine .same hgeneration ?_ (content_eq_of hrow hcell.compared)
    obtain ⟨interaction, -, hcell⟩ := hcell
    rw [contentRev, hcell]
    rfl

/-- A replacement moves the generation. -/
theorem generation_lt_of_replaces (host : Host) (he : e.Once) (h : s.ReplacesSession p e) :
    s.generation p < (s.step host e).generation p := by
  cases e with
  | accept env snapshot enrichments kind =>
    obtain ⟨incoming, hincoming, rfl, hreplaces⟩ := h
    obtain ⟨index, hrow⟩ := s.topology.exists_mem_incomingRows snapshot kind hincoming
    have hview := s.topology.resultView_of_row host s.ledger env snapshot enrichments kind
      (List.nodup_iff_count_le_one.mp he _) hrow
    have hgeneration := congrArg Topology.PaneView.generation hview
    rw [s.topology.preserveStatus_paneId] at hgeneration
    refine lt_of_lt_of_eq ?_ hgeneration.symm
    show _ < s.topology.acceptGeneration (s.topology.preserveStatus kind incoming)
      (s.generation incoming.paneId)
    rw [Topology.acceptGeneration, s.topology.replaces_preserveStatus, hreplaces, Bool.true_or,
      if_pos rfl]
    exact Int.lt_succ _
  | bump paneId now =>
    obtain rfl := h
    simp [step, generation, Topology.bumpGeneration]
  | _ => exact h.elim

/-! ## §3 — runs -/

/-- The pair has moved on, or the content is the same. -/
def ContentSince (s₀ : System) (p : String) (s : System) : Prop :=
  s₀.generation p < s.generation p ∨
    (s.generation p = s₀.generation p ∧ s.Live p ∧
      (s₀.contentRev p < s.contentRev p ∨
        (s.contentRev p = s₀.contentRev p ∧ s.content p = s₀.content p)))

theorem ContentSince.step {s₀ : System} (h : ContentSince s₀ p s) (hs : s.Once)
    (htracked : s.Tracked) (he : e.Once) : ContentSince s₀ p (s.step host e) := by
  have hle := generation_le_step host (s := s) he p
  rcases h with hmoved | ⟨hgeneration, hlive, hcontent⟩
  · exact .inl (lt_of_lt_of_le hmoved hle)
  · cases step_content host hs htracked he hlive with
    | moved hlt => exact .inl (hgeneration ▸ hlt)
    | revised hlive' hgeneration' hrev =>
      refine .inr ⟨hgeneration'.trans hgeneration, hlive', .inl ?_⟩
      rcases hcontent with hlt | ⟨heq, -⟩ <;> omega
    | same hgeneration' hrev hcontent' =>
      refine .inr ⟨hgeneration'.trans hgeneration, live_of_content hcontent' hlive, ?_⟩
      rcases hcontent with hlt | ⟨heq, hsame⟩
      · exact .inl (by omega)
      · exact .inr ⟨hrev.trans heq, hcontent'.trans hsame⟩

/-- The snapshots of the run list each pane once. -/
def OnceAt (_ : System) (e : SystemEvent) : Prop := e.Once

instance (s : System) (e : SystemEvent) : Decidable (OnceAt s e) :=
  inferInstanceAs (Decidable e.Once)

theorem tracked_after {events : List SystemEvent} (h : Each host OnceAt events) (k : Nat) :
    (after host events k).Tracked := by
  refine h.since (fun _ _ hs he => hs.step he) (Nat.zero_le k) ?_
  intro p row hrow
  cases hrow

theorem contentSince_after {events : List SystemEvent} (h : Each host OnceAt events) {p : String}
    {i j : Nat} (hij : i ≤ j) (hlive : (after host events i).Live p) :
    ContentSince (after host events i) p (after host events j) := by
  have hkept := h.since
    (I := fun s => s.Once ∧ s.Tracked ∧ ContentSince (after host events i) p s)
    (fun s e hs he => ⟨hs.1.step host he, hs.2.1.step he, hs.2.2.step hs.1 hs.2.1 he⟩) hij
    ⟨h.once (fun _ _ he => he) i, tracked_after h i, .inr ⟨rfl, hlive, .inr ⟨rfl, rfl⟩⟩⟩
  exact hkept.2.2

/-- A question with one option, marked or not. -/
def pickOne (selected : Bool) : Classification where
  kind := .question
  interaction := some
    { id := ['q'], kind := .multiSelect, question := ['?']
      options := [{ label := ['a'], selected }], other := {}, submitLabel := [], canChat := false
      canGoBack := false, questionIndex := 0, questionTotal := 0, focus := {}, allOptionCount := 1,
      agent := .claude }

end System

end Lerdr.Coord
