/-
# Lerdr.Coord.Generations — the generation of a pane, and the targets it fences.

A client addresses a pane by an exact target (`actions/target.rs`): the terminal, the generation and
the agent session it last saw. The generation moves when a commit finds that the session in the pane
was replaced, when the pane disappears, and when it reappears.

A replacement is found between one committed row and the next, and only where both sides know the
identity field that changed. A row that omits a field makes the next value of it look unchanged, so
a session can be replaced in two commits with no move of the generation: the target captured before
still validates. Where no row omits what the committed one knows, the generation moves with every
replacement.
-/
import Lerdr.Coord.Panes
import Lerdr.Relay.Admission

namespace Lerdr.Coord

open Lib

/-! ## §1 — exact targets -/

/-- `TargetRef`, the tuple a pane-directed message echoes. -/
structure TargetRef where
  serverSessionId : String
  paneId : String
  terminalId : String
  generation : Int
  agentSessionId : String
  deriving DecidableEq, Repr

/-- `agent_session_id` of a row. -/
def AgentInfo.agentSessionId (info : AgentInfo) : String :=
  match info.agentSession with
  | some value => String.ofList (Rust.trim value.toList)
  | none => ""

def invalidField (field : String) : Relay.ApiError where
  code := "invalid_request".toList
  args := [("field".toList, field.toList)]

namespace Topology

/-- The target tuple that `agent_state` projects for a row. -/
def targetOf (t : Topology) (info : AgentInfo) : TargetRef where
  serverSessionId := "primary"
  paneId := info.paneId
  terminalId := info.terminalId
  generation := t.generations info.paneId
  agentSessionId := info.agentSessionId

/-- The actions whose pane id is context, not an address. -/
def contextActions : List String := ["focus_tab", "focus_workspace", "focus_agent", "layout_apply"]

/-- The actions that release what the client itself holds on the pane. -/
def releaseActions : List String :=
  ["unwatch_pane", "release_pane_size", "cancel_speech", "unsubscribe_conversation"]

/-- `validate_exact_pane_target` — `none` admits the action. -/
def validateExactPaneTarget (t : Topology) (actionType paneId : String) (target : Option TargetRef)
    (authenticated : Bool) : Option Relay.ApiError :=
  if paneId = "" then none
  else if contextActions.contains actionType then none
  else if releaseActions.contains actionType then
    if target.any (fun target => target.paneId ≠ paneId) then some (invalidField "target.pane_id")
    else none
  else
    match target with
    | none => if authenticated then some (invalidField "target") else none
    | some target =>
      if target.paneId ≠ paneId then some (invalidField "target.pane_id")
      else
        match t.paneOf paneId with
        | none => some (invalidField "target")
        | some info =>
          let agent := t.targetOf info
          let serverSessionId :=
            if agent.serverSessionId = "" then "primary" else agent.serverSessionId
          if target.serverSessionId ≠ serverSessionId ∨ target.terminalId = "" ∨
              target.terminalId ≠ agent.terminalId ∨ target.generation ≠ agent.generation ∨
              target.agentSessionId ≠ agent.agentSessionId then some (invalidField "target")
          else none

/-- The action is one whose target tuple is checked. -/
def ChecksTarget (actionType paneId : String) : Prop :=
  paneId ≠ "" ∧ contextActions.contains actionType = false ∧
    releaseActions.contains actionType = false

instance (actionType paneId : String) : Decidable (ChecksTarget actionType paneId) :=
  inferInstanceAs (Decidable (_ ∧ _ ∧ _))

/-- A target of another generation is refused. -/
theorem validateExactPaneTarget_of_generation {t : Topology} {actionType paneId : String}
    (hchecks : ChecksTarget actionType paneId) {target : TargetRef}
    (hgeneration : target.generation ≠ t.generations paneId) (authenticated : Bool) :
    (t.validateExactPaneTarget actionType paneId (some target) authenticated).isSome = true := by
  obtain ⟨hpane, hcontext, hrelease⟩ := hchecks
  simp only [validateExactPaneTarget, hpane, hcontext, hrelease, if_false, Bool.false_eq_true]
  by_cases hid : target.paneId ≠ paneId
  · rw [if_pos hid]
    rfl
  · rw [if_neg hid]
    cases hrow : t.paneOf paneId with
    | none => rfl
    | some info =>
      have hinfo : info.paneId = paneId := Keyed.key_of_lookup hrow
      have hstale : target.generation ≠ (t.targetOf info).generation := by
        show target.generation ≠ t.generations info.paneId
        rw [hinfo]
        exact hgeneration
      simp only [hstale, ne_eq, not_false_eq_true, true_or, or_true, if_true, Option.isSome_some]

end Topology

/-! ## §2 — identities -/

/-- The fields that tell a pane's session apart. -/
inductive IdentityField where
  | terminal
  | tab
  | workspace
  deriving DecidableEq, Repr

instance (P : IdentityField → Prop) [DecidablePred P] : Decidable (∀ f, P f) :=
  decidable_of_iff (P .terminal ∧ P .tab ∧ P .workspace)
    ⟨fun h f => by cases f; exacts [h.1, h.2.1, h.2.2],
      fun h => ⟨h .terminal, h .tab, h .workspace⟩⟩

def AgentInfo.identity (info : AgentInfo) : IdentityField → String
  | .terminal => info.terminalId
  | .tab => info.tabId
  | .workspace => info.workspaceId

/-- **No replacement is found** exactly when no field known on both sides differs. -/
theorem paneSessionReplaced_eq_false_iff (existing incoming : AgentInfo) :
    paneSessionReplaced existing incoming = false ↔
      ∀ f, existing.identity f ≠ "" → incoming.identity f ≠ "" →
        existing.identity f = incoming.identity f := by
  have hfield : ∀ a b : String, (a != "" && b != "" && a != b) = false ↔
      (a ≠ "" → b ≠ "" → a = b) := by
    intro a b
    simp only [Bool.and_eq_false_iff, bne_eq_false_iff_eq]
    constructor
    · rintro ((ha | hb) | hab) ha' hb'
      · exact absurd ha ha'
      · exact absurd hb hb'
      · exact hab
    · intro h
      by_cases ha : a = ""
      · exact .inl (.inl ha)
      · by_cases hb : b = ""
        · exact .inl (.inr hb)
        · exact .inr (h ha hb)
  simp only [paneSessionReplaced, paneIdentityMoved, List.zip_cons_cons, List.zip_nil_right,
    List.any_cons, List.any_nil, Bool.or_false, Bool.or_eq_false_iff, hfield]
  constructor
  · rintro ⟨hterminal, htab, hworkspace⟩ f
    cases f with
    | terminal => exact hterminal
    | tab => exact htab
    | workspace => exact hworkspace
  · intro h
    exact ⟨h .terminal, h .tab, h .workspace⟩

theorem Topology.preserveStatus_identity (t : Topology) (kind : CommitKind) (incoming : AgentInfo)
    (f : IdentityField) : (t.preserveStatus kind incoming).identity f = incoming.identity f := by
  simp only [Topology.preserveStatus]
  split
  · rfl
  · split
    · rfl
    · split
      · rfl
      · cases f <;> rfl

/-- A row replaces a session by its identity alone. -/
theorem Topology.replaces_preserveStatus (t : Topology) (kind : CommitKind)
    (incoming : AgentInfo) : t.replaces (t.preserveStatus kind incoming) = t.replaces incoming := by
  unfold Topology.replaces
  rw [t.preserveStatus_paneId]
  cases t.oldRow incoming.paneId with
  | none => rfl
  | some existing =>
    show paneIdentityMoved _ [(t.preserveStatus kind incoming).identity .terminal,
      (t.preserveStatus kind incoming).identity .tab,
      (t.preserveStatus kind incoming).identity .workspace] = _
    rw [t.preserveStatus_identity, t.preserveStatus_identity, t.preserveStatus_identity]
    rfl

theorem Topology.statusRow_identity (payload : Topology.StatusChanged) (committed : AgentInfo)
    (f : IdentityField) : (Topology.statusRow payload committed).identity f
      = committed.identity f := by
  cases f <;> rfl

theorem Topology.oldRow_eq_paneOf {t : Topology} (honce : t.snapshot.Once) (p : String) :
    t.oldRow p = t.paneOf p :=
  Keyed.lookup_reverse (List.nodup_iff_count_le_one.mp honce p)

/-! ## §3 — one event -/

namespace System

/-- **When an event leaves no replacement unseen**: the snapshot it commits lists each pane once,
and no row of it omits an identity field that the committed row of its pane has. -/
def KeepsIdentity (s : System) : SystemEvent → Prop
  | .accept _ snapshot _ _ => snapshot.Once ∧
    ∀ incoming ∈ snapshot.agents, ∀ committed ∈ s.row incoming.paneId, ∀ f,
      committed.identity f ≠ "" → incoming.identity f ≠ ""
  | _ => True

instance (s : System) : (e : SystemEvent) → Decidable (s.KeepsIdentity e)
  | .accept _ snapshot _ _ => inferInstanceAs (Decidable (snapshot.Once ∧
      ∀ incoming ∈ snapshot.agents, ∀ committed ∈ s.row incoming.paneId, ∀ f,
        committed.identity f ≠ "" → incoming.identity f ≠ ""))
  | .status .. | .bump .. | .markStale | .inventoryFailed .. | .republish | .publish
  | .attention .. | .acknowledge .. => .isTrue trivial

theorem KeepsIdentity.once {s : System} {e : SystemEvent} (h : s.KeepsIdentity e) : e.Once := by
  cases e with
  | accept env snapshot enrichments kind => exact h.1
  | _ => trivial

/-- The pane is still there, and what was known of its session still holds. -/
structure SameSession (s s' : System) (p : String) : Prop where
  live : s'.Live p
  identity : ∀ row ∈ s.row p, ∀ row' ∈ s'.row p, ∀ f, row.identity f ≠ "" →
    row'.identity f = row.identity f

variable {host : Host} {s : System} {e : SystemEvent} {p : String}

theorem SameSession.refl (hlive : s.Live p) : SameSession s s p := by
  refine ⟨hlive, ?_⟩
  intro row hrow row' hrow' f _
  rw [Option.mem_unique hrow' hrow]

theorem SameSession.trans {s' s'' : System} (h : SameSession s s' p)
    (h' : SameSession s' s'' p) : SameSession s s'' p := by
  refine ⟨h'.live, ?_⟩
  intro row hrow row'' hrow'' f hf
  obtain ⟨row', hrow'⟩ := Option.ne_none_iff_exists'.mp ((s'.live_iff_row p).mp h.live)
  have hfirst := h.identity row hrow row' hrow' f hf
  rw [← hfirst]
  exact h'.identity row' hrow' row'' hrow'' f (hfirst.symm ▸ hf)

theorem SameSession.of_row_eq {s' : System} (hlive : s.Live p) (hrow : s'.row p = s.row p) :
    SameSession s s' p := by
  refine ⟨(s'.live_iff_row p).mpr (hrow ▸ (s.live_iff_row p).mp hlive), ?_⟩
  intro row hrow₁ row' hrow₂ f _
  rw [hrow] at hrow₂
  rw [Option.mem_unique hrow₂ hrow₁]

theorem acceptGeneration_le (t : Topology) (incoming : AgentInfo) (generation : Int) :
    generation ≤ t.acceptGeneration incoming generation := by
  unfold Topology.acceptGeneration
  split <;> omega

/-- **The generation never falls.** -/
theorem generation_le_step (host : Host) (he : e.Once) (p : String) :
    s.generation p ≤ (s.step host e).generation p := by
  cases step_pane host s he p with
  | sampled _ _ _ _ _ hgeneration _ =>
    rw [hgeneration]
    exact acceptGeneration_le _ _ _
  | removed _ _ _ _ _ hgeneration _ => omega
  | rewritten _ _ _ _ hgeneration _ => omega
  | classified _ _ _ _ hgeneration _ => omega
  | acknowledged _ _ hgeneration _ => omega
  | bumped _ _ _ hgeneration _ => omega
  | kept _ _ hgeneration _ => omega

/-- **It moves, or the session is the same.** -/
theorem step_session (host : Host) (hs : s.Once) (he : s.KeepsIdentity e) (hlive : s.Live p) :
    s.generation p < (s.step host e).generation p ∨ SameSession s (s.step host e) p := by
  cases step_pane host s he.once p with
  | @sampled env snapshot enrichments kind incoming index hevent hmem hid hrow _ hgeneration _ =>
    obtain ⟨committed, hcommitted⟩ :=
      Option.ne_none_iff_exists'.mp ((s.live_iff_row p).mp hlive)
    have hold : s.topology.oldRow incoming.paneId = some committed := by
      rw [hid, Topology.oldRow_eq_paneOf hs]
      exact hcommitted
    cases hreplaces : s.topology.replaces incoming with
    | true =>
      left
      rw [hgeneration, Topology.acceptGeneration, hreplaces, Bool.true_or, if_pos rfl]
      exact Int.lt_succ _
    | false =>
      right
      refine ⟨((s.step host e).live_iff_row p).mpr (by rw [hrow]; exact Option.some_ne_none _), ?_⟩
      intro row hrow₁ row' hrow₂ f hf
      rw [hrow] at hrow₂
      obtain rfl := Option.some.inj hrow₂
      obtain rfl := Option.mem_unique hcommitted hrow₁
      simp only [Topology.replaces, hold] at hreplaces
      -- the field is known on both sides, so a change of it would have been found
      have hknown : incoming.identity f ≠ "" := by
        obtain ⟨sampled, hsampled, rfl⟩ :=
          s.topology.sampled_of_mem_incomingRows snapshot kind hmem
        subst hevent
        rw [Topology.preserveStatus_identity]
        rw [Topology.preserveStatus_paneId] at hid
        exact he.2 sampled hsampled committed (by rw [hid]; exact hcommitted) f hf
      exact ((paneSessionReplaced_eq_false_iff committed incoming).mp hreplaces f hf hknown).symm
  | removed _ _ _ _ _ hgeneration _ => exact .inl (by omega)
  | @rewritten env payload committed _ hcommitted hrow _ _ _ =>
    right
    refine ⟨((s.step host e).live_iff_row p).mpr (by rw [hrow]; exact Option.some_ne_none _), ?_⟩
    intro row hrow₁ row' hrow₂ f _
    rw [hrow] at hrow₂
    obtain rfl := Option.some.inj hrow₂
    obtain rfl := Option.mem_unique hcommitted hrow₁
    exact Topology.statusRow_identity payload committed f
  | classified _ hrow _ _ _ _ => exact .inr (.of_row_eq hlive hrow)
  | acknowledged hrow _ _ _ => exact .inr (.of_row_eq hlive hrow)
  | bumped _ _ _ hgeneration _ => exact .inl (by omega)
  | kept hrow _ _ _ => exact .inr (.of_row_eq hlive hrow)

/-! ## §4 — runs -/

theorem generation_mono {condition : System → SystemEvent → Prop} {events : List SystemEvent}
    (h : Each host condition events) (honce : ∀ s e, condition s e → e.Once) (p : String)
    {i j : Nat} (hij : i ≤ j) :
    (after host events i).generation p ≤ (after host events j).generation p :=
  h.since (I := fun s => (after host events i).generation p ≤ s.generation p)
    (fun _ _ hs he => hs.trans (generation_le_step _ (honce _ _ he) p)) hij le_rfl

/-- From a state where the pane is there, its generation has moved or its session is the same. -/
theorem session_since {events : List SystemEvent} (h : Each host KeepsIdentity events) {p : String}
    {i j : Nat} (hij : i ≤ j) (hlive : (after host events i).Live p) :
    (after host events i).generation p < (after host events j).generation p ∨
      SameSession (after host events i) (after host events j) p := by
  have honce : ∀ s e, KeepsIdentity s e → e.Once := fun _ _ he => he.once
  have hkept := h.since (I := fun s => s.Once ∧
      (after host events i).generation p ≤ s.generation p ∧
      ((after host events i).generation p < s.generation p ∨
        SameSession (after host events i) s p)) ?_ hij
    ⟨h.once honce i, le_rfl, .inr (.refl hlive)⟩
  · exact hkept.2.2
  rintro s e ⟨hs, hle, hsince⟩ he
  have hstep := generation_le_step host (s := s) he.once p
  refine ⟨hs.step host he.once, hle.trans hstep, ?_⟩
  rcases hsince with hmoved | hsame
  · exact .inl (lt_of_lt_of_le hmoved hstep)
  · rcases step_session host hs he hsame.live with hmoved | hnext
    · exact .inl (lt_of_le_of_lt hle hmoved)
    · exact .inr (hsame.trans hnext)

/-- **The generation fence.** In every run in which no committed row omits what is known of its
pane's session: the generation of a pane never falls; and if a pane is committed at two times with
different known values of an identity field, or was missing at some time between them, its
generation has moved in between, and the target captured at the first time is refused at the second
by every action that checks it. -/
theorem generation_fences_sessions (host : Host) (events : List SystemEvent)
    (hkeeps : Each host KeepsIdentity events) (p : String) {i j : Nat} (hij : i ≤ j) :
    (after host events i).generation p ≤ (after host events j).generation p ∧
    ∀ row ∈ (after host events i).row p, ∀ row' ∈ (after host events j).row p,
      ((∃ f, row.identity f ≠ "" ∧ row'.identity f ≠ "" ∧ row.identity f ≠ row'.identity f) ∨
        ∃ k, i ≤ k ∧ k ≤ j ∧ ¬ (after host events k).Live p) →
      (after host events i).generation p < (after host events j).generation p ∧
        ∀ actionType, Topology.ChecksTarget actionType p →
          ((after host events j).topology.validateExactPaneTarget actionType p
            (some ((after host events i).topology.targetOf row)) true).isSome = true := by
  have honce : ∀ s e, KeepsIdentity s e → e.Once := fun _ _ he => he.once
  refine ⟨generation_mono hkeeps honce p hij, ?_⟩
  intro row hrow row' hrow' hreplaced
  have hlive : (after host events i).Live p := by
    rw [live_iff_row, Option.mem_def.mp hrow]
    exact Option.some_ne_none row
  have hmoved : (after host events i).generation p < (after host events j).generation p := by
    rcases hreplaced with ⟨f, hknown, -, hdiffers⟩ | ⟨k, hik, hkj, hgone⟩
    · rcases session_since hkeeps hij hlive with hmoved | hsame
      · exact hmoved
      · exact absurd (hsame.identity row hrow row' hrow' f hknown).symm hdiffers
    · rcases session_since hkeeps hik hlive with hmoved | hsame
      · exact lt_of_lt_of_le hmoved (generation_mono hkeeps honce p hkj)
      · exact absurd hsame.live hgone
  refine ⟨hmoved, ?_⟩
  intro actionType hchecks
  refine Topology.validateExactPaneTarget_of_generation hchecks ?_ true
  show (after host events i).topology.generations row.paneId ≠ _
  rw [show row.paneId = p from Keyed.key_of_lookup hrow]
  exact ne_of_lt hmoved

/-! ## §5 — a replacement seen at once, and one seen in two -/

/-- A poll that samples one pane in a tab. -/
def tabPoll (tabId : String) : SystemEvent :=
  .accept { now := 1 }
    { agents := [{ paneId := "w1:p1", terminalId := "t1", tabId, agentStatus := .idle }] }
    (fun _ => none) .poll

/-- The pane moves to another tab: the generation moves, and the target captured before is
refused. -/
theorem generation_fences_sessions_seen :
    let events := [tabPoll "a", tabPoll "b"]
    (after plainHost events 1).generation "w1:p1" < (after plainHost events 2).generation "w1:p1" ∧
      ∃ row ∈ (after plainHost events 1).row "w1:p1",
        ((after plainHost events 2).topology.validateExactPaneTarget "send_text" "w1:p1"
          (some ((after plainHost events 1).topology.targetOf row)) true).isSome = true := by
  intro events
  have hfirst : (after plainHost events 1).row "w1:p1"
      = some { paneId := "w1:p1", terminalId := "t1", tabId := "a", agentStatus := .idle } := by
    decide +kernel
  have hsecond : (after plainHost events 2).row "w1:p1"
      = some { paneId := "w1:p1", terminalId := "t1", tabId := "b", agentStatus := .idle } := by
    decide +kernel
  have h := (generation_fences_sessions plainHost events (by decide +kernel) "w1:p1"
    (show 1 ≤ 2 by decide)).2 _ hfirst _ hsecond (.inl ⟨.tab, by decide +kernel⟩)
  exact ⟨h.1, _, hfirst, h.2 "send_text" (by decide +kernel)⟩

/-- **A replacement unseen.** The pane is committed in one tab, then with no tab, then in another:
the generation stays, and the target captured in the first tab validates in the other. -/
theorem replacement_unseen :
    let events := [tabPoll "a", tabPoll "", tabPoll "b"]
    ([1, 2, 3].map fun k => ((after plainHost events k).row "w1:p1").map (·.tabId))
        = [some "a", some "", some "b"] ∧
      ([1, 2, 3].map fun k => (after plainHost events k).generation "w1:p1") = [0, 0, 0] ∧
      ((after plainHost events 1).row "w1:p1").map (fun row =>
        (after plainHost events 3).topology.validateExactPaneTarget "send_text" "w1:p1"
          (some ((after plainHost events 1).topology.targetOf row)) true) = some none := by
  decide +kernel

end System

end Lerdr.Coord
