/-
# Lerdr.Watch.Recovery — what a watch does after a delivery failed.

A tick pushes the frame its read yields exactly when it gets to the read and the frame is not a
repeat of the last accepted one. Whether it gets to the read is decided by what earlier turns left:
the probe fingerprint in snapshot mode, the dirty flag in stream mode. A timeout and a client resync
clear the probe and owe a full frame, so in snapshot mode the next read goes out in full. But a push
that the sink refuses leaves the probe fingerprint of the refused frame behind, and neither failure
marks the stream dirty: a quiet pane is then not read again.
-/
import Lerdr.Watch.Discipline

namespace Lerdr.Watch

/-! ## §1 — deliveries -/

/-- How the last attempt to deliver a frame went. -/
inductive Delivery where
  | accepted
  | refused
  /-- the ack timed out, or a resync could not read -/
  | restarted
  deriving DecidableEq, Repr

/-- What a turn says about delivery. -/
def Turn.delivery (t : Turn) : Option Delivery :=
  match t.push with
  | some (.content _ _ a) => some (if a then .accepted else .refused)
  | _ =>
    match t.event, t.seen with
    | some .timeout, _ => some .restarted
    | some (.resync _), .retry => some .restarted
    | _, _ => none

def lastDelivery (ts : List Turn) : Option Delivery :=
  ts.foldl (fun last t => t.delivery.or last) none

/-! ## §2 — the read of a tick -/

/-- The slot a tick works with. -/
def PollEnv.slot (env : PollEnv) (loop : Loop) : StreamSlot :=
  syncStreamGeometry env.target env.respawns loop.slot

/-- What the read of a tick yields, if the tick gets to it. -/
def PollEnv.wouldRead (env : PollEnv) (spec : WatchSpec) (loop : Loop) : FrameRead :=
  if (env.slot loop).initialized then (readWatchFrame spec env.stream.read true {}).1
  else (readWatchFrame spec env.read false {}).1

/-- Nothing outside keeps the tick from its read: no observer restart is pending, and the shared
history is free (stream mode) or the probe is verified under the fences (snapshot mode). -/
def PollEnv.looks (env : PollEnv) (loop : Loop) : Bool :=
  let slot := env.slot loop
  !(slot.resumePending && slot.stream.isSome) &&
    if slot.initialized then (refreshApplicationHistory env.stream.history slot).2
    else
      match paneReadFresh env.probe.first env.probe.second with
      | .error _ => false
      | .ok _ =>
        decide (env.probe.generationNow = env.probe.generation) &&
          decide (env.probe.contentRevNow = env.probe.contentRev)

/-- **What the tick looks at has moved**: in stream mode the emulator is dirty or the metadata
moved; in snapshot mode the probe is `needsRead`. -/
def PollEnv.moved (env : PollEnv) (host : WatchHost) (loop : Loop) : Bool :=
  let slot := env.slot loop
  if slot.initialized then slot.dirty || metadataMoved env.stream.agent loop.state
  else
    match paneReadFresh env.probe.first env.probe.second with
    | .error _ => false
    | .ok probe => needsRead host env.probe probe loop.state

section Reads

variable {host : WatchHost} {spec : WatchSpec}
variable {s : WatchState} {f : WatchFrame} {loop : Loop}

/-- A read that yields a frame. -/
theorem readWatchFrame_eq_frame {env : ReadEnv} {initialized : Bool}
    (hread : (readWatchFrame spec env initialized {}).1 = .frame f) (s : WatchState) :
    ∃ s₀, readWatchFrame spec env initialized s = (.frame f, s₀) ∧ Quiet s s₀ := by
  rcases readWatchFrame_cases spec env initialized with ⟨f', h⟩ | h | ⟨-, h⟩
  · obtain ⟨_, h₀, -⟩ := h {}
    obtain ⟨s₀, hs₀, hquiet, -⟩ := h s
    rw [h₀] at hread
    obtain rfl := FrameRead.frame.inj hread
    exact ⟨s₀, hs₀, hquiet⟩
  · obtain ⟨_, h₀, -⟩ := h {}
    rw [h₀] at hread
    cases hread
  · rw [h] at hread
    cases hread

theorem revive_initialized {env : ProbeEnv} {slot : StreamSlot}
    (h : slot.initialized = false) : (revive env s slot).initialized = false := by
  rw [revive]
  split
  · cases env.spawns <;> simp [StreamSlot.initialized, spawn]
  · exact h

theorem repeats_of_quiet {s s₀ : WatchState} (h : Quiet s s₀) (f : WatchFrame) :
    repeats host spec s₀ f = repeats host spec s f := by
  rw [repeats, repeats, h.forceFull, h.sentFrameFingerprint]

/-- `sendFrame` with the gate open pushes what is not a repeat. -/
theorem sendFrame_pushes_iff (hopen : s.pendingAck = false) (now : Nat)
    (accepts : Bool) (f : WatchFrame) :
    (∃ m a, (sendFrame host spec now accepts s f).push = some (.content f m a)) ↔
      repeats host spec s f = false := by
  rw [sendFrame, if_neg (by simp [hopen])]
  cases repeats host spec s f <;> simp

/-- `sendFrame` after a read, from the state before it. -/
theorem sendFrame_quiet_pushes_iff {s s₀ : WatchState} (hopen : s.pendingAck = false)
    (hquiet : Quiet s s₀) (now : Nat) (accepts : Bool) (f : WatchFrame) :
    (∃ m a, (sendFrame host spec now accepts s₀ f).push = some (.content f m a)) ↔
      repeats host spec s f = false := by
  rw [sendFrame_pushes_iff (hquiet.pendingAck.trans hopen), repeats_of_quiet hquiet]

theorem tryPollStream_pushes_iff (hopen : s.pendingAck = false) (now : Moment)
    {env : StreamEnv} {slot : StreamSlot} (hinit : slot.initialized = true)
    (hread : (readWatchFrame spec env.read true {}).1 = .frame f) :
    (∃ m a, (tryPollStream host spec now env s slot).push = some (.content f m a)) ↔
      ((refreshApplicationHistory env.history slot).2 &&
        (slot.dirty || metadataMoved env.agent s)) = true ∧ repeats host spec s f = false := by
  obtain ⟨s₀, hs₀, hquiet⟩ := readWatchFrame_eq_frame hread s
  simp only [tryPollStream]
  rw [if_neg (by simp [hopen, hinit])]
  by_cases hready : (refreshApplicationHistory env.history slot).2 = true
  · obtain ⟨hinit', hdirty⟩ := refreshApplicationHistory_ready hready
    rw [if_neg (by simp [hready]), hdirty, hinit', hinit, hs₀]
    by_cases hmoved : (slot.dirty || metadataMoved env.agent s) = true
    · have hgo : ¬ (!slot.dirty && !metadataMoved env.agent s) = true := by
        rw [← Bool.not_or, hmoved]
        simp
      rw [if_neg hgo]
      simp only [hready, hmoved, Bool.and_true, true_and]
      exact sendFrame_quiet_pushes_iff hopen hquiet _ _ f
    · have hstop : (!slot.dirty && !metadataMoved env.agent s) = true := by
        rw [← Bool.not_or]
        simpa using hmoved
      rw [if_pos hstop]
      simp [hmoved]
  · rw [if_pos (by simpa using hready)]
    simp [hready]

theorem poll_snapshot_pushes_iff (hopen : loop.state.pendingAck = false)
    (now : Moment) {env : PollEnv}
    (hresume : ((env.slot loop).resumePending && (env.slot loop).stream.isSome) = false)
    (hinit : (env.slot loop).initialized = false)
    (hread : (readWatchFrame spec env.read false {}).1 = .frame f) :
    (∃ m a, (poll host spec now env loop.state loop.slot).push = some (.content f m a)) ↔
      (∃ probe, paneReadFresh env.probe.first env.probe.second = .ok probe ∧
        env.probe.generationNow = env.probe.generation ∧
        env.probe.contentRevNow = env.probe.contentRev ∧
        needsRead host env.probe probe loop.state = true) ∧
      repeats host spec loop.state f = false := by
  simp only [poll]
  rw [show syncStreamGeometry env.target env.respawns loop.slot = env.slot loop from rfl,
    if_neg (by simp [hresume]), if_neg (by simp [hinit])]
  cases paneReadFresh env.probe.first env.probe.second with
  | error err =>
    -- a failed probe pushes at most the death notice
    refine iff_of_false ?_ (by simp)
    rintro ⟨m, a, h⟩
    dsimp only at h
    split at h
    · exact absurd h (sendGone_push_ne_content _ _ _ _ _ _ _)
    · simp at h
  | ok probe =>
    simp only [Except.ok.injEq, exists_eq_left']
    by_cases hfence : env.probe.generationNow ≠ env.probe.generation ∨
        env.probe.contentRevNow ≠ env.probe.contentRev
    · rw [if_pos hfence]
      rcases hfence with h | h <;> simp [h]
    rw [if_neg hfence]
    simp only [not_or, not_not] at hfence
    -- `needsRead` does not look at the mark the probe clears
    have hneeds : needsRead host env.probe probe { loop.state with gone := false }
        = needsRead host env.probe probe loop.state := rfl
    rw [hneeds]
    by_cases hneed : needsRead host env.probe probe loop.state = true
    · have hfold := (Quiet.alive loop.state).trans
        (.foldUpstream { loop.state with gone := false } env.probe.generation probe.revision)
      obtain ⟨s₀, hs₀, hquiet⟩ := readWatchFrame_eq_frame hread
        (({ loop.state with gone := false } : WatchState).foldUpstream env.probe.generation
          probe.revision)
      rw [revive_initialized hinit, hs₀]
      simp only [hneed, Bool.not_true, Bool.false_eq_true, if_false, hfence, and_self, true_and]
      exact sendFrame_quiet_pushes_iff hopen ((hfold.trans hquiet).trans (.probe _ _)) _ _ f
    · simp [hneed]

/-- **A poll pushes the frame it would read exactly when it looks, something moved, and the frame is
not a repeat.** -/
theorem poll_pushes_iff (hopen : loop.state.pendingAck = false) (now : Moment)
    {env : PollEnv} (hread : env.wouldRead spec loop = .frame f) :
    (∃ m a, (poll host spec now env loop.state loop.slot).push = some (.content f m a)) ↔
      (env.looks loop && env.moved host loop) = true ∧ repeats host spec loop.state f = false := by
  have hslot : syncStreamGeometry env.target env.respawns loop.slot = env.slot loop := rfl
  simp only [PollEnv.wouldRead] at hread
  simp only [PollEnv.looks, PollEnv.moved]
  by_cases hresume : ((env.slot loop).resumePending && (env.slot loop).stream.isSome) = true
  · simp [poll, hslot, hresume]
  have hresume' := Bool.eq_false_of_not_eq_true hresume
  by_cases hinit : (env.slot loop).initialized = true
  · rw [if_pos hinit] at hread
    simp only [poll, hslot, hresume', hinit, if_true, Bool.false_eq_true, if_false, Bool.not_false,
      Bool.true_and]
    exact tryPollStream_pushes_iff hopen now hinit hread
  · rw [if_neg hinit] at hread
    rw [poll_snapshot_pushes_iff hopen now hresume' (Bool.eq_false_of_not_eq_true hinit) hread,
      hresume', if_neg hinit, if_neg hinit]
    cases paneReadFresh env.probe.first env.probe.second <;> simp [and_assoc]

/-! ## §3 — a restarted chain keeps its probe clear -/

/-- A turn that looks at the pane owing a full frame, with a clear probe, keeps the probe clear
unless it pushes content. -/
theorem Look.probe_clear {r : Served} (h : Look host spec s r) (hfull : s.forceFull = true)
    (hprobe : s.probeFingerprint = "") (hpush : ∀ f m a, r.push ≠ some (.content f m a)) :
    r.state.probeFingerprint = "" := by
  rcases h.probe with hkept | hclear | ⟨hopen, s₀, now, accepts, f, hquiet, rfl⟩
  · exact hkept.trans hprobe
  · exact hclear
  · -- the probe is recorded, but a frame that is owed in full is never a repeat
    have hnew : repeats host spec s f = false := by simp [repeats, hfull]
    obtain ⟨m, a, h⟩ := (sendFrame_quiet_pushes_iff hopen hquiet now accepts f).mpr hnew
    exact absurd h (hpush f m a)

/-- The chain was restarted and nothing went out since. -/
def Restarted (s : WatchState) : Prop := s.forceFull = true ∧ s.probeFingerprint = ""

/-- Only a push delivers, only a restart restarts. -/
theorem delivery_cases (t : Turn) :
    (∃ d, t.delivery = some d ∧ d ≠ .restarted) ∨
      (∀ f m a, t.push ≠ some (.content f m a)) ∧
        (t.delivery = none ∨ t.delivery = some .restarted ∧ t.restarts = true) := by
  simp only [Turn.delivery]
  split
  · next a _ => exact .inl ⟨_, rfl, by cases a <;> simp⟩
  · next hpush =>
    refine .inr ⟨hpush, ?_⟩
    split
    · next h => exact .inr ⟨rfl, by simp [Turn.restarts, h]⟩
    · next h _ => exact .inr ⟨rfl, by simp [Turn.restarts, h]⟩
    · exact .inl rfl

theorem prepared_restarted {t : Turn} (h : Restarted s ∨ t.restarts = true) :
    Restarted (t.prepared s) := by
  obtain ⟨-, hprep⟩ | ⟨hrestarts, hprep⟩ := prepared_cases t s
  · rw [hprep]
    exact ⟨rfl, rfl⟩
  · have hs : Restarted s := by simpa [hrestarts] using h
    obtain hsame | ⟨env, -, -, hack⟩ := hprep
    · rw [hsame]
      exact hs
    · rw [hack]
      exact hs

/-- **One step keeps a restarted chain restarted** until something is delivered. -/
theorem restarted_step (last : Option Delivery) (l : Option Loop) (t : Turn) (l' : Option Loop)
    (hs : last = some .restarted → Restarted (stateOf l)) (h : WatchStep host spec l t l') :
    t.delivery.or last = some .restarted → Restarted (stateOf l') := by
  intro hlast
  rcases delivery_cases t with ⟨d, hd, hne⟩ | ⟨hpush, hdelivery⟩
  · rw [hd, Option.some_or, Option.some.injEq] at hlast
    exact absurd hlast hne
  · have hprep : Restarted (t.prepared (stateOf l)) := by
      rcases hdelivery with hnone | ⟨-, hrestarts⟩
      · rw [hnone, Option.none_or] at hlast
        exact prepared_restarted (.inl (hs hlast))
      · exact prepared_restarted (.inr hrestarts)
    refine ⟨(h.noContent hpush).2.2.1.trans hprep.1, ?_⟩
    cases h with
    | first opening =>
      -- a first pass restarts nothing, and nothing came before it
      exact absurd hprep.1 (by simp [Turn.prepared, stateOf])
    | turn loop now event fires =>
      exact (turn_look now loop event).probe_clear hprep.1 hprep.2 hpush

theorem restarted_of_runs {ts : List Turn} {l : Option Loop}
    (h : Lib.Runs (WatchStep host spec) none ts l) (hlast : lastDelivery ts = some .restarted) :
    Restarted (stateOf l) := by
  have hinv := h.foldl_invariant (I := fun last l => last = some Delivery.restarted →
    Restarted (stateOf l)) restarted_step (g := none) (by simp)
  exact hinv hlast

end Reads

/-! ## §4 — recovery -/

/-- **What a tick does after a failed delivery**, in every run. Suppose the gate is open, nothing
outside keeps the tick from its read, and the read would yield a frame. Then the frame is pushed (in
full, when a full frame is owed) exactly when what the tick looks at has moved and the frame is not
the last accepted one. In snapshot mode that is always so after a timeout, and after a resync that
could not read. -/
theorem failed_delivery_recovery (host : WatchHost) (spec : WatchSpec) (opening : Opening)
    (inputs : List Input) :
    ∀ (pre post : List Turn) (t : Turn) (env : PollEnv) (f : WatchFrame),
      watchLoop host spec opening inputs = pre ++ t :: post →
      (lastDelivery pre = some .refused ∨ lastDelivery pre = some .restarted) →
      t.event = some (.tick env) → t.before.state.pendingAck = false →
      env.looks t.before = true → env.wouldRead spec t.before = .frame f →
      ((∃ m a, t.push = some (.content f m a) ∧
          (t.before.state.forceFull = true → m = fullFrame host spec f)) ↔
        env.moved host t.before = true ∧ repeats host spec t.before.state f = false) ∧
      (lastDelivery pre = some .restarted → (env.slot t.before).initialized = false →
        env.moved host t.before = true ∧ repeats host spec t.before.state f = false) := by
  intro pre post t env f hsplit _ hevent hopen hlooks hread
  obtain ⟨last, hruns⟩ := watchLoop_runs host spec opening inputs
  rw [hsplit] at hruns
  obtain ⟨l₀, l₁, hpre, hstep, -⟩ := hruns.around
  refine ⟨?_, fun hlast hmode => ?_⟩
  · cases hstep with
    | first opening => cases hevent
    | turn loop now event fires =>
      obtain rfl := Option.some.inj hevent
      have hpushes : (∃ m a, (poll host spec now env loop.state loop.slot).push
          = some (.content f m a)) ↔ _ := poll_pushes_iff hopen now hread
      rw [hlooks, Bool.true_and] at hpushes
      rw [← hpushes]
      have hturn : (turn host spec now loop (.tick env)).push
          = (poll host spec now env loop.state loop.slot).push := by
        simp only [turn]
        rw [if_neg (by simpa using hopen)]
        rfl
      constructor
      · rintro ⟨m, a, hpush, -⟩
        exact ⟨m, a, hturn ▸ hpush⟩
      · rintro ⟨m, a, hpush⟩
        have hpush' := hturn.trans hpush
        exact ⟨m, a, hpush', fun hfull =>
          full_of_owed (.turn loop now (.tick env) fires) (.inl hfull) hpush'⟩
  · -- the restart cleared the probe and owes a full frame, and nothing since has undone either
    have hrestarted := restarted_of_runs hpre hlast
    cases hstep with
    | first opening => cases hevent
    | turn loop now event fires =>
      obtain ⟨hfull, hprobe⟩ : Restarted loop.state := hrestarted
      refine ⟨?_, by simp [repeats, hfull]⟩
      simp only [PollEnv.looks, PollEnv.moved, hmode] at hlooks ⊢
      cases hfresh : paneReadFresh env.probe.first env.probe.second with
      | error err => simp [hfresh] at hlooks
      | ok probe => simp [needsRead, hprobe]

/-! ## §5 — a frame sent again, and two that are not -/

/-- Two screens of a pane with no agent, as they are classified. -/
def firstScreen : PreparedPane :=
  { content := ⟨"a\nb\n".toList, by decide⟩, semantics := { prompt := "a b" } }

def secondScreen : PreparedPane :=
  { content := ⟨"hello world\n".toList, by decide⟩, semantics := { prompt := "hello world" } }

def PreparedPane.frame (screen : PreparedPane) : WatchFrame :=
  { content := screen.content, semantics := screen.semantics }

/-- SHA-256 on the texts and frames of the two screens. -/
def sampleHost : WatchHost where
  digest bytes :=
    let plain : WatchHost := ⟨fun _ => "", fun _ => []⟩
    if bytes = utf8 firstScreen.content.text then "911169ddaaf146af"
    else if bytes = utf8 secondScreen.content.text then "a948904f2f0f479b"
    else if bytes = frameBytes plain .text firstScreen.frame then "955b788d93b166c3"
    else if bytes = frameBytes plain .text secondScreen.frame then "b2599f39a9cf7425"
    else ""
  optionsJson _ := []

def sampleSpec : WatchSpec := { paneId := "w1:p1", target := { paneId := "w1:p1" } }

/-- A socket read that answers at once. -/
def answers (screen : PreparedPane) : ReadAttempt :=
  { result := .ok { text := screen.content.text } }

/-- Reading a pane that shows a screen, by socket or emulator. -/
def readOf (screen : PreparedPane) : ReadEnv :=
  { attempts := fun _ => (answers screen, answers screen)
    render := fun _ => (screen.content.text, false)
    prepare := fun _ _ => screen }

def pollOf (screen : PreparedPane) : PollEnv :=
  { stream := { read := readOf screen }
    probe := { first := answers screen, second := answers screen }
    read := readOf screen }

/-- Snapshot mode: the ack of the first screen times out, and the pane stays as it is. -/
def resentRun : List Turn :=
  watchLoop sampleHost sampleSpec { now := {}, spawns := false, read := readOf firstScreen }
    [⟨{ woke := 4000 }, .timeout⟩, ⟨{ woke := 4250 }, .tick (pollOf firstScreen)⟩]

theorem resentRun_ne_nil : resentRun ≠ [] := List.cons_ne_nil _ _

/-- The tick after the timeout sends the screen again, in full. -/
theorem failed_delivery_recovery_timed_out_snapshot :
    ∃ m a, (resentRun.getLast resentRun_ne_nil).push = some (.content firstScreen.frame m a) ∧
      m = fullFrame sampleHost sampleSpec firstScreen.frame := by
  have hlast : lastDelivery resentRun.dropLast = some .restarted := by decide +kernel
  have h := failed_delivery_recovery sampleHost sampleSpec _ _ resentRun.dropLast []
    (resentRun.getLast resentRun_ne_nil) (pollOf firstScreen) firstScreen.frame
    (List.dropLast_append_getLast resentRun_ne_nil).symm (.inr hlast) rfl (by decide +kernel)
    (by decide +kernel) rfl
  obtain ⟨m, a, hpush, hfull⟩ := h.1.mpr (h.2 hlast (by decide +kernel))
  exact ⟨m, a, hpush, hfull (by decide +kernel)⟩

/-- A tick after a failed delivery, with the gate open and a frame there to be read, that pushes
nothing. -/
def Turn.losesFrame (spec : WatchSpec) (pre : List Turn) (t : Turn) : Bool :=
  match t.event with
  | some (.tick env) =>
    (lastDelivery pre == some .refused || lastDelivery pre == some .restarted) &&
      !t.before.state.pendingAck && env.looks t.before &&
      (match env.wouldRead spec t.before with
        | .frame _ => true
        | _ => false) &&
      t.push.isNone
  | _ => false

/-- Snapshot mode: the first screen is shown and acked, the push of the second is refused, and the
pane stays as it is. -/
def refusedRun : List Turn :=
  watchLoop sampleHost sampleSpec { now := {}, spawns := false, read := readOf firstScreen }
    [⟨{ woke := 100 }, .ack "911169ddaaf146af" { read := readOf firstScreen }⟩,
      ⟨{ woke := 250, accepts := false }, .tick (pollOf secondScreen)⟩,
      ⟨{ woke := 500 }, .tick (pollOf secondScreen)⟩]

/-- Stream mode: the second screen is rendered and pushed, its ack times out, and the pane stays as
it is. -/
def timedOutRun : List Turn :=
  watchLoop sampleHost sampleSpec { now := {}, spawns := true, read := readOf firstScreen }
    [⟨{ woke := 100 }, .ack "911169ddaaf146af" { read := readOf firstScreen }⟩,
      ⟨{ woke := 200, pushed := 200 }, .streamUpdated { read := readOf secondScreen }⟩,
      ⟨{ woke := 4200 }, .timeout⟩,
      ⟨{ woke := 4250 }, .tick (pollOf secondScreen)⟩]

/-- **A refused frame, and a timed-out one, stay unsent.** The last tick of either run finds the
frame and pushes nothing; in the second run a full frame is owed. -/
theorem quiet_pane_loses_frame :
    (refusedRun.length = 4 ∧ lastDelivery (refusedRun.take 3) = some .refused ∧
      (refusedRun.drop 3).all (·.losesFrame sampleSpec (refusedRun.take 3)) = true) ∧
    timedOutRun.length = 5 ∧ lastDelivery (timedOutRun.take 4) = some .restarted ∧
      (timedOutRun.drop 4).all
        (fun t => t.losesFrame sampleSpec (timedOutRun.take 4) && t.before.state.forceFull)
          = true := by
  decide +kernel

end Lerdr.Watch
