/-
# Lerdr.Watch.Turns — runs of the watch loop, and what one turn can do.

A run is the first pass and then the turns whose arm could fire. Whatever arm fires, a turn first
prepares the state (an accepted ack opens the gate, a resync and a timeout restart the chain), then
moves only what decides about reading, and then ends in one of four ways: it pushes nothing, asks
for a resync, hands a frame to `sendFrame`, or a death to `sendGone`. `WatchStep.outcome` says so;
every invariant of the loop is read off it.
-/
import Lerdr.Lib.Runs
import Lerdr.Watch.Loop

namespace Lerdr.Watch

/-! ## §1 — runs -/

/-- A turn as it happened: the loop before it, the arm that fired (`none` for the first pass), what
was pushed and what was seen. -/
structure Turn where
  before : Loop
  event : Option WatchEvent
  push : Option Push
  seen : Seen

/-- An arm and the moment it is polled at. -/
structure Input where
  now : Moment
  event : WatchEvent

/-- What the first pass finds. -/
structure Opening where
  now : Moment
  spawns : Bool
  size : Option (Nat × Nat) := none
  read : ReadEnv

section Runs

variable (host : WatchHost) (spec : WatchSpec)

/-- The turns of the loop; an arm that cannot fire is passed over. -/
def turns (loop : Loop) : List Input → List Turn
  | [] => []
  | input :: rest =>
    if enabled loop input.now input.event then
      let result := turn host spec input.now loop input.event
      { before := loop, event := some input.event, push := result.push, seen := result.seen } ::
        turns result.loop rest
    else turns loop rest

/-- The first pass of a watch. -/
def Opening.result (opening : Opening) : TurnResult :=
  start host spec opening.now opening.spawns opening.size opening.read

/-- `watch_loop` — the first pass and the turns after it. -/
def watchLoop (opening : Opening) (inputs : List Input) : List Turn :=
  let result := opening.result host spec
  { before := {}, event := none, push := result.push, seen := result.seen } ::
    turns host spec result.loop inputs

/-- The steps of a watch, as a relation; before the first pass there is no loop. -/
inductive WatchStep : Option Loop → Turn → Option Loop → Prop where
  | first (opening : Opening) :
      WatchStep none
        { before := {}, event := none, push := (opening.result host spec).push,
          seen := (opening.result host spec).seen }
        (some (opening.result host spec).loop)
  | turn (loop : Loop) (now : Moment) (event : WatchEvent) (fires : enabled loop now event = true) :
      WatchStep (some loop)
        { before := loop, event := some event, push := (turn host spec now loop event).push,
          seen := (turn host spec now loop event).seen }
        (some (turn host spec now loop event).loop)

theorem turns_runs (loop : Loop) (inputs : List Input) :
    ∃ loop', Lib.Runs (WatchStep host spec) (some loop) (turns host spec loop inputs) loop' := by
  induction inputs generalizing loop with
  | nil => exact ⟨some loop, .nil _⟩
  | cons input rest ih =>
    rw [turns]
    split_ifs with h
    · obtain ⟨loop', hrest⟩ := ih (turn host spec input.now loop input.event).loop
      exact ⟨loop', .cons (.turn loop input.now input.event h) hrest⟩
    · exact ih loop

theorem watchLoop_runs (opening : Opening) (inputs : List Input) :
    ∃ loop', Lib.Runs (WatchStep host spec) none (watchLoop host spec opening inputs) loop' := by
  obtain ⟨loop', hrest⟩ := turns_runs host spec (opening.result host spec).loop inputs
  exact ⟨loop', .cons (.first opening) hrest⟩

variable {host spec}

/-- Only the first pass starts from no loop. -/
theorem nil_of_runs_none {ts : List Turn} (h : Lib.Runs (WatchStep host spec) none ts none) :
    ts = [] := by
  rcases List.eq_nil_or_concat ts with hnil | ⟨init, t, rfl⟩
  · exact hnil
  · rw [List.concat_eq_append] at h
    obtain ⟨l, l', -, hstep, hend⟩ := h.around
    obtain rfl := Lib.Runs.nil_iff.mp hend
    cases hstep

end Runs

/-! ## §2 — what one turn can do -/

/-- Nothing that a client could notice moved; a verified read may have cleared `gone`. -/
structure Quiet (s s' : WatchState) : Prop where
  sentFingerprint : s'.sentFingerprint = s.sentFingerprint
  sentContent : s'.sentContent = s.sentContent
  sentFrameFingerprint : s'.sentFrameFingerprint = s.sentFrameFingerprint
  pendingAck : s'.pendingAck = s.pendingAck
  forceFull : s'.forceFull = s.forceFull
  gone : s'.gone = true → s.gone = true

theorem Quiet.refl (s : WatchState) : Quiet s s := ⟨rfl, rfl, rfl, rfl, rfl, id⟩

theorem Quiet.trans {s t u : WatchState} (h : Quiet s t) (h' : Quiet t u) : Quiet s u :=
  ⟨h'.1.trans h.1, h'.2.trans h.2, h'.3.trans h.3, h'.4.trans h.4, h'.5.trans h.5,
    fun hg => h.6 (h'.6 hg)⟩

theorem Quiet.alive (s : WatchState) : Quiet s { s with gone := false } :=
  ⟨rfl, rfl, rfl, rfl, rfl, fun h => by cases h⟩

theorem Quiet.foldUpstream (s : WatchState) (generation : Int) (revision : Nat) :
    Quiet s (s.foldUpstream generation revision) := ⟨rfl, rfl, rfl, rfl, rfl, id⟩

theorem Quiet.verified (s : WatchState) (generation : Int) (revision : Option Nat) :
    Quiet s (s.verified generation revision) := by
  cases revision with
  | none => exact .alive s
  | some revision => exact (Quiet.alive s).trans (.foldUpstream _ _ _)

theorem verified_gone (s : WatchState) (generation : Int) (revision : Option Nat) :
    (s.verified generation revision).gone = false := by
  cases revision <;> rfl

theorem Quiet.probe (s : WatchState) (fingerprint : String) :
    Quiet s { s with probeFingerprint := fingerprint } := ⟨rfl, rfl, rfl, rfl, rfl, id⟩

/-- **The four ways a turn ends**, from a prepared state. -/
inductive Outcome (host : WatchHost) (spec : WatchSpec) (s : WatchState) : Served → Prop where
  | quiet {r : Served} (state : Quiet s r.state) (push : r.push = none)
      (seen : r.seen = .nothing ∨ r.seen = .retry) : Outcome host spec s r
  | resync {r : Served} (accepts : Bool) (state : r.state = s)
      (push : r.push = some (.resync (resyncFrame spec) accepts)) (seen : r.seen = .nothing) :
      Outcome host spec s r
  | gone (s₀ : WatchState) (accepts probed : Bool) (state : Quiet s s₀)
      (flag : s₀.gone = (s.gone && !probed)) : Outcome host spec s (sendGone spec accepts probed s₀)
  | frame (s₀ : WatchState) (now : Nat) (accepts : Bool) (f : WatchFrame) (state : Quiet s s₀)
      (flag : s₀.gone = false) : Outcome host spec s (sendFrame host spec now accepts s₀ f)

section Outcomes

variable {host : WatchHost} {spec : WatchSpec}
variable {t : Turn} {l l' : Option Loop} {f : WatchFrame}

/-- **What a read can do**, whatever the state: it yields a frame, it is to be made again, or it
finds the pane gone, which an initialized emulator never does. -/
theorem readWatchFrame_cases (spec : WatchSpec) (env : ReadEnv) (initialized : Bool) :
    (∃ f, ∀ s, ∃ s₀, readWatchFrame spec env initialized s = (.frame f, s₀) ∧ Quiet s s₀ ∧
      s₀.gone = false ∧ s₀.probeFingerprint = s.probeFingerprint) ∨
    (∀ s, ∃ s₀, readWatchFrame spec env initialized s = (.retry, s₀) ∧ Quiet s s₀ ∧
      s₀.probeFingerprint = s.probeFingerprint) ∨
    initialized = false ∧ ∀ s, readWatchFrame spec env initialized s = (.gone, s) := by
  have hprobe : ∀ (s : WatchState) generation revision,
      (s.verified generation revision).probeFingerprint = s.probeFingerprint := by
    intro s generation revision
    cases revision <;> rfl
  simp only [readWatchFrame]
  split
  · exact .inr (.inl fun s => ⟨s, rfl, .refl s, rfl⟩)
  · split
    · next err herr =>
      cases err.isPaneNotFound with
      | false => exact .inr (.inl fun s => ⟨s, rfl, .refl s, rfl⟩)
      | true =>
        refine .inr (.inr ⟨?_, fun s => rfl⟩)
        cases initialized with
        | false => rfl
        | true => cases herr
    · next text truncated revision _ =>
      split
      · exact .inr (.inl fun s => ⟨s, rfl, .refl s, rfl⟩)
      · split
        · exact .inr (.inl fun s => ⟨_, rfl, .verified s _ _, hprobe s _ _⟩)
        · exact .inl ⟨_, fun s => ⟨_, rfl, .verified s _ _, verified_gone s _ _, hprobe s _ _⟩⟩

@[simp] theorem sendGone_probe (accepts probed : Bool) (s : WatchState) :
    (sendGone spec accepts probed s).state.probeFingerprint = s.probeFingerprint := by
  rw [sendGone]
  split <;> rfl

@[simp] theorem sendFrame_probe (now : Nat) (accepts : Bool) (s : WatchState) (f : WatchFrame) :
    (sendFrame host spec now accepts s f).state.probeFingerprint = s.probeFingerprint := by
  simp only [sendFrame]
  split_ifs <;> rfl

/-- **What looking at the pane leaves**: an outcome, and the probe fingerprint unless it was cleared
or recorded with a frame. -/
structure Look (host : WatchHost) (spec : WatchSpec) (s : WatchState) (r : Served) : Prop where
  outcome : Outcome host spec s r
  probe : r.state.probeFingerprint = s.probeFingerprint ∨ r.state.probeFingerprint = "" ∨
    s.pendingAck = false ∧ ∃ s₀ now accepts f, Quiet s s₀ ∧ r = sendFrame host spec now accepts s₀ f

theorem Look.idle (s : WatchState) : Look host spec s { state := s } :=
  ⟨.quiet (.refl s) rfl (.inl rfl), .inl rfl⟩

theorem answerRead_look (now : Moment) (env : ReadEnv) (initialized : Bool) (s : WatchState) :
    Look host spec s (answerRead spec now (readWatchFrame spec env initialized s)
      (sendFrame host spec now.pushed now.accepts)) := by
  rcases readWatchFrame_cases spec env initialized with ⟨f, h⟩ | h | ⟨-, h⟩
  · obtain ⟨s₀, h, hquiet, hgone, hprobe⟩ := h s
    rw [h]
    exact ⟨.frame s₀ _ _ f hquiet hgone, .inl ((sendFrame_probe ..).trans hprobe)⟩
  · obtain ⟨s₀, h, hquiet, hprobe⟩ := h s
    rw [h]
    exact ⟨.quiet hquiet rfl (.inr rfl), .inl hprobe⟩
  · rw [h]
    exact ⟨.gone s _ false (.refl s) (by simp), .inl (sendGone_probe ..)⟩

/-- A history refresh that lets the read go on touches neither the emulator nor the dirty flag. -/
theorem refreshApplicationHistory_ready {env : HistoryEnv} {slot : StreamSlot}
    (h : (refreshApplicationHistory env slot).2 = true) :
    (refreshApplicationHistory env slot).1.initialized = slot.initialized ∧
      (refreshApplicationHistory env slot).1.dirty = slot.dirty := by
  obtain ⟨known, snapshot, shared, busy, reserved, restarts⟩ := env
  obtain ⟨stream, failed, dirty, version, resume⟩ := slot
  simp only [refreshApplicationHistory] at h ⊢
  cases known
  · exact ⟨rfl, rfl⟩
  · cases busy <;> cases reserved <;> cases stream <;> simp at h ⊢
    split_ifs at h ⊢ <;> simp_all [StreamSlot.initialized]

theorem tryPollStream_look (now : Moment) (env : StreamEnv) (s : WatchState) (slot : StreamSlot) :
    Look host spec s (tryPollStream host spec now env s slot).toServed := by
  simp only [tryPollStream]
  split
  · exact .idle s
  · next hgo =>
    split
    · exact .idle s
    · next hready =>
      split
      · exact .idle s
      · -- the history refresh let the read go on, so the emulator is still the one that rendered
        have hinit : (refreshApplicationHistory env.history slot).1.initialized = true := by
          rw [(refreshApplicationHistory_ready (by simpa using hready)).1]
          simp only [Bool.or_eq_true, Bool.not_eq_true', not_or, Bool.not_eq_false] at hgo
          exact hgo.2
        rw [hinit]
        rcases readWatchFrame_cases spec env.read true with ⟨f, h⟩ | h | ⟨h, -⟩
        · obtain ⟨s₀, h, hquiet, hgone, hprobe⟩ := h s
          rw [h]
          exact ⟨.frame s₀ _ _ f hquiet hgone, .inl ((sendFrame_probe ..).trans hprobe)⟩
        · obtain ⟨s₀, h, hquiet, hprobe⟩ := h s
          rw [h]
          exact ⟨.quiet hquiet rfl (.inr rfl), .inl hprobe⟩
        · cases h

theorem poll_look {s : WatchState} (hopen : s.pendingAck = false) (now : Moment) (env : PollEnv)
    (slot : StreamSlot) : Look host spec s (poll host spec now env s slot).toServed := by
  simp only [poll]
  split
  · exact .idle s
  · split
    · exact tryPollStream_look now env.stream s _
    · split
      · split
        · exact ⟨.gone s _ false (.refl s) (by simp), .inl (sendGone_probe ..)⟩
        · exact .idle s
      · next probe _ =>
        have hfold := (Quiet.alive s).trans
          (.foldUpstream { s with gone := false } env.probe.generation probe.revision)
        split
        · exact ⟨.quiet (.alive s) rfl (.inl rfl), .inl rfl⟩
        · split
          · exact ⟨.quiet hfold rfl (.inl rfl), .inl rfl⟩
          · rcases readWatchFrame_cases spec env.read (revive env.probe s
              (syncStreamGeometry env.target env.respawns slot)).initialized with
              ⟨f, h⟩ | h | ⟨-, h⟩
            · obtain ⟨s₀, h, hquiet, hgone, -⟩ := h _
              rw [h]
              have hseen := (hfold.trans hquiet).trans
                (.probe s₀ (contentFingerprint host probe.text))
              exact ⟨.frame _ _ _ f hseen hgone, .inr (.inr ⟨hopen, _, _, _, f, hseen, rfl⟩)⟩
            · obtain ⟨s₀, h, hquiet, hprobe⟩ := h _
              rw [h]
              exact ⟨.quiet (hfold.trans hquiet) rfl (.inr rfl), .inl hprobe⟩
            · rw [h]
              exact ⟨.gone _ _ true hfold (by simp [WatchState.foldUpstream]),
                .inl (sendGone_probe ..)⟩

theorem sendGone_push_ne_content (spec : WatchSpec) (accepts probed : Bool) (s : WatchState)
    (f : WatchFrame) (m : Outbound) (a : Bool) :
    (sendGone spec accepts probed s).push ≠ some (.content f m a) := by
  rw [sendGone]
  split <;> simp

/-- **What a content push says**: the gate was open, the frame was new, and only an accepted push
moves the chain. -/
theorem Outcome.content {s : WatchState} {r : Served} (h : Outcome host spec s r)
    {m : Outbound} {a : Bool} (hpush : r.push = some (.content f m a)) :
    s.pendingAck = false ∧ ∃ s₀ now, Quiet s s₀ ∧ m = chooseFrame host spec s₀ f ∧
      r.state = if a then { s₀.sent host spec now f with forceFull := false } else s₀ := by
  cases h with
  | quiet _ hnone => simp [hnone] at hpush
  | resync _ _ hresync => simp [hresync] at hpush
  | gone s₀ accepts probed => exact absurd hpush (sendGone_push_ne_content _ _ _ _ _ _ _)
  | frame s₀ now accepts f' hquiet =>
    simp only [sendFrame] at hpush ⊢
    by_cases hpending : s₀.pendingAck = true
    · simp [hpending] at hpush
    · rw [if_neg hpending] at hpush ⊢
      by_cases hrepeats : repeats host spec s₀ f' = true
      · simp [hrepeats] at hpush
      · rw [if_neg hrepeats] at hpush ⊢
        obtain ⟨rfl, rfl, rfl⟩ : f' = f ∧ chooseFrame host spec s₀ f' = m ∧ accepts = a := by
          simpa using hpush
        exact ⟨hquiet.pendingAck.symm.trans (by simpa using hpending), s₀, now, hquiet, rfl, rfl⟩

/-- **What a turn without a content push leaves**: the chain, and the gate unless a death notice
opened it. -/
theorem Outcome.noContent {s : WatchState} {r : Served} (h : Outcome host spec s r)
    (hpush : ∀ f m a, r.push ≠ some (.content f m a)) :
    r.state.sentFingerprint = s.sentFingerprint ∧ r.state.sentContent = s.sentContent ∧
      r.state.forceFull = s.forceFull ∧
      (r.state.pendingAck = s.pendingAck ∨ ∃ m a, r.push = some (.notice m a)) := by
  cases h with
  | quiet hquiet =>
    exact ⟨hquiet.sentFingerprint, hquiet.sentContent, hquiet.forceFull, .inl hquiet.pendingAck⟩
  | resync _ hstate =>
    rw [hstate]
    exact ⟨rfl, rfl, rfl, .inl rfl⟩
  | gone s₀ accepts probed hquiet =>
    have hkeep : (sendGone spec accepts probed s₀).state.sentFingerprint = s₀.sentFingerprint ∧
        (sendGone spec accepts probed s₀).state.sentContent = s₀.sentContent ∧
        (sendGone spec accepts probed s₀).state.forceFull = s₀.forceFull ∧
        ((sendGone spec accepts probed s₀).state.pendingAck = s₀.pendingAck ∨
          ∃ m a, (sendGone spec accepts probed s₀).push = some (.notice m a)) := by
      simp only [sendGone]
      split
      · exact ⟨rfl, rfl, rfl, .inl rfl⟩
      · exact ⟨rfl, rfl, rfl, .inr ⟨_, _, rfl⟩⟩
    rw [← hquiet.sentFingerprint, ← hquiet.sentContent, ← hquiet.forceFull, ← hquiet.pendingAck]
    exact hkeep
  | frame s₀ now accepts f hquiet =>
    rw [← hquiet.sentFingerprint, ← hquiet.sentContent, ← hquiet.forceFull, ← hquiet.pendingAck]
    simp only [sendFrame] at hpush ⊢
    split_ifs at hpush ⊢ with hpending hrepeats
    · exact ⟨rfl, rfl, rfl, .inl rfl⟩
    · exact ⟨rfl, rfl, rfl, .inl rfl⟩
    · exact absurd rfl (hpush f _ accepts)
    · exact absurd rfl (hpush f _ accepts)

/-- What an arm does to the state before it looks at the pane. -/
def prepare (event : WatchEvent) (s : WatchState) : WatchState :=
  match event with
  | .ack fingerprint _ =>
    if fingerprint ≠ "" ∧ s.pendingAck = true ∧ fingerprint = s.sentFingerprint then
      { s with ackedFingerprint := fingerprint }.ungate
    else s
  | .resync _ | .timeout => s.restartChain
  | _ => s

/-- **One turn, once and for all.** -/
theorem turn_look (now : Moment) (loop : Loop) (event : WatchEvent) :
    Look host spec (prepare event loop.state)
      { state := (turn host spec now loop event).loop.state
        push := (turn host spec now loop event).push
        seen := (turn host spec now loop event).seen } := by
  cases event with
  | ack fingerprint env =>
    -- empty, matching, echo of the acked one, foreign: only the second prepares anything
    simp only [turn, prepare]
    by_cases hempty : fingerprint = ""
    · simp only [hempty, if_true, ne_eq, not_true_eq_false, false_and, if_false]
      exact .idle _
    · by_cases hmatch : loop.state.pendingAck = true ∧ fingerprint = loop.state.sentFingerprint
      · rw [if_neg hempty, if_pos ⟨hempty, hmatch⟩, if_pos (by simpa using hmatch)]
        exact tryPollStream_look now env _ _
      · rw [if_neg hempty, if_neg (fun h => hmatch h.2), if_neg (by simpa using hmatch)]
        split
        · exact .idle _
        · exact ⟨.resync now.accepts rfl rfl rfl, .inl rfl⟩
  | resync env => exact answerRead_look now env _ _
  | streamUpdated env => exact tryPollStream_look now env _ _
  | streamClosed =>
    exact ⟨.gone _ _ false (.refl _) (by simp [prepare]), .inl (sendGone_probe ..)⟩
  | streamEnded => exact ⟨.quiet (.probe _ _) rfl (.inl rfl), .inr (.inl rfl)⟩
  | timeout => exact .idle _
  | tick env =>
    simp only [turn, prepare]
    split
    · exact .idle _
    · next hpending => exact poll_look (Bool.eq_false_of_not_eq_true hpending) now env _
  | invalidated invalidation env =>
    simp only [turn, prepare]
    split
    · next hgo =>
      simp only [Bool.and_eq_true, Bool.not_eq_true'] at hgo
      exact poll_look hgo.1.2 now env _
    · exact .idle _

/-- The state of a watch; fresh before the first pass. -/
def stateOf (loop : Option Loop) : WatchState := (loop.map Loop.state).getD {}

/-- The state a turn looks at the pane with. -/
def Turn.prepared (t : Turn) (s : WatchState) : WatchState := t.event.elim s (prepare · s)

/-- The arm of a turn restarts the chain: the ack timeout or a resync. -/
def Turn.restarts (t : Turn) : Bool :=
  match t.event with
  | some .timeout | some (.resync _) => true
  | _ => false

/-- **What preparing can do**: restart the chain, open the gate for the ack it waits for, or
nothing. -/
theorem prepared_cases (t : Turn) (s : WatchState) :
    (t.restarts = true ∧ t.prepared s = s.restartChain) ∨
      t.restarts = false ∧ (t.prepared s = s ∨
        ∃ env, s.pendingAck = true ∧ t.event = some (.ack s.sentFingerprint env) ∧
          t.prepared s = { s with ackedFingerprint := s.sentFingerprint }.ungate) := by
  simp only [Turn.prepared, Turn.restarts]
  cases t.event with
  | none => exact .inr ⟨rfl, .inl rfl⟩
  | some event =>
    cases event with
    | ack fingerprint env =>
      simp only [Option.elim, prepare]
      refine .inr ⟨trivial, ?_⟩
      split
      · next h => exact .inr ⟨env, h.2.1, by rw [h.2.2], by rw [h.2.2]⟩
      · exact .inl rfl
    | resync env => exact .inl ⟨rfl, rfl⟩
    | timeout => exact .inl ⟨rfl, rfl⟩
    | _ => exact .inr ⟨rfl, .inl rfl⟩

theorem prepared_sent (t : Turn) (s : WatchState) :
    (t.prepared s).sentFingerprint = s.sentFingerprint ∧
      (t.prepared s).sentContent = s.sentContent := by
  obtain ⟨-, h⟩ | ⟨-, h | ⟨env, -, -, h⟩⟩ := prepared_cases t s <;>
    rw [h] <;> exact ⟨rfl, rfl⟩

/-- The part of a turn that an outcome is about. -/
def Turn.served (t : Turn) (s : WatchState) : Served :=
  { state := s, push := t.push, seen := t.seen }

/-- **Every step of a watch ends in an outcome**, except a first pass whose read is what the client
said it has. -/
theorem WatchStep.outcome (h : WatchStep host spec l t l') :
    Outcome host spec (t.prepared (stateOf l)) (t.served (stateOf l')) ∨
      l = none ∧ ∃ now s₀ f, Quiet {} s₀ ∧ s₀.gone = false ∧
        spec.knownFingerprint = some (contentFingerprint host f.content.text) ∧
        t.served (stateOf l') = firstFrame host spec now s₀ f := by
  cases h with
  | turn loop now event _ => exact .inl (turn_look now loop event).outcome
  | first opening =>
    have hread := readWatchFrame_cases spec opening.read
      ({ stream := spawn opening.spawns opening.size, failed := !opening.spawns } :
        StreamSlot).initialized
    simp only [Turn.served, Turn.prepared, stateOf, Opening.result, start, Option.map, Option.getD,
      Option.elim]
    rcases hread with ⟨f, h⟩ | h | ⟨-, h⟩
    · obtain ⟨s₀, h, hquiet, hgone, -⟩ := h {}
      rw [h]
      by_cases hknown : spec.knownFingerprint = some (contentFingerprint host f.content.text)
      · exact .inr ⟨trivial, opening.now, s₀, f, hquiet, hgone, hknown, rfl⟩
      · simp only [answerRead, firstFrame, if_neg hknown]
        exact .inl (.frame s₀ _ _ f hquiet hgone)
    · obtain ⟨s₀, h, hquiet, -⟩ := h {}
      rw [h]
      exact .inl (.quiet hquiet rfl (.inr rfl))
    · rw [h]
      exact .inl (.gone {} _ false (.refl _) (by simp))

theorem firstFrame_known
    (hknown : spec.knownFingerprint = some (contentFingerprint host f.content.text)) (now : Moment)
    (s₀ : WatchState) :
    firstFrame host spec now s₀ f =
      { state := if now.accepts then s₀.sent host spec now.pushed f else s₀
        push := some (.content f
          (deltaFrame host spec f (contentFingerprint host f.content.text)
            (copyEverything f.content.text)) now.accepts)
        seen := .frame f } := if_pos hknown

/-- **A content push, at any step.** Its message is `sendFrame`'s choice, or the answer to a first
pass that read what the client said it has. -/
theorem WatchStep.content (h : WatchStep host spec l t l') {m : Outbound} {a : Bool}
    (hpush : t.push = some (.content f m a)) :
    (t.prepared (stateOf l)).pendingAck = false ∧
      ∃ s₀ now, Quiet (t.prepared (stateOf l)) s₀ ∧
        (stateOf l' = if a then { s₀.sent host spec now f with forceFull := false } else s₀) ∧
        (m = chooseFrame host spec s₀ f ∨
          l = none ∧ spec.knownFingerprint = some (contentFingerprint host f.content.text) ∧
            m = deltaFrame host spec f (contentFingerprint host f.content.text)
              (copyEverything f.content.text)) := by
  rcases h.outcome with hout | ⟨hl, now, s₀, f', hquiet, -, hknown, hserved⟩
  · obtain ⟨hpending, s₀, now, hquiet, hm, hstate⟩ := hout.content hpush
    exact ⟨hpending, s₀, now, hquiet, hstate, .inl hm⟩
  · rw [firstFrame_known hknown] at hserved
    have hpush' : t.push = _ := congrArg Served.push hserved
    have hstate : stateOf l' = _ := congrArg Served.state hserved
    rw [hpush] at hpush'
    obtain ⟨rfl, rfl, rfl⟩ := by simpa using hpush'
    -- from no loop only the first pass starts, and it has no arm
    have hevent : t.event = none := by
      cases h with
      | first opening => rfl
      | turn loop now event fires => cases hl
    have hprep : t.prepared (stateOf l) = {} := by
      rw [Turn.prepared, hevent, hl]
      rfl
    have hfull : s₀.forceFull = false := hquiet.forceFull
    rw [hprep]
    refine ⟨rfl, s₀, now.pushed, hquiet, ?_, .inr ⟨hl, hknown, rfl⟩⟩
    rw [hstate]
    cases now.accepts with
    | false => rfl
    | true => simp [WatchState.sent, WatchState.gate, hfull]

theorem WatchStep.noContent (h : WatchStep host spec l t l')
    (hpush : ∀ f m a, t.push ≠ some (.content f m a)) :
    (stateOf l').sentFingerprint = (stateOf l).sentFingerprint ∧
      (stateOf l').sentContent = (stateOf l).sentContent ∧
      (stateOf l').forceFull = (t.prepared (stateOf l)).forceFull ∧
      ((stateOf l').pendingAck = (t.prepared (stateOf l)).pendingAck ∨
        ∃ m a, t.push = some (.notice m a)) := by
  rcases h.outcome with hout | ⟨-, now, s₀, f, -, -, hknown, hserved⟩
  · obtain ⟨hfp, hcontent, hrest⟩ := hout.noContent hpush
    exact ⟨hfp.trans (prepared_sent t _).1, hcontent.trans (prepared_sent t _).2, hrest⟩
  · rw [firstFrame_known hknown] at hserved
    exact absurd (congrArg Served.push hserved) (hpush f _ _)

end Outcomes

end Lerdr.Watch
