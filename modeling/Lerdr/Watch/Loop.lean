/-
# Lerdr.Watch.Loop — the watch loop (`watch_loop`, `poll`, `try_poll_stream`, `read_watch_frame`).

A turn of the loop is one arm of its `select!`. What a turn reads from outside (topology fences,
`pane.read` results, the rendered emulator, the shared history reservation, spawn results, the clock
and the sink's answer) is carried by the event, so a run of the loop is a list of events, and every
theorem is about all of them. No arm calls `try_send` more than once.

Left to the environment: what the emulator and its history render, what classification makes of the
text, and the writes to shared state (the upstream watermark, the pane acknowledgement).
-/
import Lerdr.Watch.Frames

namespace Lerdr.Watch

open Lerdr.Core.Delta

/-! ## §1 — reads -/

/-- Herdr's `ReadSource`. -/
inductive ReadSource where
  | visible
  | recent
  | recentUnwrapped
  deriving DecidableEq, Repr

/-- `display_source`; `isClaude` says the agent's name contains `claude`. -/
def displaySource (format : ReadFormat) (resized isClaude : Bool) : ReadSource :=
  if format ≠ .ansi then .visible
  else if !resized && isClaude then .recentUnwrapped
  else .recent

/-- The backward scan of `cap_pane_content_lines`: `index` characters are still to look at. -/
def scanBack (content : Text) : Nat → Nat → Text
  | 0, _ => content
  | index + 1, remaining =>
    if content.getD index ' ' ≠ '\n' then scanBack content index remaining
    else if remaining - 1 = 0 then content.drop (index + 1)
    else scanBack content index (remaining - 1)

/-- `cap_pane_content_lines` — the last `limit` lines, one trailing newline discounted. -/
def capPaneContentLines (content : Text) (limit : Nat) : Text :=
  if limit < 1 ∨ content = [] then content
  else
    scanBack content
      (if content.getLast? = some '\n' then content.length - 1 else content.length) limit

/-- A failed Herdr call: a structured refusal, or anything else. -/
inductive HerdrError where
  | refused (code : String)
  | other
  deriving DecidableEq, Repr

/-- `err.refusal_code() == Some("pane_not_found")`. -/
def HerdrError.isPaneNotFound : HerdrError → Bool
  | .refused code => code == "pane_not_found"
  | .other => false

structure PaneReadResult where
  text : Text
  truncated : Bool := false
  revision : Nat := 0
  deriving DecidableEq, Repr

/-- One turn of `pane_read_fresh`: the fences before, the answer, the fences after. -/
structure ReadAttempt where
  generation : Int := 0
  watermark : Nat := 0
  result : Except HerdrError PaneReadResult
  observed : Nat := 0
  generationNow : Int := 0

/-- The read raced upstream output. -/
def ReadAttempt.stale (attempt : ReadAttempt) (read : PaneReadResult) : Bool :=
  decide (max attempt.watermark read.revision < attempt.observed ∨
    (read.revision ≠ 0 ∧ (read.revision % 2 = 1 ∨ read.revision < attempt.watermark)))

/-- `pane_read_fresh` — at most one re-read. -/
def paneReadFresh (first second : ReadAttempt) : Except HerdrError PaneReadResult :=
  match first.result with
  | .error err => .error err
  | .ok read =>
    if first.stale read && decide (first.generationNow = first.generation) then second.result
    else .ok read

structure PreparedPane where
  content : RustString
  truncated : Bool := false
  semantics : PaneSemantics := {}

/-- What one `read_watch_frame` finds outside. `agent` is the committed row's agent, which is both
the display and the classification agent. -/
structure ReadEnv where
  historyVersion : Option Nat := some 0
  generation : Int := 0
  contentRev : Int := 0
  agent : String := ""
  isClaude : Bool := false
  viewportOnly : Bool := false
  activeRows : Option Int := none
  /-- the two socket reads -/
  attempts : ReadSource → ReadAttempt × ReadAttempt
  /-- the emulator's `render_parts` -/
  render : ReadSource → Text × Bool := fun _ => ([], false)
  generationNow : Int := 0
  contentRevNow : Int := 0
  resizedWithin : Bool := false
  /-- `prepare_pane_response` on the capped text -/
  prepare : Text → Bool → PreparedPane
  historyVersionNow : Option Nat := some 0

/-- What a read comes to. -/
inductive FrameRead where
  | frame (frame : WatchFrame)
  | retry
  | gone

def ReadEnv.frameOf (env : ReadEnv) (spec : WatchSpec) (text : Text) (truncated : Bool) :
    WatchFrame :=
  let prepared := env.prepare (capPaneContentLines text spec.lines) truncated
  { content := prepared.content
    classificationAgent := env.agent
    truncated := prepared.truncated
    viewportOnly := env.viewportOnly
    viewportRows := if env.viewportOnly then env.activeRows else none
    resizeSettling := env.viewportOnly && env.resizedWithin
    semantics := prepared.semantics }

/-- The text a read works on: the emulator's when it has rendered, else the socket's. -/
def ReadEnv.textOf (env : ReadEnv) (spec : WatchSpec) (initialized : Bool) :
    Except HerdrError (Text × Bool × Option Nat) :=
  let source := displaySource spec.format env.viewportOnly env.isClaude
  if initialized then .ok ((env.render source).1, (env.render source).2, none)
  else (paneReadFresh (env.attempts source).1 (env.attempts source).2).map
    fun read => (read.text, read.truncated, some read.revision)

/-- A read that got past the fences: the pane is alive, and a socket read counts as served. -/
def WatchState.verified (generation : Int) (revision : Option Nat) (state : WatchState) :
    WatchState :=
  let alive := { state with gone := false }
  match revision with
  | some revision => alive.foldUpstream generation revision
  | none => alive

/-- `read_watch_frame`. A read that got past the fences clears `gone` even if the history moved
under it and the frame is thrown away. -/
def readWatchFrame (spec : WatchSpec) (env : ReadEnv) (initialized : Bool) (state : WatchState) :
    FrameRead × WatchState :=
  match env.historyVersion with
  | none => (.retry, state)
  | some historyVersion =>
    match env.textOf spec initialized with
    | .error err => (if err.isPaneNotFound then .gone else .retry, state)
    | .ok (text, truncated, revision) =>
      if env.generationNow ≠ env.generation ∨ env.contentRevNow ≠ env.contentRev then
        (.retry, state)
      else
        let state := state.verified env.generation revision
        if env.historyVersionNow ≠ some historyVersion then (.retry, state)
        else (.frame (env.frameOf spec text truncated), state)

/-! ## §2 — the stream slot -/

/-- `PaneStream`: whether the emulator has seen a frame, and the geometry it was spawned with. -/
structure PaneStream where
  initialized : Bool := false
  size : Option (Nat × Nat) := none
  deriving DecidableEq, Repr

/-- The stream of a watch, if it has one. -/
structure StreamSlot where
  stream : Option PaneStream := none
  failed : Bool := false
  dirty : Bool := false
  applicationVersion : Nat := 0
  resumePending : Bool := false
  deriving DecidableEq, Repr

/-- `slot.stream.as_ref().is_some_and(PaneStream::is_initialized)`. -/
def StreamSlot.initialized (slot : StreamSlot) : Bool := slot.stream.any (·.initialized)

/-- `PaneStream::spawn`, given whether it succeeds. -/
def spawn (succeeds : Bool) (size : Option (Nat × Nat)) : Option PaneStream :=
  if succeeds then some { size } else none

/-- `sync_stream_geometry`: `target` is the resolved geometry, `spawns` whether a respawn works. -/
def syncStreamGeometry (target : Option (Nat × Nat)) (spawns : Bool) (slot : StreamSlot) :
    StreamSlot :=
  match slot.stream with
  | none => slot
  | some stream =>
    if stream.size = target then slot
    else { slot with stream := spawn spawns target, failed := !spawns, dirty := false }

/-- What `refresh_application_history` finds: whether the pane has a row, the shared view, whether
this watch got the reservation, and whether the observer restarts. -/
structure HistoryEnv where
  known : Bool := true
  snapshot : Bool := false
  version : Nat := 0
  busy : Bool := false
  reserved : Bool := false
  restarts : Bool := true
  deriving DecidableEq, Repr

/-- `refresh_application_history` — whether the caller may go on to read. -/
def refreshApplicationHistory (env : HistoryEnv) (slot : StreamSlot) : StreamSlot × Bool :=
  if !env.known then (slot, true)
  else
    let slot := if env.busy then { slot with applicationVersion := env.version } else slot
    if env.reserved || env.busy then (slot, false)
    else
      match slot.stream with
      | none => (slot, false)
      | some stream =>
        if slot.applicationVersion ≠ env.version then
          -- the first version seen needs no restart unless there is history to merge
          let restart := decide (slot.applicationVersion ≠ 0) || env.snapshot
          let slot := { slot with applicationVersion := env.version }
          if restart then
            if env.restarts then
              ({ slot with stream := some { stream with initialized := false },
                           resumePending := true }, false)
            else ({ slot with stream := none, failed := true }, false)
          else (slot, true)
        else (slot, true)

/-! ## §3 — polling -/

/-- The loop's own variables. -/
structure Loop where
  state : WatchState := {}
  slot : StreamSlot := {}
  nextTick : Nat := 0
  nextRead : Nat := 0

/-- The clock of a turn (when the arm fired, when a frame was pushed, when the turn ended) and the
sink's answer to its push. -/
structure Moment where
  woke : Nat := 0
  pushed : Nat := 0
  done : Nat := 0
  accepts : Bool := true
  deriving DecidableEq, Repr

/-- What `try_poll_stream` finds. -/
structure StreamEnv where
  history : HistoryEnv := {}
  agent : String := ""
  read : ReadEnv

/-- What the probe of `poll` finds. -/
structure ProbeEnv where
  generation : Int := 0
  contentRev : Int := 0
  observedBefore : Nat := 0
  first : ReadAttempt
  second : ReadAttempt
  spawns : Bool := false
  spawnSize : Option (Nat × Nat) := none
  generationNow : Int := 0
  contentRevNow : Int := 0
  agent : String := ""
  observedNow : Nat := 0

/-- What `poll` finds. -/
structure PollEnv where
  target : Option (Nat × Nat) := none
  respawns : Bool := true
  stream : StreamEnv
  probe : ProbeEnv
  read : ReadEnv

/-- The agent the accepted frame was classified under is no longer the pane's, or that frame was
read inside the resize window. -/
def metadataMoved (agent : String) (state : WatchState) : Bool :=
  state.sentResizeSettling ||
    (state.sentFrameFingerprint != "" && state.sentClassificationAgent != agent)

/-- A part of a turn that also moves the slot. -/
structure Polled extends Served where
  slot : StreamSlot

section Polling

variable (host : WatchHost) (spec : WatchSpec)

/-- A frame of the stream, where none is in flight. -/
def tryPollStream (now : Moment) (env : StreamEnv) (state : WatchState) (slot : StreamSlot) :
    Polled :=
  if state.pendingAck || !slot.initialized then { state, slot }
  else
    let (slot, ready) := refreshApplicationHistory env.history slot
    if !ready then { state, slot }
    else if !slot.dirty && !metadataMoved env.agent state then { state, slot }
    else
      match readWatchFrame spec env.read slot.initialized state with
      | (.frame frame, state) =>
        -- clean from here on, whether or not the sink takes the frame
        { sendFrame host spec now.pushed now.accepts state frame with
          slot := { slot with dirty := false } }
      -- a fence tripped: the mark stays and the next tick retries
      | (_, state) => { state, slot, seen := .retry }

/-- `paneWatchNeedsFrameRead`, and the upstream leg. -/
def needsRead (env : ProbeEnv) (probe : PaneReadResult) (state : WatchState) : Bool :=
  state.probeFingerprint == "" ||
    contentFingerprint host probe.text != state.probeFingerprint ||
    metadataMoved env.agent state ||
    decide (max env.observedBefore probe.revision < env.observedNow) ||
    decide (state.upstreamRev < probe.revision)

/-- The revival of a pane that a probe found alive: the observer is re-attached. -/
def revive (env : ProbeEnv) (state : WatchState) (slot : StreamSlot) : StreamSlot :=
  if state.gone && !slot.failed && slot.stream.isNone then
    { slot with stream := spawn env.spawns env.spawnSize, failed := !env.spawns }
  else slot

/-- A poll: the stream, or a fresh read. -/
def poll (now : Moment) (env : PollEnv) (state : WatchState) (slot : StreamSlot) : Polled :=
  let slot := syncStreamGeometry env.target env.respawns slot
  if slot.resumePending && slot.stream.isSome then { state, slot }
  else if slot.initialized then tryPollStream host spec now env.stream state slot
  else
    match paneReadFresh env.probe.first env.probe.second with
    | .error err =>
      if err.isPaneNotFound then { sendGone spec now.accepts false state with slot }
      else { state, slot }
    | .ok probe =>
      let slot := revive env.probe state slot
      -- the probe answered, so a later death is announced again, even if a fence trips below
      let alive := { state with gone := false }
      if env.probe.generationNow ≠ env.probe.generation ∨
          env.probe.contentRevNow ≠ env.probe.contentRev then { state := alive, slot }
      else
        let folded := alive.foldUpstream env.probe.generation probe.revision
        if !needsRead host env.probe probe alive then { state := folded, slot }
        else
          match readWatchFrame spec env.read slot.initialized folded with
          | (.frame frame, state) =>
            -- the probe counts as seen before the sink has answered
            { sendFrame host spec now.pushed now.accepts
                { state with probeFingerprint := contentFingerprint host probe.text } frame with
              slot }
          | (.retry, state) => { state, slot, seen := .retry }
          | (.gone, state) => { sendGone spec now.accepts true state with slot }

/-! ## §4 — the loop -/

/-- `Invalidation`, the fields the loop reads; `outputChanged` says its name is
`pane.output_changed`. -/
structure Invalidation where
  paneId : Option String := none
  outputChanged : Bool := false
  outputRevision : Option Nat := none
  deriving DecidableEq, Repr

/-- The arms of the `select!` that do not end the loop; a lagged invalidation feed is `none`. -/
inductive WatchEvent where
  | ack (fingerprint : String) (env : StreamEnv)
  | resync (env : ReadEnv)
  | streamUpdated (env : StreamEnv)
  | streamClosed
  | streamEnded
  | timeout
  | tick (env : PollEnv)
  | invalidated (invalidation : Option Invalidation) (env : PollEnv)

/-- The invalidation concerns this pane and is not already covered by a verified read. -/
def triggered (invalidation : Option Invalidation) (state : WatchState) : Bool :=
  match invalidation with
  | none => true
  | some inv =>
    (inv.paneId == some spec.paneId || inv.paneId.isNone) &&
      (match inv.outputRevision with
        | some revision => !inv.outputChanged || decide (state.upstreamRev < revision)
        | none => true)

/-- The arm can fire. -/
def enabled (loop : Loop) (now : Moment) : WatchEvent → Bool
  | .ack .. | .resync .. | .invalidated .. => true
  | .streamUpdated .. | .streamClosed | .streamEnded => loop.slot.stream.isSome
  | .timeout => loop.state.ackDeadline.any (· ≤ now.woke)
  | .tick .. => decide (loop.nextTick ≤ now.woke)

/-- A turn's result: the loop after it, and what it pushed and saw. -/
structure TurnResult where
  loop : Loop
  push : Option Push := none
  seen : Seen := .nothing

/-- A `Polled` part that ends the turn, with the next freshness boundary. -/
def Polled.finish (polled : Polled) (loop : Loop) (nextRead : Nat) : TurnResult where
  loop := { loop with state := polled.state, slot := polled.slot, nextRead }
  push := polled.push
  seen := polled.seen

/-- The `match` on a read that the first pass and a resync share the tail of. -/
def answerRead (now : Moment) (read : FrameRead × WatchState)
    (onFrame : WatchState → WatchFrame → Served) : Served :=
  match read with
  | (.frame frame, state) => onFrame state frame
  | (.gone, state) => sendGone spec now.accepts false state
  | (.retry, state) => { state, seen := .retry }

/-- One turn of `watch_loop`. -/
def turn (now : Moment) (loop : Loop) : WatchEvent → TurnResult
  | .ack fingerprint env =>
    if fingerprint = "" then { loop }
    else if loop.state.pendingAck && fingerprint == loop.state.sentFingerprint then
      -- what was streamed behind the gate is rendered now
      (tryPollStream host spec now env
        { loop.state with ackedFingerprint := fingerprint }.ungate loop.slot).finish loop
          loop.nextRead
    else if loop.state.ackedFingerprint != "" && fingerprint == loop.state.ackedFingerprint then
      { loop }
    -- neither the frame in flight nor the last acked one: foreign
    else { loop, push := some (.resync (resyncFrame spec) now.accepts) }
  | .resync env =>
    let served := answerRead spec now
      (readWatchFrame spec env loop.slot.initialized loop.state.restartChain)
      (sendFrame host spec now.pushed now.accepts)
    { loop := { loop with state := served.state, nextRead := now.done + spec.interval }
      push := served.push
      seen := served.seen }
  | .streamUpdated env =>
    let slot := { loop.slot with
      stream := loop.slot.stream.map fun stream => { stream with initialized := true }
      resumePending := false
      dirty := true }
    (tryPollStream host spec now env loop.state slot).finish loop (now.done + spec.interval)
  | .streamClosed =>
    let served := sendGone spec now.accepts false loop.state
    { loop := { loop with state := served.state, slot := { loop.slot with stream := none } }
      push := served.push
      seen := served.seen }
  | .streamEnded =>
    { loop := { loop with
        state := { loop.state with probeFingerprint := "" }
        slot := { loop.slot with stream := none, failed := true } } }
  | .timeout => { loop := { loop with state := loop.state.restartChain } }
  | .tick env =>
    let loop := { loop with nextTick := now.woke + spec.interval }
    -- a gated tick moves the schedule, but not the freshness boundary
    if loop.state.pendingAck then { loop }
    else (poll host spec now env loop.state loop.slot).finish loop (now.done + spec.interval)
  | .invalidated invalidation env =>
    if triggered spec invalidation loop.state && !loop.state.pendingAck &&
        decide (loop.nextRead ≤ now.woke) then
      (poll host spec now env loop.state loop.slot).finish loop (now.done + spec.interval)
    else { loop }

/-- The first frame of a watch: a known fingerprint is answered by a delta that copies
everything. -/
def firstFrame (now : Moment) (state : WatchState) (frame : WatchFrame) : Served :=
  if spec.knownFingerprint = some (contentFingerprint host frame.content.text) then
    { state := if now.accepts then state.sent host spec now.pushed frame else state
      push := some (.content frame
        (deltaFrame host spec frame (contentFingerprint host frame.content.text)
          (copyEverything frame.content.text)) now.accepts)
      seen := .frame frame }
  else sendFrame host spec now.pushed now.accepts state frame

/-- Before the loop: the observer is attached, if `spawns`, and the pane is read. -/
def start (now : Moment) (spawns : Bool) (size : Option (Nat × Nat)) (env : ReadEnv) : TurnResult :=
  let slot : StreamSlot := { stream := spawn spawns size, failed := !spawns }
  let served := answerRead spec now (readWatchFrame spec env slot.initialized {})
    (firstFrame host spec now)
  { loop := { state := served.state, slot, nextTick := now.done + spec.interval,
              nextRead := now.done + spec.interval }
    push := served.push
    seen := served.seen }

end Polling

end Lerdr.Watch
