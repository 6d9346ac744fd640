/-
# Lerdr.Watch.Frames — what one pane watch reads, remembers and pushes (`watches.rs`).

A verified read becomes a `WatchFrame`: content plus the metadata and semantics a client is shown.
`WatchState` remembers the last frame the sink accepted, the ack gate, and the fingerprints that
decide whether the next tick reads at all. `sendFrame` picks between nothing, a delta on the last
accepted frame and a full `ack_required` frame; `sendGone` pushes the death notice.

Both fingerprints of a frame are functions of it: the source computes them once, where it builds the
frame. Instants are milliseconds. SHA-256 and the JSON of an option list are parameters.
-/
import Lerdr.Coord.Ledger
import Lerdr.Core.Delta
import Lerdr.Lib.BigEndian

namespace Lerdr.Watch

open Lerdr.Core.Delta

/-! ## §1 — frames and their fingerprints -/

/-- Herdr's `ReadFormat`. -/
inductive ReadFormat where
  | text
  | ansi
  deriving DecidableEq, Repr

def formatWire : ReadFormat → String
  | .ansi => "ansi"
  | .text => "text"

def kindStr : Coord.AttentionKind → String
  | .approval => "approval"
  | .question => "question"
  | .chat => "chat"
  | .unknown => "unknown"

/-- The wire question, known by the JSON it serialises to. -/
structure QuestionInteraction where
  json : List UInt8
  deriving DecidableEq, Repr

/-- `PaneSemantics` of a classified read. -/
structure PaneSemantics where
  attentionKind : Coord.AttentionKind := .unknown
  prompt : String := ""
  command : String := ""
  options : List String := []
  interaction : Option QuestionInteraction := none
  questionLayout : Bool := false
  noEcho : Bool := false
  noEchoPrompt : Option String := none
  deriving DecidableEq, Repr

/-- `WatchFrame`, without the two fingerprints. -/
structure WatchFrame where
  content : RustString
  classificationAgent : String := ""
  truncated : Bool := false
  viewportOnly : Bool := false
  viewportRows : Option Int := none
  resizeSettling : Bool := false
  semantics : PaneSemantics := {}

/-- The library functions a watch calls: the first eight bytes of SHA-256 in hex, and the JSON of a
list of options. -/
structure WatchHost where
  digest : List UInt8 → String
  optionsJson : List String → List UInt8

/-- `str::as_bytes`. -/
def utf8 (text : Text) : List UInt8 := text.flatMap String.utf8EncodeChar

def contentFingerprint (host : WatchHost) (content : Text) : String := host.digest (utf8 content)

/-- The `write_field` closure: a tag, the length as a little-endian `u64`, the bytes. -/
def writeField (tag : UInt8) (data : List UInt8) : List UInt8 :=
  tag :: ((Lib.BigEndian.toBytes 8 data.length).reverse ++ data)

def boolField (b : Bool) : List UInt8 := writeField 2 [if b then 1 else 0]

/-- The JSON `null`. -/
def jsonNull : List UInt8 := utf8 "null".toList

/-- The bytes `frame_fingerprint` hashes. -/
def frameBytes (host : WatchHost) (format : ReadFormat) (frame : WatchFrame) : List UInt8 :=
  let s := frame.semantics
  writeField 1 (utf8 frame.content.text) ++
    writeField 1 (utf8 (formatWire format).toList) ++
    boolField frame.truncated ++
    boolField frame.viewportOnly ++
    (match frame.viewportRows with
      | some rows =>
        if 0 < rows then writeField 3 (utf8 (toString rows).toList) else writeField 0 []
      | none => writeField 0 []) ++
    -- the settle flag is only ever set, a clear one hashes as absent
    (if frame.resizeSettling then writeField 2 [1] else writeField 0 []) ++
    writeField 1 (utf8 (kindStr s.attentionKind).toList) ++
    writeField 1 (utf8 s.prompt.toList) ++
    writeField 1 (utf8 s.command.toList) ++
    writeField 3 (if s.options.isEmpty then jsonNull else host.optionsJson s.options) ++
    writeField 3 ((s.interaction.map (·.json)).getD jsonNull) ++
    boolField s.questionLayout

def frameFingerprint (host : WatchHost) (format : ReadFormat) (frame : WatchFrame) : String :=
  host.digest (frameBytes host format frame)

/-! ## §2 — the request and the messages -/

structure TargetRef where
  serverSessionId : String := "primary"
  paneId : String
  deriving DecidableEq, Repr

/-- `WatchSpec`, and the pane it watches. -/
structure WatchSpec where
  paneId : String
  lines : Nat := 30
  format : ReadFormat := .text
  interval : Nat := 250
  knownFingerprint : Option String := none
  target : TargetRef
  deriving DecidableEq, Repr

/-- The keys a full frame and a delta share. -/
structure FrameKeys where
  format : String
  truncated : Bool
  viewportOnly : Bool
  viewportRows : Option Int
  resizeSettling : Option Bool
  attentionKind : String
  prompt : String
  command : String
  /-- `none` is the wire's `null`. -/
  options : Option (List String)
  interaction : Option QuestionInteraction
  questionLayout : Bool
  noEcho : Bool
  noEchoPrompt : Option String
  deriving DecidableEq, Repr

/-- `PaneContent`, as a watch fills it. -/
structure PaneContent where
  paneId : String
  content : Option Text := none
  ackRequired : Option Bool := none
  contentFingerprint : Option String := none
  keys : Option FrameKeys := none
  error : Option String := none
  target : TargetRef
  deriving DecidableEq, Repr

/-- `PaneDelta`, as a watch fills it. -/
structure PaneDelta where
  paneId : String
  baseFingerprint : String
  contentFingerprint : String
  keys : FrameKeys
  segments : List Segment
  target : TargetRef
  deriving DecidableEq, Repr

/-- `PaneResync`, as a watch fills it. -/
structure PaneResync where
  paneId : String
  target : TargetRef
  deriving DecidableEq, Repr

/-- The outbound messages of a watch. -/
inductive Outbound where
  | paneContent (message : PaneContent)
  | paneDelta (message : PaneDelta)
  | paneResync (message : PaneResync)
  deriving DecidableEq, Repr

def frameKeys (spec : WatchSpec) (frame : WatchFrame) : FrameKeys where
  format := formatWire spec.format
  truncated := frame.truncated
  viewportOnly := frame.viewportOnly
  viewportRows := if frame.viewportOnly then frame.viewportRows else none
  resizeSettling := if frame.resizeSettling then some true else none
  attentionKind := kindStr frame.semantics.attentionKind
  prompt := frame.semantics.prompt
  command := frame.semantics.command
  options := if frame.semantics.options.isEmpty then none else some frame.semantics.options
  interaction := frame.semantics.interaction
  questionLayout := frame.semantics.questionLayout
  noEcho := frame.semantics.noEcho
  noEchoPrompt := frame.semantics.noEchoPrompt

def fullFrame (host : WatchHost) (spec : WatchSpec) (frame : WatchFrame) : Outbound :=
  .paneContent
    { paneId := spec.paneId
      content := some frame.content.text
      ackRequired := some true
      contentFingerprint := some (contentFingerprint host frame.content.text)
      keys := some (frameKeys spec frame)
      target := spec.target }

def deltaFrame (host : WatchHost) (spec : WatchSpec) (frame : WatchFrame)
    (baseFingerprint : String) (segments : List Segment) : Outbound :=
  .paneDelta
    { paneId := spec.paneId
      baseFingerprint
      contentFingerprint := contentFingerprint host frame.content.text
      keys := frameKeys spec frame
      segments
      target := spec.target }

def goneFrame (spec : WatchSpec) : Outbound :=
  .paneContent { paneId := spec.paneId, error := some "pane_not_found", target := spec.target }

/-- The answer to an ack of a frame the watch does not know. -/
def resyncFrame (spec : WatchSpec) : Outbound :=
  .paneResync { paneId := spec.paneId, target := spec.target }

/-- The copy-everything segments of a frame: `i64::try_from(newlines + 1).unwrap_or(i64::MAX)`. -/
def copyEverything (content : Text) : List Segment :=
  [{ copyLines := min (content.count '\n' + 1) i64Max }]

/-! ## §3 — the state of a watch -/

def ackTimeout : Nat := 4000

/-- What a watch remembers. -/
structure WatchState where
  sentFingerprint : String := ""
  sentContent : RustString := .empty
  sentFrameFingerprint : String := ""
  sentResizeSettling : Bool := false
  sentClassificationAgent : String := ""
  probeFingerprint : String := ""
  ackedFingerprint : String := ""
  pendingAck : Bool := false
  ackDeadline : Option Nat := none
  forceFull : Bool := false
  upstreamRev : Nat := 0
  upstreamRevGeneration : Int := -1
  gone : Bool := false

namespace WatchState

def foldUpstream (generation : Int) (revision : Nat) (state : WatchState) : WatchState :=
  let served := if generation ≠ state.upstreamRevGeneration then 0 else state.upstreamRev
  { state with upstreamRev := max served revision, upstreamRevGeneration := generation }

/-- Wait for an ack. -/
def gate (now : Nat) (state : WatchState) : WatchState :=
  { state with pendingAck := true, ackDeadline := some (now + ackTimeout) }

def ungate (state : WatchState) : WatchState :=
  { state with pendingAck := false, ackDeadline := none }

/-- The frame went out. -/
def sent (host : WatchHost) (spec : WatchSpec) (now : Nat) (frame : WatchFrame)
    (state : WatchState) : WatchState :=
  gate now { state with
    sentFingerprint := contentFingerprint host frame.content.text
    sentContent := frame.content
    sentFrameFingerprint := frameFingerprint host spec.format frame
    sentResizeSettling := frame.resizeSettling
    sentClassificationAgent := frame.classificationAgent }

/-- What a missed ack and a client resync both do: the gate opens, the acked base and the probe are
forgotten, and the next frame must be full. -/
def restartChain (state : WatchState) : WatchState :=
  { state.ungate with ackedFingerprint := "", probeFingerprint := "", forceFull := true }

end WatchState

/-! ## §4 — pushing -/

/-- One `try_send`: what was pushed, and whether the sink took it. A content push remembers the
frame it was made from. -/
inductive Push where
  | content (frame : WatchFrame) (message : Outbound) (accepted : Bool)
  | notice (message : Outbound) (accepted : Bool)
  | resync (message : Outbound) (accepted : Bool)

/-- What a turn of the loop found out about the pane. `probed` says that a probe of the same turn
had found it alive. -/
inductive Seen where
  | nothing
  | retry
  | gone (probed : Bool)
  | frame (frame : WatchFrame)

/-- The result of a turn, or of a part of one. -/
structure Served where
  state : WatchState
  push : Option Push := none
  seen : Seen := .nothing

/-- `send_gone`. The notice counts as given whether or not the sink takes it. -/
def sendGone (spec : WatchSpec) (accepts probed : Bool) (state : WatchState) : Served :=
  if state.gone then { state, seen := .gone probed }
  else
    -- the sent frame is not forgotten: a pane that comes back unchanged will be a repeat
    { state := { state with gone := true }.ungate
      push := some (.notice (goneFrame spec) accepts)
      seen := .gone probed }

/-- The message `send_frame` chooses. -/
def chooseFrame (host : WatchHost) (spec : WatchSpec) (state : WatchState) (frame : WatchFrame) :
    Outbound :=
  if state.forceFull || state.sentFingerprint == "" then fullFrame host spec frame
  -- same content, other metadata: the client keeps its lines
  else if contentFingerprint host frame.content.text = state.sentFingerprint then
    deltaFrame host spec frame state.sentFingerprint (copyEverything frame.content.text)
  else
    let segments := build state.sentContent.text frame.content.text
    if efficient segments frame.content.text then
      deltaFrame host spec frame state.sentFingerprint segments
    else fullFrame host spec frame

/-- The frame is the one last accepted, metadata included, and no full frame is owed. -/
def repeats (host : WatchHost) (spec : WatchSpec) (state : WatchState) (frame : WatchFrame) :
    Bool :=
  !state.forceFull && state.sentFrameFingerprint != "" &&
    frameFingerprint host spec.format frame == state.sentFrameFingerprint

/-- Push a frame, unless one is waited for. -/
def sendFrame (host : WatchHost) (spec : WatchSpec) (now : Nat) (accepts : Bool)
    (state : WatchState) (frame : WatchFrame) : Served :=
  if state.pendingAck then { state, seen := .frame frame }
  else if repeats host spec state frame then
    -- nothing is sent, but an ack that echoes this read is a duplicate, not foreign
    { state := { state with
        sentClassificationAgent := frame.classificationAgent
        sentResizeSettling := frame.resizeSettling
        ackedFingerprint := contentFingerprint host frame.content.text }
      seen := .frame frame }
  else
    -- a refused push leaves no trace in the state, not even of the attempt
    { state :=
        if accepts then { state.sent host spec now frame with forceFull := false } else state
      push := some (.content frame (chooseFrame host spec state frame) accepts)
      seen := .frame frame }

end Lerdr.Watch
