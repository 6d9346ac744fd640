/-
# Lerdr.Conversation.Reader — one page of a located transcript
(`lerdr-coord/src/conversation/{reader,claude,omo,devin}.rs`).

The readers of transcripts in files share one way of paging: the entries before the cursor, at most
`limit` of them, the newest first to be taken. They differ in what a cursor that is not found means.
The flat reader and the Devin reader then take all entries, the OMO reader and the Claude reader
none.

Finding a transcript for a session scans directories; here it is a field of `Sources`, like the two
SQLite readers and the rows of the OMO plan. The caches of locations and of parsed OMO files are
left out: for a source that has not changed they answer what was read before.
-/
import Lerdr.Conversation.ClaudeChain
import Lerdr.Conversation.Devin
import Lerdr.Conversation.Tail

namespace Lerdr.Conversation

open Lib Lerdr.Rust

/-! ## §1 — pages -/

structure OmoTodoTask where
  id : Text
  content : Text
  status : Text
  deriving DecidableEq, Repr

structure OmoTodoPhase where
  name : Text
  tasks : List OmoTodoTask
  deriving DecidableEq, Repr

structure OmoTodoState where
  available : Bool := false
  reasonCode : Text := []
  sessionId : Text := []
  version : Int := 0
  updatedAt : Text := []
  phases : List OmoTodoPhase := []
  truncated : Bool := false
  deriving DecidableEq, Repr

/-- What a reader answers. -/
structure Page where
  available : Bool := false
  reasonCode : Text := []
  reason : Text := []
  entries : List Entry := []
  hasMore : Bool := false
  total : Int := 0
  fileTruncated : Bool := false
  sourceCorrupt : Bool := false
  continuationIncomplete : Bool := false
  continuationReason : Text := []
  omoPlan : Option OmoTodoState := none
  cursorBefore : Text := []
  sourcePath : Text := []
  probePath : Text := []

def Page.unavailable (code reason : String) : Page :=
  { reasonCode := code.toList, reason := reason.toList }

def maxConversationBytes : Nat := 16 * 1024 * 1024

def defaultPageSize : Nat := 80

def maxPageSize : Nat := 200

/-- How many entries a page has. -/
def pageLimit (limit : Nat) : Nat := if limit < 1 then defaultPageSize else min limit maxPageSize

theorem pageLimit_pos (limit : Nat) : 0 < pageLimit limit := by
  rw [pageLimit]
  split
  · decide
  · rw [maxPageSize]
    omega

/-- Where the entries before a cursor end; nowhere if the cursor names none. -/
def cursorEnd (entries : List Entry) (before : Text) : Option Nat :=
  if before.isEmpty then some entries.length else entries.findIdx? (·.id = before)

/-- The entries of a page that ends at `stop`. -/
def pageEntries (entries : List Entry) (stop limit : Nat) : List Entry :=
  (entries.take stop).drop (stop - pageLimit limit)

/-- A page is what comes between the entries before it and its end. -/
theorem take_append_pageEntries (entries : List Entry) (stop limit : Nat) :
    entries.take (stop - pageLimit limit) ++ pageEntries entries stop limit =
      entries.take stop := by
  have hmin : entries.take (stop - pageLimit limit) =
      (entries.take stop).take (stop - pageLimit limit) := by
    rw [List.take_take, Nat.min_eq_left (Nat.sub_le _ _)]
  rw [hmin, pageEntries, List.take_append_drop]

theorem cursorEnd_le {entries : List Entry} {before : Text} {stop : Nat}
    (h : cursorEnd entries before = some stop) : stop ≤ entries.length := by
  rw [cursorEnd] at h
  split at h
  · exact Nat.le_of_eq (Option.some.inj h).symm
  · exact Nat.le_of_lt (List.findIdx?_eq_some_iff_getElem.mp h).1

/-- A page with more before it is full. -/
theorem head?_pageEntries {entries : List Entry} {stop limit : Nat} (hle : stop ≤ entries.length)
    (h : 0 < stop - pageLimit limit) :
    ∃ first, entries[stop - pageLimit limit]? = some first ∧
      (pageEntries entries stop limit).head? = some first := by
  have hlimit := pageLimit_pos limit
  have hfirst := List.getElem?_eq_getElem (show stop - pageLimit limit < entries.length by omega)
  refine ⟨_, hfirst, ?_⟩
  rw [pageEntries, List.head?_drop, List.getElem?_take, if_pos (by omega), hfirst]

/-- The page of some entries that ends at `stop`. -/
def pageAt (entries : List Entry) (stop limit : Nat) (clipped : Bool) : Page :=
  { available := true
    entries := pageEntries entries stop limit
    hasMore := 0 < stop - pageLimit limit
    total := entries.length
    fileTruncated := clipped }

/-! ## §2 — the sources -/

structure ProjectContext where
  cwd : Text
  foregroundCwd : Text
  deriving DecidableEq, Repr

/-- Why nothing could be read. -/
inductive ReadError where
  /-- "read conversation log: …" -/
  | log
  /-- "resolve Claude conversation chain: …" -/
  | chain (e : ChainError)
  /-- "read Claude conversation segment: …" -/
  | segment
  /-- An error of a reader that is not modelled. -/
  | other (message : Text)
  deriving DecidableEq, Repr

/-- What an agent name stands for. -/
inductive Provider where
  | claude
  /-- `qoder`, `codex`, `pi` and `omp`, which share the flat reader. -/
  | flat
  | omo
  /-- `opencode` and `hermes`, in SQLite databases. -/
  | native
  | devin
  deriving DecidableEq, Repr

/-- The provider of an agent; `none` where `supported` fails. -/
def providerOf (host : Host) (agent : Text) : Option Provider :=
  let name := normalizedAgent host agent
  if ["hermes", "hermesagent", "opencode"].any (·.toList = name) then some .native
  else if ["omo", "ohmyopencode"].any (·.toList = name) then some .omo
  else if ["devin", "devincli"].any (·.toList = name) then some .devin
  else if ["claude", "claudecode"].any (·.toList = name) then some .claude
  else if ["qoder", "qodercli", "codex", "openaicodex", "pi", "picodingagent", "omp",
      "ohmypi"].any (·.toList = name) then some .flat
  else none

/-- What the readers read from. -/
structure Sources where
  fs : Fs
  /-- `locate_with_project`, of agent, project and session. -/
  locate : Text → ProjectContext → Text → Location
  /-- `omo_locate`, of directory and session: a location and the session's id, or a reason code. -/
  omoLocate : Text → Text → Except String (Location × Text)
  /-- `verify_omo_identity_file`, of the file, the session's id and the directory. -/
  omoVerify : Bytes → Text → Text → Bool
  /-- `latest_valid_omo_todo`, of the text read and the session's id: the last valid plan, and
  whether there were only invalid ones. -/
  omoTodo : Bytes → Text → Option OmoTodoState × Bool
  /-- `devin_locate`, of the session. -/
  devinLocate : Text → Location
  /-- The SQLite readers, of agent, project, session, cursor and limit. -/
  unmodelled : Text → ProjectContext → Text → Text → Nat → Except ReadError Page

def normalizeProjectContext (host : Host) (agent : Text) (project : ProjectContext) :
    ProjectContext :=
  let foreground := trim project.foregroundCwd
  if providerOf host agent ≠ some .claude ∨ foreground.isEmpty ∨ foreground.head? ≠ some '/' ∨
      foreground = project.cwd then
    { project with foregroundCwd := [] }
  else { project with foregroundCwd := foreground }

/-! ## §3 — the readers -/

section Readers

variable (host : Host) (src : Sources)

/-- The flat reader, once the transcript is located. -/
def flatRead (agent : Text) (location : Location) (before : Text) (limit : Nat) :
    Except ReadError Page :=
  match src.fs.openNoFollow (Utf8.bytes location.path) with
  | none => .error .log
  | some (_, file) =>
    let tail := loadTail maxConversationBytes file.data
    let entries := parseTranscript host agent tail.1
    .ok { pageAt entries ((cursorEnd entries before).getD entries.length) limit tail.2 with
      sourcePath := location.path
      probePath := location.path }

/-- `read_captured_segment`; `none` when the file is not what it was. -/
def readCapturedSegment (segment : ClaudeSegment) (limit : Nat) : Option (Bytes × Bool) :=
  match captureFileSource host src.fs segment.location with
  | .error _ => none
  | .ok source =>
    if source.revision ≠ segment.fileRevision ∨ source.length < segment.capturedEnd ∨
        (source.length = segment.capturedEnd ∧ segment.sourceChangeToken ≠ [] ∧
          fileChangeToken source.file ≠ segment.sourceChangeToken) then none
    else if segment.capturedEnd = 0 then some ([], false)
    else if limit < 1 then none
    else some (loadTail limit (source.file.data.take segment.capturedEnd))

/-- The mark that `namespace_claude_entries` puts before the ids of a segment. -/
def segmentMark (segment : ClaudeSegment) : Text :=
  (hex (host.sha256 (Utf8.bytes segment.sessionId ++
    0 :: Utf8.bytes segment.fileRevision)).toList).take 12 ++ ['-']

def namespaceClaudeEntries (entries : List Entry) (segment : ClaudeSegment) (isAnchor : Bool) :
    List Entry :=
  if isAnchor then entries
  else entries.map fun entry => { entry with id := segmentMark host segment ++ entry.id }

/-- What the loop over the segments has read. -/
structure ChainRead where
  entries : List Entry
  clipped : Bool
  lost : Bool

/-- The loop of `claude_read_chain`: the segments from the newest back, as far as `remaining` bytes
reach. The last of the list is the anchor. -/
def readBack (isNewest : Bool) (remaining : Nat) :
    List ClaudeSegment → Except ReadError ChainRead
  | [] => .ok ⟨[], false, false⟩
  | segment :: older =>
    if remaining = 0 then .ok ⟨[], true, false⟩
    else match readCapturedSegment host src segment (min remaining segment.capturedEnd) with
      | none => if isNewest then .error .segment else .ok ⟨[], true, true⟩
      | some (text, clipped) =>
        let entries := namespaceClaudeEntries host (parseTranscript host "claude".toList text)
          segment older.isEmpty
        if clipped then .ok ⟨entries, true, false⟩
        else (readBack false (remaining - min segment.capturedEnd remaining) older).map fun rest =>
          ⟨rest.entries ++ entries, rest.clipped, rest.lost⟩

/-- `continuation_diagnostic` of the reason a page carries. -/
def withContinuation (page : Page) : Option Incomplete → Page
  | none => page
  | some reason => { page with continuationIncomplete := true, continuationReason := reason.text }

/-- A page of a chain, read from its newest segment on. -/
def claudeReadChain (sessionId : Text) (anchor : Location) (before : Text) (limit : Nat) :
    Except ReadError Page :=
  match resolveClaudeChain host src.fs anchor sessionId with
  | .error e => .error (.chain e)
  | .ok chain =>
    if chain.segments.isEmpty then
      .ok (.unavailable "invalid_session" "No conversation log is available for this session.")
    else match readBack host src true maxConversationBytes chain.segments.reverse with
      | .error e => .error e
      | .ok read =>
        match cursorEnd read.entries before with
        | none =>
          .ok
            { available := true
              reasonCode := "source_changed".toList
              reason := "The conversation chain changed; reload history.".toList }
        | some stop =>
          .ok (withContinuation
            { pageAt read.entries stop limit read.clipped with
              sourcePath := anchor.path
              probePath := (chain.segments.getLast?.map (·.location.path)).getD anchor.path }
            (if read.lost then some .missingSource else chain.incomplete))

/-- `omo_load`: entries, plan and whether the file was clipped, or a reason code. -/
def omoLoad (location : Location) (id cwd : Text) :
    Except String (List Entry × OmoTodoState × Bool) :=
  match captureFileSource host src.fs location with
  | .error _ => .error "source_unavailable"
  | .ok source =>
    if !src.omoVerify source.file.data id cwd then .error "invalid_session"
    else
      let tail := loadTail maxConversationBytes source.file.data
      let plan : OmoTodoState :=
        match src.omoTodo tail.1 id with
        | (some state, _) =>
          { state with available := true, truncated := state.truncated || tail.2 }
        | (none, invalidOnly) =>
          { available := true
            sessionId := id
            truncated := tail.2
            reasonCode := if invalidOnly then "source_corrupt".toList else [] }
      .ok (parseTranscript host "pi".toList tail.1, plan, tail.2)

/-- A page of an OMO session. -/
def omoRead (cwd sessionId before : Text) (limit : Nat) : Except ReadError Page :=
  match src.omoLocate cwd (trim sessionId) with
  | .error code => .ok (.unavailable code "OMO conversation history is unavailable.")
  | .ok (location, id) =>
    match omoLoad host src location id cwd with
    | .error code =>
      .ok (.unavailable code
        (if code = "invalid_session" then
          "OMO session identity does not match the requested session."
        else "OMO conversation history is unavailable."))
    | .ok (entries, plan, clipped) =>
      match cursorEnd entries before with
      | none => .ok (.unavailable "invalid_cursor" "The conversation cursor is invalid.")
      | some stop =>
        .ok { pageAt entries stop limit clipped with
          sourceCorrupt := plan.reasonCode = "source_corrupt".toList
          omoPlan := some plan
          sourcePath := location.path }

/-- `devin_read_for`. -/
def devinRead (sessionId before : Text) (limit : Nat) : Except ReadError Page :=
  if (trim sessionId).isEmpty then
    .ok (.unavailable "invalid_session" "This agent has not reported a conversation session yet.")
  else
    let location := src.devinLocate (trim sessionId)
    if location.path.isEmpty then
      .ok (.unavailable "invalid_session" "No conversation log is available for this session.")
    else match src.fs.openNoFollow (Utf8.bytes location.path) with
      | none => .error .log
      | some (_, file) =>
        match host.fromSlice (file.data.take maxConversationBytes) with
        | none =>
          .ok (.unavailable "source_corrupt"
            "The conversation log is not a readable Devin transcript.")
        | some document =>
          let entries := devinEntries document
          .ok { pageAt entries ((cursorEnd entries before).getD entries.length) limit false with
            sourcePath := location.path
            probePath := location.path }

/-- The page that the agent's reader answers. -/
def readWithProject (agent : Text) (project : ProjectContext) (sessionId before : Text)
    (limit : Nat) : Except ReadError Page :=
  let project := normalizeProjectContext host agent project
  match providerOf host agent with
  | some .native => src.unmodelled agent project sessionId before limit
  | some .omo => omoRead host src project.cwd sessionId before limit
  | some .devin => devinRead host src sessionId before limit
  | none =>
    .ok (.unavailable "invalid_provider" "Conversation history is not available for this agent.")
  | some provider =>
    if (trim sessionId).isEmpty then
      .ok (.unavailable "invalid_session"
        "This agent has not reported a conversation session yet.")
    else
      let location := src.locate agent project (trim sessionId)
      if location.path.isEmpty then
        .ok (.unavailable "invalid_session" "No conversation log is available for this session.")
      else if provider = .claude then
        claudeReadChain host src (trim sessionId) location before limit
      else flatRead host src agent location before limit

end Readers

end Lerdr.Conversation
