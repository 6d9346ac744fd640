/-
# Lerdr.Conversation.ClaudeChain — following a session into its continuations
(`lerdr-coord/src/conversation/claude.rs`).

A Claude session that is continued in another says so in its last lines. `resolve_claude_chain`
follows these links from the located file, each to a file of the same directory, for at most 64
files. The links are what transcripts say, so they may be anything: the walk is bounded by its hops
and by what it has seen, and every file it takes is checked again where it opens it (`hop_cases`,
`Walk.Sound.hop`).
-/
import Lerdr.Conversation.Files
import Lerdr.Conversation.Ranges

namespace Lerdr.Conversation

open Lib Lerdr.Rust
open Lib.FileTree (Name Ino)

/-! ## §1 — the last lines of a file -/

/-- `CLAUDE_CONTINUATION_FOOTER_BYTES`. -/
def footerBytes : Nat := 64 * 1024

/-- `CLAUDE_CONTINUATION_MAX_SEGMENTS`. -/
def maxSegments : Nat := 64

/-- `CLAUDE_CONTINUATION_FOOTER_BUDGET`. -/
def footerBudgetBytes : Nat := 4 * 1024 * 1024

/-- `CLAUDE_CONTINUATION_RECORD_BYTES`. -/
def recordBytes : Nat := 1024 * 1024

/-- Why a chain ends before the conversation does. -/
inductive Incomplete where
  | missingSource
  | invalidLink
  | ambiguous
  | cycle
  | limit
  | partialLink
  deriving DecidableEq, Repr

def Incomplete.text : Incomplete → Text
  | .missingSource => "missing_source".toList
  | .invalidLink => "invalid_link".toList
  | .ambiguous => "ambiguous_link".toList
  | .cycle => "cycle".toList
  | .limit => "resolution_limit".toList
  | .partialLink => "partial_link".toList

/-- A link stands at the head of `raw`: `"type"`, a colon and `"continued-in"`. -/
def beginsContinuation (raw : Bytes) : Bool :=
  let key := Utf8.bytes "\"type\"".toList
  if key.isPrefixOf raw then
    match (raw.drop key.length).dropWhile isAsciiWhitespace with
    | colon :: rest =>
      colon = 0x3a &&
        (Utf8.bytes "\"continued-in\"".toList).isPrefixOf (rest.dropWhile isAsciiWhitespace)
    | [] => false
  else false

def hasPartialContinuationType (raw : Bytes) : Bool := raw.tails.any beginsContinuation

/-- `claude_footer_boundary_uninspectable`. -/
def boundaryUninspectable (footer : Bytes) : Bool :=
  match footer.findIdx? (· = newline) with
  | none => true
  | some i => footer.length ≤ i + 1 || footerBytes < i + 1

def safeSessionId (value : Text) : Bool :=
  !value.isEmpty && len value ≤ 128 && value ≠ ['.'] && value ≠ ['.', '.'] &&
    value.all fun c => isAsciiAlphabetic c || isAsciiDigit c || c = '-' || c = '_' || c = '.'

/-- What the records of a footer say. -/
structure Links where
  children : List Text
  invalid : Bool
  isPartial : Bool
  deriving DecidableEq, Repr

/-- One record; `none` when it is too long to inspect. -/
def noteRecord (host : Host) (sessionId : Text) (links : Links) (record : JsonlRecord) :
    Option Links :=
  if footerBytes < record.raw.length then none
  else match host.fromSlice record.raw with
    | none =>
      some { links with
        isPartial := links.isPartial || (record.trailing && hasPartialContinuationType record.raw) }
    | some value =>
      if !record.complete then
        some { links with
          isPartial :=
            links.isPartial || (record.trailing && hasPartialContinuationType record.raw) }
      else match value.asObject with
        | none => some links
        | some raw =>
          if Record.text raw "type" ≠ "continued-in".toList ∨ Record.isTrue raw "isSidechain" then
            some links
          else if (Record.get raw "sessionId").any fun marker =>
              marker.stringValue.isEmpty || marker.stringValue ≠ sessionId then
            some { links with invalid := true }
          else
            let child := trim (Record.text raw "continuedInSessionId")
            if child.isEmpty ∨ !safeSessionId child then some { links with invalid := true }
            else if links.children.any (· = child) then some links
            else some { links with children := links.children ++ [child] }

/-- One file of a chain. -/
structure ClaudeSegment where
  sessionId : Text
  location : Location
  capturedEnd : Nat
  fileRevision : Text
  sourceChangeToken : Text
  fileIdentity : Text
  footerStart : Nat
  footerEnd : Nat
  deriving DecidableEq, Repr

/-- What the footer of a file says: the session it is continued in, why that is not known, or
neither. -/
inductive Continuation where
  | child (sessionId : Text)
  | unknown (reason : Incomplete)
  | last
  deriving DecidableEq, Repr

def Links.continuation (links : Links) : Continuation :=
  match links.children with
  | _ :: _ :: _ => .unknown .ambiguous
  | children =>
    if links.invalid then .unknown .invalidLink
    else match children with
      | child :: _ => .child child
      | [] => if links.isPartial then .unknown .partialLink else .last

/-- The segment of a captured source. Its identity is put in by the walk. -/
def segmentOf (source : FileSource) (sessionId : Text) : ClaudeSegment :=
  { sessionId := sessionId
    location := source.location
    capturedEnd := source.length
    fileRevision := source.revision
    sourceChangeToken := fileChangeToken source.file
    fileIdentity := []
    footerStart := source.length - footerBytes
    footerEnd := source.length }

/-- What the last lines say. -/
def inspectFooter (host : Host) (source : FileSource) (sessionId : Text) : Continuation :=
  let start := source.length - footerBytes
  let footer := source.file.data.drop start
  let startsInside : Bool :=
    0 < start && (source.file.data[start - 1]?.any (· ≠ newline))
  if startsInside && boundaryUninspectable footer then .unknown .limit
  else
    let collected := collectJsonlRecordsBytes host start startsInside recordBytes footer
    if 0 < collected.2 then .unknown .limit
    else match collected.1.foldlM (noteRecord host sessionId) ⟨[], false, false⟩ with
      | none => .unknown .limit
      | some links => links.continuation

/-- `inspect_claude_segment_footer`; a session id that is not safe is an error. -/
def inspectClaudeSegmentFooter (host : Host) (source : FileSource) (sessionId : Text) :
    Option (ClaudeSegment × Continuation) :=
  if safeSessionId sessionId then
    some (segmentOf source sessionId, inspectFooter host source sessionId)
  else none

/-! ## §2 — the walk -/

structure ClaudeChain where
  segments : List ClaudeSegment
  incomplete : Option Incomplete
  deriving DecidableEq, Repr

/-- Why there is no chain at all. -/
inductive ChainError where
  /-- "invalid Claude chain anchor" -/
  | invalidAnchor
  /-- The located file could not be captured. -/
  | source (e : SourceError)
  /-- "Claude chain source is unavailable" -/
  | unavailable
  deriving DecidableEq, Repr

/-- What the loop of `resolve_claude_chain` keeps. -/
structure Walk where
  segments : List ClaudeSegment
  seenSessions : List Text
  seenFiles : List Text
  seenIdentities : List Text
  location : Location
  sessionId : Text
  footerBudget : Nat
  deriving DecidableEq, Repr

/-- What one round of the loop comes to. -/
inductive Hop where
  | next (w : Walk)
  | done (chain : ClaudeChain)
  | failed (e : ChainError)
  deriving DecidableEq, Repr

def projectDir (anchor : Location) : Text := (pathParent anchor.path).getD []

/-- The round ends with the segments so far. -/
def Walk.stop (w : Walk) (reason : Option Incomplete) : Hop := .done ⟨w.segments, reason⟩

/-- A failure to read: of the first file an error, of another the end of the chain. -/
def Walk.lose (w : Walk) (e : ChainError) : Hop :=
  if w.segments.isEmpty then .failed e else w.stop (some .missingSource)

/-- Follow a link, once the segment it stands in is taken. -/
def follow (fs : Fs) (anchor : Location) (w : Walk) (child : Text) : Hop :=
  if maxSegments ≤ w.segments.length then w.stop (some .limit)
  else if !safeSessionId child then w.stop (some .invalidLink)
  else match containedRegularFile fs (pathJoin (projectDir anchor) (child ++ ".jsonl".toList))
      anchor.root with
    | none => w.stop (some .missingSource)
    | some resolved =>
      if cleanPath (pathText resolved.dropLast) = cleanPath (projectDir anchor) then
        .next { w with location := ⟨pathText resolved, anchor.root, []⟩, sessionId := child }
      else w.stop (some .missingSource)

/-- What comes after a segment that was taken. -/
def settle (fs : Fs) (anchor : Location) (w : Walk) : Continuation → Hop
  | .unknown reason => w.stop (some reason)
  | .last => w.stop none
  | .child child => follow fs anchor w child

def Walk.take (w : Walk) (segment : ClaudeSegment) (identity : Text) : Walk :=
  { w with
    segments := w.segments ++ [{ segment with fileIdentity := identity }]
    seenSessions := w.seenSessions ++ [w.sessionId]
    seenFiles := w.seenFiles ++ [cleanPath segment.location.path]
    seenIdentities := w.seenIdentities ++ [identity]
    footerBudget := w.footerBudget + (segment.footerEnd - segment.footerStart) }

/-- One round of the loop. -/
def hop (host : Host) (fs : Fs) (anchor : Location) (w : Walk) : Hop :=
  match captureFileSource host fs w.location with
  | .error e => w.lose (.source e)
  | .ok source =>
    match inspectClaudeSegmentFooter host source w.sessionId with
    | none => w.lose .unavailable
    | some (segment, continuation) =>
      let identity := fileIdentity source.ino
      if footerBudgetBytes < w.footerBudget + (segment.footerEnd - segment.footerStart) then
        w.stop (some .limit)
      else if w.seenSessions.any (· = w.sessionId) ||
          w.seenFiles.any (· = cleanPath segment.location.path) ||
          w.seenIdentities.any (· = identity) then
        w.stop (some .cycle)
      else settle fs anchor (w.take segment identity) continuation

/-- The loop, for so many rounds. -/
def hops (host : Host) (fs : Fs) (anchor : Location) : Nat → Walk → Except ChainError ClaudeChain
  | 0, w => .ok ⟨w.segments, some .limit⟩
  | n + 1, w =>
    match hop host fs anchor w with
    | .next w' => hops host fs anchor n w'
    | .done chain => .ok chain
    | .failed e => .error e

def resolveClaudeChain (host : Host) (fs : Fs) (anchor : Location) (anchorSessionId : Text) :
    Except ChainError ClaudeChain :=
  if anchor.path.isEmpty ∨ anchor.root.isEmpty ∨ !safeSessionId (trim anchorSessionId) then
    .error .invalidAnchor
  else
    hops host fs anchor maxSegments ⟨[], [], [], [], anchor, trim anchorSessionId, 0⟩

/-! ## §3 — bounded and confined -/

/-- **A segment lies in the project directory**: its path is that directory's with one more name,
the names lead from the root of the tree to the file it was taken from, through directories alone,
and the directory lies in the resolved root. -/
structure Confined (fs : Fs) (anchor : Location) (segment : ClaudeSegment) : Prop where
  exists_place : ∃ root dir name place,
    fs.canonicalize (Utf8.bytes anchor.root) = some root ∧ root <+: dir ∧
      projectDir anchor = pathText dir ∧ segment.location.path = pathText (dir ++ [name]) ∧
      fs.resolve (Utf8.bytes segment.location.path) = some place ∧
      FileTree.names place = dir ++ [name] ∧ FileTree.Leads fs.node fs.root place ∧
      segment.fileIdentity = fileIdentity (FileTree.inoOf fs.root place)

/-- **A segment is what its file was**: it was made of the source captured at its location. -/
def Captured (host : Host) (fs : Fs) (segment : ClaudeSegment) : Prop :=
  ∃ source identity, captureFileSource host fs segment.location = .ok source ∧
    segment = { segmentOf source segment.sessionId with fileIdentity := identity }

/-- What holds of the segments taken so far. -/
structure Walk.Kept (host : Host) (fs : Fs) (anchor : Location) (w : Walk) : Prop where
  sessions : w.segments.map (·.sessionId) = w.seenSessions
  files : w.segments.map (fun segment => cleanPath segment.location.path) = w.seenFiles
  identities : w.segments.map (·.fileIdentity) = w.seenIdentities
  sessions_nodup : w.seenSessions.Nodup
  files_nodup : w.seenFiles.Nodup
  identities_nodup : w.seenIdentities.Nodup
  confined : ∀ segment ∈ w.segments, Confined fs anchor segment
  captured : ∀ segment ∈ w.segments, Captured host fs segment

/-- The file to be taken next is the anchor, or a file whose path says it lies beside it. -/
structure Walk.Ready (anchor : Location) (w : Walk) : Prop where
  root : w.location.root = anchor.root
  beside : w.location.path = anchor.path ∨ ∃ names, (∀ name ∈ names, FileTree.Plain name) ∧
    w.location.path = pathText names ∧ pathText names.dropLast = projectDir anchor

section Walks

variable {host : Host} {fs : Fs} {anchor : Location} {w : Walk}

/-- The directory that a canonical path's text names. -/
theorem pathParent_pathText {names : List Name} (h : ∀ name ∈ names, FileTree.Plain name)
    (hne : names ≠ []) : pathParent (pathText names) = some (pathText names.dropLast) := by
  rw [pathText, pathParent_absolute (plainParts_lossy h) (by simpa using hne), pathText,
    List.map_dropLast]

theorem pathText_dropLast {names other : List Name} (h : ∀ name ∈ names, FileTree.Plain name)
    (hother : ∀ name ∈ other, FileTree.Plain name) (heq : pathText names = pathText other) :
    pathText names.dropLast = pathText other.dropLast := by
  have hparts := absolute_injective (plainParts_lossy h) (plainParts_lossy hother) heq
  rw [pathText, pathText, List.map_dropLast, List.map_dropLast, hparts]

/-- **A captured file is confined**, if it is the one to be taken next. -/
theorem confined_of_contained (hready : w.Ready anchor) {ino : Ino} {root : List Name}
    {place : FileTree.Place} (h : Contained fs w.location ino root place) (segment : ClaudeSegment)
    (hlocation : segment.location = w.location)
    (hidentity : segment.fileIdentity = fileIdentity ino) :
    Confined fs anchor segment := by
  have hplain := FileTree.Tree.Leads.plain h.leads
  obtain ⟨rel, hrel⟩ := h.below
  have hne : rel ≠ [] := by
    rintro rfl
    exact h.strict (by rw [← hrel, List.append_nil])
  have hnames : FileTree.names place = (root ++ rel.dropLast) ++ [rel.getLast hne] := by
    rw [List.append_assoc, List.dropLast_append_getLast, hrel]
  have hdir : (FileTree.names place).dropLast = root ++ rel.dropLast := by
    rw [hnames, List.dropLast_concat]
  have hproject : projectDir anchor = pathText (root ++ rel.dropLast) := by
    rcases hready.beside with hanchor | ⟨names, hnamesPlain, hpath, hparent⟩
    · rw [projectDir, ← hanchor, h.path_eq,
        pathParent_pathText hplain (by rw [hnames]; simp), Option.getD_some, hdir]
    · rw [← hparent, ← pathText_dropLast hplain hnamesPlain (h.path_eq.symm.trans hpath), hdir]
  refine ⟨root, _, _, place, ?_, List.prefix_append _ _, hproject, ?_, ?_, hnames, h.leads, ?_⟩
  · rw [← hready.root]
    exact h.root_eq
  · rw [hlocation, h.path_eq, hnames]
  · rw [hlocation]
    exact h.place_eq
  · rw [hidentity, h.ino_eq]

/-- The segment a round takes: of the file captured, new in every respect. -/
structure Fresh (host : Host) (fs : Fs) (anchor : Location) (w : Walk) (segment : ClaudeSegment)
    (identity : Text) : Prop where
  session_eq : segment.sessionId = w.sessionId
  session : w.sessionId ∉ w.seenSessions
  file : cleanPath segment.location.path ∉ w.seenFiles
  identity_new : identity ∉ w.seenIdentities
  confined : Confined fs anchor { segment with fileIdentity := identity }
  captured : Captured host fs { segment with fileIdentity := identity }

/-- **What a round can do**: fail, stop with what there is, or take a new segment and stop or go on
from it. -/
theorem hop_cases (host : Host) (fs : Fs) (hready : w.Ready anchor) :
    (∃ e, hop host fs anchor w = .failed e) ∨ (∃ reason, hop host fs anchor w = w.stop reason) ∨
      ∃ segment identity continuation, Fresh host fs anchor w segment identity ∧
        hop host fs anchor w = settle fs anchor (w.take segment identity) continuation := by
  have hlose : ∀ e, (∃ e', w.lose e = .failed e') ∨ ∃ reason, w.lose e = w.stop reason := by
    intro e
    rw [Walk.lose]
    split
    · exact .inl ⟨e, rfl⟩
    · exact .inr ⟨_, rfl⟩
  have hlost : ∀ e, hop host fs anchor w = w.lose e →
      (∃ e, hop host fs anchor w = .failed e) ∨
        ∃ reason, hop host fs anchor w = w.stop reason := by
    intro e he
    rw [he]
    exact hlose e
  cases hsource : captureFileSource host fs w.location with
  | error e => exact (hlost (.source e) (by rw [hop, hsource])).imp id .inl
  | ok source =>
    cases hinspect : inspectClaudeSegmentFooter host source w.sessionId with
    | none => exact (hlost .unavailable (by rw [hop, hsource]; simp only [hinspect])).imp id .inl
    | some inspected =>
      obtain ⟨segment, continuation⟩ := inspected
      obtain ⟨hlocation, -, root, place, hcontained⟩ := captureFileSource_spec hsource
      have hsegment : segment = segmentOf source w.sessionId := by
        rw [inspectClaudeSegmentFooter] at hinspect
        split at hinspect
        · exact (congrArg Prod.fst (Option.some.inj hinspect)).symm
        · cases hinspect
      by_cases hbudget : footerBudgetBytes <
          w.footerBudget + (segment.footerEnd - segment.footerStart)
      · exact .inr (.inl ⟨_, by rw [hop, hsource]; simp only [hinspect]; rw [if_pos hbudget]⟩)
      · by_cases hseen : (w.seenSessions.any (· = w.sessionId) ||
            w.seenFiles.any (· = cleanPath segment.location.path) ||
            w.seenIdentities.any (· = fileIdentity source.ino)) = true
        · exact .inr (.inl ⟨_, by
            rw [hop, hsource]; simp only [hinspect]; rw [if_neg hbudget, if_pos hseen]⟩)
        · have hfresh : Fresh host fs anchor w segment (fileIdentity source.ino) := by
            simp only [Bool.or_eq_true, List.any_eq_true, decide_eq_true_eq, exists_eq_right,
              not_or] at hseen
            subst hsegment
            refine ⟨rfl, hseen.1.1, hseen.1.2, hseen.2, ?_, source, _, ?_, rfl⟩
            · exact confined_of_contained hready hcontained _ hlocation rfl
            · show captureFileSource host fs source.location = .ok source
              rw [hlocation, hsource]
          refine .inr (.inr ⟨segment, _, continuation, hfresh, ?_⟩)
          rw [hop, hsource]
          simp only [hinspect]
          rw [if_neg hbudget, if_neg hseen]

theorem nodup_concat {seen : List Text} {x : Text} (hx : x ∉ seen) (h : seen.Nodup) :
    (seen ++ [x]).Nodup := by
  rw [← List.concat_eq_append]
  exact List.Nodup.concat hx h

theorem Walk.Kept.take {segment : ClaudeSegment} {identity : Text} (h : w.Kept host fs anchor)
    (hfresh : Fresh host fs anchor w segment identity) :
    (w.take segment identity).Kept host fs anchor where
  sessions := by
    rw [Walk.take, List.map_append, h.sessions, List.map_singleton, hfresh.session_eq]
  files := by rw [Walk.take, List.map_append, h.files, List.map_singleton]
  identities := by rw [Walk.take, List.map_append, h.identities, List.map_singleton]
  sessions_nodup := nodup_concat hfresh.session h.sessions_nodup
  files_nodup := nodup_concat hfresh.file h.files_nodup
  identities_nodup := nodup_concat hfresh.identity_new h.identities_nodup
  confined := by
    intro other hother
    rcases List.mem_append.mp hother with hother | hother
    · exact h.confined other hother
    · rw [List.mem_singleton.mp hother]
      exact hfresh.confined
  captured := by
    intro other hother
    rcases List.mem_append.mp hother with hother | hother
    · exact h.captured other hother
    · rw [List.mem_singleton.mp hother]
      exact hfresh.captured

theorem Confined.cleanPath_projectDir {segment : ClaudeSegment} (h : Confined fs anchor segment) :
    cleanPath (projectDir anchor) = projectDir anchor := by
  obtain ⟨root, dir, name, place, -, -, hproject, -, -, hnames, hleads, -⟩ := h.exists_place
  have hplain := FileTree.Tree.Leads.plain hleads
  rw [hnames] at hplain
  rw [hproject, pathText]
  exact cleanPath_absolute
    (plainParts_lossy (fun other hother => hplain other (List.mem_append_left _ hother)))

/-- **What comes after a segment**: the end, or a file of the same directory. -/
theorem settle_cases (hkept : w.Kept host fs anchor) (hne : w.segments ≠ [])
    (continuation : Continuation) :
    (∃ reason, settle fs anchor w continuation = w.stop reason) ∨
      ∃ w', settle fs anchor w continuation = .next w' ∧ w'.segments = w.segments ∧
        w'.Kept host fs anchor ∧ w'.Ready anchor := by
  cases continuation with
  | unknown reason => exact .inl ⟨_, rfl⟩
  | last => exact .inl ⟨_, rfl⟩
  | child child =>
    rw [settle, follow]
    split
    · exact .inl ⟨_, rfl⟩
    · split
      · exact .inl ⟨_, rfl⟩
      · split
        · exact .inl ⟨_, rfl⟩
        · next resolved hresolved =>
          split
          · next hparent =>
            refine .inr ⟨_, rfl, rfl, ⟨hkept.sessions, hkept.files, hkept.identities,
              hkept.sessions_nodup, hkept.files_nodup, hkept.identities_nodup, hkept.confined,
              hkept.captured⟩, rfl, .inr ⟨resolved, ?_, rfl, ?_⟩⟩
            · obtain ⟨_, _, hcanonical, _, _⟩ := containedRegularFile_spec hresolved
              exact plain_of_canonicalize hcanonical
            · -- both directories are canonical, so the cleaned texts are the texts
              obtain ⟨segment, hsegment⟩ := List.exists_mem_of_ne_nil _ hne
              obtain ⟨_, _, hcanonical, _, _⟩ := containedRegularFile_spec hresolved
              have hplain := plain_of_canonicalize hcanonical
              rw [(hkept.confined segment hsegment).cleanPath_projectDir] at hparent
              rw [← hparent, pathText]
              exact (cleanPath_absolute (plainParts_lossy
                (fun name hname => hplain name (List.mem_of_mem_dropLast hname)))).symm
          · exact .inl ⟨_, rfl⟩

/-- **What the loop returns** has at most one more segment for each round, all kept. -/
theorem hops_spec (n : Nat) {w : Walk} {chain : ClaudeChain} (hkept : w.Kept host fs anchor)
    (hready : w.Ready anchor) (h : hops host fs anchor n w = .ok chain) :
    chain.segments.length ≤ w.segments.length + n ∧
      ∃ w' : Walk, w'.segments = chain.segments ∧ w'.Kept host fs anchor := by
  induction n generalizing w with
  | zero =>
    cases h
    exact ⟨Nat.le_refl _, w, rfl, hkept⟩
  | succ n ih =>
    rw [hops] at h
    rcases hop_cases host fs hready with ⟨e, he⟩ | ⟨reason, hreason⟩ |
      ⟨segment, identity, continuation, hfresh, hsettle⟩
    · rw [he] at h
      cases h
    · rw [hreason, Walk.stop] at h
      cases h
      exact ⟨Nat.le_add_right _ _, w, rfl, hkept⟩
    · have htaken := hkept.take hfresh
      have hlength : (w.take segment identity).segments.length = w.segments.length + 1 := by
        rw [Walk.take, List.length_append, List.length_singleton]
      have hne : (w.take segment identity).segments ≠ [] := by
        intro hnil
        rw [hnil] at hlength
        cases hlength
      rcases settle_cases htaken hne continuation with ⟨reason, hreason⟩ |
        ⟨w', hnext, hsegments, hkept', hready'⟩
      · rw [hsettle, hreason, Walk.stop] at h
        cases h
        exact ⟨by rw [hlength]; omega, _, rfl, htaken⟩
      · rw [hsettle, hnext] at h
        obtain ⟨hle, hrest⟩ := ih hkept' hready' h
        rw [hsegments, hlength] at hle
        exact ⟨by omega, hrest⟩

end Walks

/-- **What a resolved chain is**: at most 64 segments, all kept. -/
theorem resolveClaudeChain_spec {host : Host} {fs : Fs} {anchor : Location} {anchorSessionId : Text}
    {chain : ClaudeChain} (h : resolveClaudeChain host fs anchor anchorSessionId = .ok chain) :
    chain.segments.length ≤ maxSegments ∧
      ∃ w : Walk, w.segments = chain.segments ∧ w.Kept host fs anchor := by
  rw [resolveClaudeChain] at h
  split at h
  · cases h
  · have hstart : Walk.Kept host fs anchor ⟨[], [], [], [], anchor, trim anchorSessionId, 0⟩ :=
      ⟨rfl, rfl, rfl, List.nodup_nil, List.nodup_nil, List.nodup_nil, by simp, by simp⟩
    obtain ⟨hlength, hrest⟩ := hops_spec maxSegments hstart ⟨rfl, .inl rfl⟩ h
    exact ⟨by simpa using hlength, hrest⟩

/-- **Continuation chains are bounded and confined.** Whatever the files say, the chain has at most
64 segments, no two of one session, of one path or of one file, each a file of the project directory
inside the configured root. -/
theorem claude_chain_confined (host : Host) (fs : Fs) (anchor : Location) (anchorSessionId : Text)
    (chain : ClaudeChain) (h : resolveClaudeChain host fs anchor anchorSessionId = .ok chain) :
    chain.segments.length ≤ 64 ∧ (chain.segments.map (·.sessionId)).Nodup ∧
      (chain.segments.map (·.location.path)).Nodup ∧ (chain.segments.map (·.fileIdentity)).Nodup ∧
      ∀ segment ∈ chain.segments, Confined fs anchor segment := by
  obtain ⟨hlength, w, hsegments, hkept⟩ := resolveClaudeChain_spec h
  refine ⟨hlength, ?_⟩
  rw [← hsegments]
  refine ⟨?_, ?_, ?_, hkept.confined⟩
  · rw [hkept.sessions]
    exact hkept.sessions_nodup
  · have hclean := hkept.files_nodup
    rw [← hkept.files] at hclean
    refine List.Nodup.of_map cleanPath ?_
    rwa [List.map_map]
  · rw [hkept.identities]
    exact hkept.identities_nodup

/-- A line that names a continuation. -/
def sampleLink (child : String) : Bytes :=
  Utf8.bytes (Json.print (fun c => [c]) (.obj [("type".toList, .str "continued-in".toList),
    ("continuedInSessionId".toList, .str child.toList)])) ++ [newline]

/-- Two sessions in `/r/p` that name each other, reached through a link `/s` to `/r`. -/
def sampleFs : Fs where
  node ino :=
    match ino with
    | ⟨0, 1⟩ => some (.dir [(Utf8.bytes ['r'], ⟨0, 2⟩), (Utf8.bytes ['s'], ⟨0, 3⟩)])
    | ⟨0, 2⟩ => some (.dir [(Utf8.bytes ['p'], ⟨0, 4⟩)])
    | ⟨0, 3⟩ => some (.symlink (Utf8.bytes ['r']))
    | ⟨0, 4⟩ => some (.dir [(Utf8.bytes "a.jsonl".toList, ⟨0, 5⟩),
        (Utf8.bytes "b.jsonl".toList, ⟨0, 6⟩)])
    | ⟨0, 5⟩ => some (.file ⟨sampleLink "b", 0, 0⟩)
    | ⟨0, 6⟩ => some (.file ⟨sampleLink "a", 0, 0⟩)
    | _ => none
  root := ⟨0, 1⟩
  cwd := []
  cwd_leads := .nil

/-- The walk from `a` takes `b`, and stops when `b` leads back. -/
theorem claude_chain_confined_cycle :
    ∃ chain, resolveClaudeChain sampleHost sampleFs
        ⟨"/r/p/a.jsonl".toList, "/s".toList, []⟩ "a".toList = .ok chain ∧
      chain.segments.map (·.sessionId) = ["a".toList, "b".toList] ∧
      chain.incomplete = some .cycle ∧
      chain.segments.length ≤ 64 ∧ (chain.segments.map (·.sessionId)).Nodup ∧
      (chain.segments.map (·.location.path)).Nodup ∧ (chain.segments.map (·.fileIdentity)).Nodup ∧
      ∀ segment ∈ chain.segments,
        Confined sampleFs ⟨"/r/p/a.jsonl".toList, "/s".toList, []⟩ segment := by
  have hrun : ((resolveClaudeChain sampleHost sampleFs ⟨"/r/p/a.jsonl".toList, "/s".toList, []⟩
      "a".toList).toOption.any fun chain =>
        chain.segments.map (·.sessionId) = ["a".toList, "b".toList] ∧
          chain.incomplete = some .cycle) = true := by decide +kernel
  cases hchain : resolveClaudeChain sampleHost sampleFs ⟨"/r/p/a.jsonl".toList, "/s".toList, []⟩
      "a".toList with
  | error e =>
    rw [hchain] at hrun
    cases hrun
  | ok chain =>
    rw [hchain] at hrun
    have hfacts := of_decide_eq_true hrun
    exact ⟨chain, rfl, hfacts.1, hfacts.2, claude_chain_confined _ _ _ _ chain hchain⟩

end Lerdr.Conversation
