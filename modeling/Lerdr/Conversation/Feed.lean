/-
# Lerdr.Conversation.Feed — the conversation feed of a pane (`lerdr-coord/src/convo_subs.rs`).

A feed polls the newest page of a pane's conversation and sends what is new. It does not keep the
page it sent: it keeps the ids of the entries and a digest of each, and the digest is left out for
an entry without tools of a page that is not native, on the ground that such an entry never changes.
The client replaces its list on a `reset` frame and appends otherwise. As long as such entries do
not change, the client's list ends with the page after every poll that read one (`feed_agrees`). The
steps of a Devin transcript do change, and then nothing is sent (`changed_step_not_sent`).
-/
import Lerdr.Conversation.Paging
import Lerdr.Lib.Runs

namespace Lerdr.Conversation

open Lib Lerdr.Rust

/-! ## §1 — the pane -/

/-- `AgentSessionInfo`, as far as the feed reads it. -/
structure AgentSessionInfo where
  agent : Text
  value : Text
  deriving DecidableEq, Repr

/-- `AgentInfo`, likewise. -/
structure AgentInfo where
  paneId : Text
  terminalId : Text
  workspaceId : Text
  tabId : Text
  agent : Option Text
  cwd : Option Text
  foregroundCwd : Option Text
  agentSession : Option AgentSessionInfo
  deriving DecidableEq, Repr

/-- What a pane converses about. -/
structure ConversationTuple where
  agent : Text
  cwd : Text
  project : ProjectContext
  sessionId : Text
  deriving DecidableEq, Repr

def conversationTuple (host : Host) (info : AgentInfo) : ConversationTuple :=
  let provider := (info.agent.or (info.agentSession.map (·.agent))).getD []
  { agent := provider
    cwd := info.cwd.getD []
    project := normalizeProjectContext host provider ⟨info.cwd.getD [], info.foregroundCwd.getD []⟩
    sessionId := (info.agentSession.map fun session => trim session.value).getD [] }

def browseRequest (info : AgentInfo) : BrowseRequest :=
  { scope :=
      { provider := info.agent.getD []
        cwd := info.cwd.getD []
        foregroundCwd := info.foregroundCwd.getD []
        sessionId := (info.agentSession.map (·.value)).getD [] }
    cursor := none
    limit := 0 }

structure TargetRef where
  serverSessionId : Text
  paneId : Text
  terminalId : Text := []
  generation : Int
  agentSessionId : Text := []
  workspaceId : Text := []
  tabId : Text := []
  deriving DecidableEq, Repr

def frameTarget (info : AgentInfo) (generation : Int) : TargetRef :=
  { serverSessionId := "primary".toList
    paneId := info.paneId
    terminalId := info.terminalId
    generation := generation
    agentSessionId := (info.agentSession.map fun session => trim session.value).getD []
    workspaceId := info.workspaceId
    tabId := info.tabId }

/-- `ConversationUpdateMessage`. -/
structure Frame where
  generation : Nat
  messages : List Entry
  reset : Bool
  target : TargetRef
  deriving DecidableEq, Repr

/-! ## §2 — what the feed remembers -/

/-- What is seen of a file without reading it. -/
structure SourceStamp where
  present : Bool
  dev : Nat
  ino : Nat
  len : Nat
  mtimeNs : Int
  deriving DecidableEq, Repr

def SourceStamp.missing : SourceStamp := ⟨false, 0, 0, 0, 0⟩

/-- A source and its write-ahead log. -/
structure ProbeStamp where
  source : SourceStamp
  wal : SourceStamp
  deriving DecidableEq, Repr

def ProbeStamp.missing : ProbeStamp := ⟨.missing, .missing⟩

def ProbeStamp.of (stat : Text → SourceStamp) (path walPath : Text) : ProbeStamp :=
  ⟨stat path, if walPath.isEmpty then .missing else stat walPath⟩

def entryDigest (host : Host) (entry : Entry) : Bytes :=
  (host.sha256 (Utf8.bytes (Json.print serdeEscape entry.toJson))).toList

/-- What stands for the digest of an entry that is not hashed. -/
def noDigest : Bytes := List.replicate 32 0

/-- Whether the content is compared too. -/
def hashed (page : BrowsePage) (entry : Entry) : Bool :=
  page.mode = .native || !entry.tools.isEmpty

/-- The digest the feed remembers of an entry. -/
def digestOf (host : Host) (page : BrowsePage) (entry : Entry) : Bytes :=
  if hashed page entry then entryDigest host entry else noDigest

/-- What two pages are compared by. -/
structure Sig where
  resolved : Bool := false
  available : Bool := false
  reasonCode : Text := []
  sourceRevision : Text := []
  ids : List Text := []
  entryDigests : List Bytes := []
  total : Option Int := none
  deriving DecidableEq, Repr

def Sig.ofPage (host : Host) (page : BrowsePage) : Sig :=
  { resolved := true
    available := page.available
    reasonCode := page.reasonCode
    sourceRevision := page.sourceRevision
    ids := page.entries.map Entry.id
    entryDigests := page.entries.map (digestOf host page)
    total := page.total }

/-- The page that was sent last. -/
structure LastRead where
  generation : Int
  tuple : Option ConversationTuple
  stamp : ProbeStamp
  probePath : Text
  walPath : Text
  sig : Sig
  deriving DecidableEq, Repr

/-! ## §3 — the poll -/

/-- `slice.get(k..)`. -/
def sliceFrom {α : Type} (xs : List α) (k : Nat) : Option (List α) :=
  if k ≤ xs.length then some (xs.drop k) else none

def appendDelta (prev sig : Sig) (entries : List Entry) : Option (List Entry) :=
  match prev.ids.getLast? with
  | none => none
  | some anchor =>
    match sig.ids.findIdx? (· = anchor) with
    | none => none
    | some pos =>
      let overlap := sig.ids.take (pos + 1)
      let start := prev.ids.length - overlap.length
      if prev.ids.length < overlap.length ∨ overlap ≠ prev.ids.drop start then none
      else if sig.entryDigests ≠ [] ∧
          sliceFrom prev.entryDigests start ≠ some (sig.entryDigests.take (pos + 1)) then none
      else if (entries.drop (pos + 1)).isEmpty then none
      else some (entries.drop (pos + 1))

/-- `decide`: the entries to send and whether they replace the client's. -/
def decideFrame (last : Option LastRead) (generation : Int) (sig : Sig) (entries : List Entry) :
    Option (List Entry × Bool) :=
  match last with
  | none => some (entries, true)
  | some prev =>
    if prev.generation ≠ generation ∨ !prev.sig.resolved then some (entries, true)
    else if sig = prev.sig then none
    else if sig.sourceRevision ≠ prev.sig.sourceRevision ∨ sig.available ≠ prev.sig.available ∨
        sig.reasonCode ≠ prev.sig.reasonCode then some (entries, true)
    else match appendDelta prev.sig sig entries with
      | some appended => some (appended, false)
      | none => some (entries, true)

/-- **What a poll meets**: the pane in the topology before and after the read, the file system at
the probe and at the read, and the client's queue. -/
structure Turn where
  /-- The pane's generation and row; `none` when it has left the snapshot. -/
  pane : Option (Int × AgentInfo)
  /-- The generation of a pane that has left. -/
  goneGeneration : Int := 0
  stat : Text → SourceStamp
  src : Sources
  /-- The blocking task of the read was lost. -/
  readLost : Bool := false
  /-- The pane when the read is done. -/
  paneAfter : Option (Int × AgentInfo)
  /-- `try_send` takes the frame. -/
  accepts : Bool

section Poll

variable (host : Host) (describe : ReadError → Text) (paneId : Text)

/-- The page the client holds is still current: nothing to read. -/
def settled (prev : LastRead) (generation : Int) (tuple : ConversationTuple)
    (stat : Text → SourceStamp) : Bool :=
  prev.sig.resolved && prev.generation = generation && prev.tuple = some tuple &&
    !prev.probePath.isEmpty && ProbeStamp.of stat prev.probePath prev.walPath = prev.stamp

/-- The page a poll reads, if it reads one and the pane is still what it was. -/
def pageRead (last : Option LastRead) (turn : Turn) : Option BrowsePage :=
  match turn.pane with
  | none => none
  | some (generation, info) =>
    if (last.any fun prev =>
        settled prev generation (conversationTuple host info) turn.stat) || turn.readLost then none
    else if turn.paneAfter.any fun after =>
        after.1 = generation && conversationTuple host after.2 = conversationTuple host info then
      some (readPageSync host turn.src describe (browseRequest info))
    else none

/-- The stamp kept with a page: that of before the read, if its source was probed. -/
def stampFor (last : Option LastRead) (turn : Turn) (sameProbe : Bool) : ProbeStamp :=
  if sameProbe then
    ((last.filter fun prev => !prev.probePath.isEmpty).map fun prev =>
      ProbeStamp.of turn.stat prev.probePath prev.walPath).getD .missing
  else .missing

/-- The path of the write-ahead log of a page's source. -/
def walPathOf (sqlite : Bool) (page : BrowsePage) : Text :=
  if sqlite then page.probePath ++ "-wal".toList else []

/-- What is sent of a page. -/
def publish (last : Option LastRead) (turn : Turn) (generation : Int) (info : AgentInfo)
    (page : BrowsePage) : Option LastRead × Option Frame :=
  if page.state = .failed then (last, none)
  else
    let sqlite : Bool := page.mode = .native && !page.probePath.isEmpty
    let sameProbe : Bool := last.any fun prev =>
      prev.probePath = page.probePath && (!prev.walPath.isEmpty) = sqlite
    let stamp := stampFor last turn sameProbe
    match decideFrame last generation (Sig.ofPage host page) page.entries with
    | none =>
      (last.map fun prev =>
        { prev with
          stamp := stamp
          probePath := page.probePath
          walPath := if sameProbe then prev.walPath else walPathOf sqlite page }, none)
    | some (messages, reset) =>
      if turn.accepts then
        (some
          { generation := generation
            tuple := some (conversationTuple host info)
            stamp := stamp
            probePath := page.probePath
            walPath := ((last.filter fun prev => sqlite && sameProbe && !prev.walPath.isEmpty).map
              fun prev => prev.walPath).getD (walPathOf sqlite page)
            sig := Sig.ofPage host page },
          some ⟨generation.toNat, messages, reset, frameTarget info generation⟩)
      else (last, none)

/-- The pane is gone. -/
def emitTombstone (last : Option LastRead) (turn : Turn) : Option LastRead × Option Frame :=
  if last.any fun prev => prev.sig = {} then (last, none)
  else if turn.accepts then
    (some
      { generation := turn.goneGeneration
        tuple := none
        stamp := .missing
        probePath := []
        walPath := []
        sig := {} },
      some ⟨turn.goneGeneration.toNat, [], true,
        { serverSessionId := "primary".toList
          paneId := paneId
          generation := turn.goneGeneration }⟩)
  else (last, none)

/-- One turn of the feed. -/
def poll (last : Option LastRead) (turn : Turn) : Option LastRead × Option Frame :=
  match turn.pane with
  | none => emitTombstone paneId last turn
  | some (generation, info) =>
    match pageRead host describe last turn with
    | none => (last, none)
    | some page => publish host last turn generation info page

end Poll

/-! ## §4 — the feed and its client -/

/-- What a client makes of a frame. -/
def foldFrame (client : List Entry) (frame : Frame) : List Entry :=
  if frame.reset then frame.messages else client ++ frame.messages

/-- A feed with its client, and the page that the last frame was made of. -/
structure Feed where
  last : Option LastRead
  shown : BrowsePage
  client : List Entry

section Feeds

variable (host : Host) (describe : ReadError → Text) (paneId : Text)

/-- One poll; what the queue takes reaches the client. -/
def Feed.step (s : Feed) (turn : Turn) : Feed :=
  let result := poll host describe paneId s.last turn
  { last := result.1
    shown := if result.2.isSome then (pageRead host describe s.last turn).getD s.shown else s.shown
    client := (result.2.map (foldFrame s.client)).getD s.client }

end Feeds

def Entry.content (entry : Entry) : Text × Text × List ToolActivity × Bool :=
  (entry.id, entry.text, entry.tools.map fun tool => { tool with associationId := [] },
    entry.truncated)

/-- **A list ends with some entries**, as far as the client shows them. -/
def Ends (client entries : List Entry) : Prop :=
  ∃ before kept, client = before ++ kept ∧ kept.map Entry.content = entries.map Entry.content

/-- **Entries that are not hashed do not change in place**, and digests tell the others apart. -/
structure ContentKept (host : Host) (before after : BrowsePage) : Prop where
  text : ∀ e ∈ before.entries, ∀ e' ∈ after.entries, e.id = e'.id → hashed before e = false →
    hashed after e' = false → e.text = e'.text ∧ e.truncated = e'.truncated
  before_digest : ∀ e ∈ before.entries, entryDigest host e ≠ noDigest
  after_digest : ∀ e ∈ after.entries, entryDigest host e ≠ noDigest
  digest : ∀ e ∈ before.entries, ∀ e' ∈ after.entries, entryDigest host e = entryDigest host e' →
    Json.print serdeEscape e.toJson = Json.print serdeEscape e'.toJson

/-! ## §5 — the JSON of an entry says what it shows -/

section Shows

theorem lookup_always (key key' : String) (value : Json) :
    (always key value).lookup key'.toList = if key' = key then some value else none := by
  rw [always, List.lookup_cons, List.lookup_nil]
  by_cases h : key' = key
  · subst h
    simp
  · have hne : key'.toList ≠ key.toList := fun heq => h (String.toList_inj.mp heq)
    rw [beq_eq_false_iff_ne.mpr hne, if_neg h]

theorem lookup_unlessEmpty (key key' : String) (text : Text) :
    (unlessEmpty key text).lookup key'.toList =
      if key' = key ∧ text ≠ [] then some (.str text) else none := by
  rw [unlessEmpty]
  cases text with
  | nil => simp
  | cons c text =>
    have halways := lookup_always key key' (.str (c :: text))
    rw [always] at halways
    simp [halways]

theorem lookup_unlessFalse (key key' : String) (flag : Bool) :
    (unlessFalse key flag).lookup key'.toList =
      if key' = key ∧ flag = true then some (.bool true) else none := by
  rw [unlessFalse]
  cases flag with
  | false => simp
  | true =>
    have halways := lookup_always key key' (.bool true)
    rw [always] at halways
    simp [halways]

theorem list_of_lookup {α : Type} {xs ys : List α} {f : List α → Json}
    (h : (if xs ≠ [] then some (f xs) else none) = if ys ≠ [] then some (f ys) else none) :
    xs = ys ∨ f xs = f ys := by
  by_cases hxs : xs = [] <;> by_cases hys : ys = [] <;> simp_all

theorem text_of_lookup {text text' : Text}
    (h : (if text ≠ [] then some (Json.str text) else none) =
      if text' ≠ [] then some (Json.str text') else none) : text = text' :=
  (list_of_lookup h).elim id Json.str.inj

theorem flag_of_lookup {flag flag' : Bool}
    (h : (if flag = true then some (Json.bool true) else none) =
      if flag' = true then some (Json.bool true) else none) : flag = flag' := by
  cases flag <;> cases flag' <;> first | rfl | cases h

/-- **A tool is known from its JSON**, but for the id that is not sent. -/
theorem ToolActivity.toJson_inj {tool tool' : ToolActivity} (h : tool.toJson = tool'.toJson) :
    ({ tool with associationId := [] } : ToolActivity) = { tool' with associationId := [] } := by
  rw [ToolActivity.toJson, ToolActivity.toJson, Json.obj.injEq] at h
  have hkey := fun key : String => congrArg (List.lookup key.toList) h
  simp only [List.lookup_append, lookup_always, lookup_unlessEmpty, lookup_unlessFalse] at hkey
  have hid := hkey "id"
  have hname := hkey "name"
  have hinput := hkey "input"
  have houtput := hkey "output"
  have herror := hkey "error"
  have htruncated := hkey "truncated"
  simp only [String.reduceEq, true_and, false_and, if_true, if_false, Option.or_none,
    Option.none_or] at hid hname hinput houtput herror htruncated
  rw [Option.some.injEq, Json.str.injEq] at hname
  rw [text_of_lookup hid, hname, text_of_lookup hinput, text_of_lookup houtput,
    flag_of_lookup herror, flag_of_lookup htruncated]

/-- Lists that are alike by `f` are alike by `g`, if their members are. -/
theorem map_eq_map_of {α β γ : Type} {f f' : α → β} {g : α → γ} {xs ys : List α}
    (h : xs.map f = ys.map f') (hg : ∀ x ∈ xs, ∀ y ∈ ys, f x = f' y → g x = g y) :
    xs.map g = ys.map g := by
  induction xs generalizing ys with
  | nil => rw [List.map_eq_nil_iff.mp h.symm]
  | cons x xs ih =>
    cases ys with
    | nil => cases h
    | cons y ys =>
      rw [List.map_cons, List.map_cons, List.cons.injEq] at h ⊢
      rw [List.forall_mem_cons] at hg
      refine ⟨hg.1 y List.mem_cons_self h.1, ih h.2 fun x hx y hy => ?_⟩
      exact hg.2 x hx y (List.mem_cons_of_mem _ hy)

/-- **What an entry shows is known from its JSON.** -/
theorem Entry.content_of_json {e e' : Entry} (h : e.toJson = e'.toJson) :
    e.content = e'.content := by
  rw [Entry.toJson, Entry.toJson, Json.obj.injEq] at h
  have hkey := fun key : String => congrArg (List.lookup key.toList) h
  have htools : ∀ (entry : Entry) (key : String), (if entry.tools.isEmpty = true then []
      else always "tools" (.arr (entry.tools.map ToolActivity.toJson))).lookup key.toList =
        if key = "tools" ∧ entry.tools ≠ [] then
          some (.arr (entry.tools.map ToolActivity.toJson)) else none := by
    intro entry key
    cases htools : entry.tools with
    | nil => simp
    | cons tool tools => simp [lookup_always]
  simp only [List.lookup_append, lookup_always, lookup_unlessEmpty, lookup_unlessFalse,
    htools] at hkey
  have hid := hkey "id"
  have htext := hkey "text"
  have hlist := hkey "tools"
  have htruncated := hkey "truncated"
  simp only [String.reduceEq, true_and, false_and, if_true, if_false, Option.or_none,
    Option.none_or] at hid htext hlist htruncated
  rw [Option.some.injEq, Json.str.injEq] at hid
  have hshown : (e.tools.map fun tool => ({ tool with associationId := [] } : ToolActivity)) =
      e'.tools.map fun tool => { tool with associationId := [] } := by
    rcases list_of_lookup (f := fun tools => .arr (tools.map ToolActivity.toJson)) hlist with
      hsame | hsame
    · rw [hsame]
    · exact map_eq_map_of (Json.arr.inj hsame) fun _ _ _ _ => ToolActivity.toJson_inj
  rw [Entry.content, Entry.content, hid, text_of_lookup htext, hshown, flag_of_lookup htruncated]

end Shows

/-! ## §6 — agreement -/

section Agreement

variable {host : Host} {describe : ReadError → Text} {paneId : Text} {before after : BrowsePage}

theorem json_of_print {v v' : Json} (h : Json.print serdeEscape v = Json.print serdeEscape v') :
    v = v' := by
  have hparse := Json.parse_print escapes_serdeEscape v
  rw [h, Json.parse_print escapes_serdeEscape v'] at hparse
  exact (Option.some.inj hparse).symm

/-- **One entry**: what the feed remembers of it says what it shows. -/
theorem ContentKept.entry (h : ContentKept host before after) {e e' : Entry}
    (he : e ∈ before.entries) (he' : e' ∈ after.entries) (hid : e.id = e'.id)
    (hdigest : digestOf host before e = digestOf host after e') : e.content = e'.content := by
  rw [digestOf, digestOf] at hdigest
  split at hdigest
  · split at hdigest
    · exact Entry.content_of_json (json_of_print (h.digest e he e' he' hdigest))
    · exact absurd hdigest (h.before_digest e he)
  · next hplain =>
    split at hdigest
    · exact absurd hdigest.symm (h.after_digest e' he')
    · next hplain' =>
      rw [Bool.not_eq_true] at hplain hplain'
      obtain ⟨htext, htruncated⟩ := h.text e he e' he' hid hplain hplain'
      -- an entry that is not hashed has no tools
      have hnone : ∀ {page : BrowsePage} {entry : Entry}, hashed page entry = false →
          entry.tools = [] := by
        intro page entry hentry
        rw [hashed, Bool.or_eq_false_iff, Bool.not_eq_false'] at hentry
        exact List.isEmpty_iff.mp hentry.2
      rw [Entry.content, Entry.content, hid, htext, htruncated, hnone hplain, hnone hplain']

/-- **A run of entries**: ids and digests say what they show. -/
theorem ContentKept.entries (h : ContentKept host before after) {xs ys : List Entry}
    (hxs : xs ⊆ before.entries) (hys : ys ⊆ after.entries)
    (hids : xs.map Entry.id = ys.map Entry.id)
    (hdigests : xs.map (digestOf host before) = ys.map (digestOf host after)) :
    xs.map Entry.content = ys.map Entry.content := by
  have hpairs : (xs.map fun e => (e.id, digestOf host before e)) =
      ys.map fun e => (e.id, digestOf host after e) := by
    rw [← List.zip_map', ← List.zip_map', hids, hdigests]
  refine map_eq_map_of hpairs fun x hx y hy hxy => ?_
  exact h.entry (hxs hx) (hys hy) (Prod.mk.inj hxy).1 (Prod.mk.inj hxy).2

/-- What an append says: the new page begins with the end of the old one, and the rest is sent. -/
theorem appendDelta_eq_some {prev sig : Sig} {entries appended : List Entry}
    (h : appendDelta prev sig entries = some appended) :
    ∃ pos, pos < sig.ids.length ∧ sig.ids[pos]? = prev.ids.getLast? ∧
      appended = entries.drop (pos + 1) ∧
      sig.ids.take (pos + 1) = prev.ids.drop (prev.ids.length - (pos + 1)) ∧
      (sig.entryDigests ≠ [] → prev.entryDigests.drop (prev.ids.length - (pos + 1)) =
        sig.entryDigests.take (pos + 1)) := by
  rw [appendDelta] at h
  split at h
  · cases h
  · next anchor hanchor =>
    split at h
    · cases h
    · next pos hpos =>
      obtain ⟨hlt, hat, -⟩ := List.findIdx?_eq_some_iff_getElem.mp hpos
      have hfound : sig.ids[pos]? = prev.ids.getLast? := by
        rw [List.getElem?_eq_getElem hlt, of_decide_eq_true hat, hanchor]
      have hlength : (sig.ids.take (pos + 1)).length = pos + 1 := by
        rw [List.length_take]
        omega
      simp only [hlength] at h
      split at h
      · cases h
      · next hoverlap =>
        rw [not_or, not_not] at hoverlap
        split at h
        · cases h
        · next hdigests =>
          split at h
          · cases h
          · refine ⟨pos, hlt, hfound, (Option.some.inj h).symm, hoverlap.2, ?_⟩
            intro hne
            rw [not_and, not_not] at hdigests
            have hslice := hdigests hne
            rw [sliceFrom] at hslice
            split at hslice
            · exact Option.some.inj hslice
            · cases hslice

/-- **What is decided**: the whole page is sent; or the last frame was of this generation, and its
page is this one, or goes before what is appended. -/
theorem decideFrame_cases (last : Option LastRead) (generation : Int) (sig : Sig)
    (entries : List Entry) :
    decideFrame last generation sig entries = some (entries, true) ∨
      ∃ prev, last = some prev ∧ prev.generation = generation ∧ prev.sig.resolved = true ∧
        (decideFrame last generation sig entries = none ∧ sig = prev.sig ∨
          ∃ appended, decideFrame last generation sig entries = some (appended, false) ∧
            appendDelta prev.sig sig entries = some appended) := by
  unfold decideFrame
  cases last with
  | none => exact .inl rfl
  | some prev =>
    simp only
    split
    · exact .inl rfl
    · next hsame =>
      rw [not_or, not_not, Bool.not_eq_true', Bool.not_eq_false] at hsame
      split
      · next hsig => exact .inr ⟨prev, rfl, hsame.1, hsame.2, .inl ⟨rfl, hsig⟩⟩
      · split
        · exact .inl rfl
        · cases hdelta : appendDelta prev.sig sig entries with
          | none => exact .inl rfl
          | some appended => exact .inr ⟨prev, rfl, hsame.1, hsame.2, .inr ⟨appended, rfl, hdelta⟩⟩

/-- What is sent is the page, or what comes behind the overlap with the one before. -/
theorem decideFrame_eq_some {last : Option LastRead} {generation : Int} {sig : Sig}
    {entries messages : List Entry} {reset : Bool}
    (h : decideFrame last generation sig entries = some (messages, reset)) :
    (reset = true ∧ messages = entries) ∨
      reset = false ∧ ∃ prev, last = some prev ∧
        appendDelta prev.sig sig entries = some messages := by
  rcases decideFrame_cases last generation sig entries with
    hwhole | ⟨prev, hprev, -, -, ⟨hnone, -⟩ | ⟨appended, hsome, hdelta⟩⟩
  · cases hwhole.symm.trans h
    exact .inl ⟨rfl, rfl⟩
  · cases hnone.symm.trans h
  · cases hsome.symm.trans h
    exact .inr ⟨rfl, prev, hprev, hdelta⟩

/-- **What a poll does with a page**: it sends nothing and keeps what it remembers of the page sent
last, or it sends a frame and remembers this page. -/
theorem publish_cases {host : Host} (last : Option LastRead) (turn : Turn) (generation : Int)
    (info : AgentInfo) (page : BrowsePage) :
    ((publish host last turn generation info page).2 = none ∧
      (∀ next, (publish host last turn generation info page).1 = some next →
        ∃ prev, last = some prev ∧ next.generation = prev.generation ∧ next.sig = prev.sig) ∧
      (page.state = .failed ∨ turn.accepts = false ∨
        decideFrame last generation (Sig.ofPage host page) page.entries = none)) ∨
    ∃ messages reset next,
      decideFrame last generation (Sig.ofPage host page) page.entries = some (messages, reset) ∧
      publish host last turn generation info page =
        (some next, some ⟨generation.toNat, messages, reset, frameTarget info generation⟩) ∧
      next.generation = generation ∧ next.sig = Sig.ofPage host page := by
  unfold publish
  split
  · next hfailed => exact .inl ⟨rfl, fun next hnext => ⟨next, hnext, rfl, rfl⟩, .inl hfailed⟩
  · simp only
    cases hdecide : decideFrame last generation (Sig.ofPage host page) page.entries with
    | none =>
      refine .inl ⟨rfl, ?_, .inr (.inr rfl)⟩
      intro next hnext
      obtain ⟨prev, hprev, rfl⟩ := Option.map_eq_some_iff.mp hnext
      exact ⟨prev, hprev, rfl, rfl⟩
    | some decided =>
      obtain ⟨messages, reset⟩ := decided
      simp only
      split
      · exact .inr ⟨messages, reset, _, rfl, rfl, rfl, rfl⟩
      · next hrefused =>
        exact .inl ⟨rfl, fun next hnext => ⟨next, hnext, rfl, rfl⟩,
          .inr (.inl (Bool.eq_false_iff.mpr hrefused))⟩

/-- The feed and the client agree on what was sent last. -/
def Feed.Agrees (host : Host) (s : Feed) : Prop :=
  ∀ prev, s.last = some prev → prev.sig.resolved = true →
    prev.sig = Sig.ofPage host s.shown ∧ Ends s.client s.shown.entries

theorem Ends.refl (entries : List Entry) : Ends entries entries := ⟨[], entries, rfl, rfl⟩

/-- **What is decided is right for the client.** Either nothing is sent and the client has the page,
or what is sent makes its list end with the page. -/
theorem decideFrame_ends {s : Feed} (hagrees : s.Agrees host) {generation : Int} {page : BrowsePage}
    (hkept : ∀ prev, s.last = some prev → prev.sig.resolved = true →
      prev.generation = generation → ContentKept host s.shown page) :
    (decideFrame s.last generation (Sig.ofPage host page) page.entries = none →
      Ends s.client page.entries) ∧
    ∀ messages reset, decideFrame s.last generation (Sig.ofPage host page) page.entries =
        some (messages, reset) →
      Ends (if reset then messages else s.client ++ messages) page.entries := by
  rcases decideFrame_cases s.last generation (Sig.ofPage host page) page.entries with
    hwhole | ⟨prev, hlast, hgeneration, hresolved, hdecided⟩
  · rw [hwhole]
    refine ⟨fun hnone => (by cases hnone), ?_⟩
    rintro messages reset ⟨⟩
    exact Ends.refl _
  · obtain ⟨hsig, client, kept, hclient, hshown⟩ := hagrees prev hlast hresolved
    have hcontent := hkept prev hlast hresolved hgeneration
    rcases hdecided with ⟨hnone, heq⟩ | ⟨appended, hsome, hdelta⟩
    · -- the same signature is the same page
      rw [hnone]
      rw [hsig] at heq
      refine ⟨fun _ => ?_, fun messages reset hsome => (by cases hsome)⟩
      exact ⟨client, kept, hclient, hshown.trans (hcontent.entries (List.Subset.refl _)
        (List.Subset.refl _) (congrArg Sig.ids heq).symm (congrArg Sig.entryDigests heq).symm)⟩
    · rw [hsome]
      refine ⟨fun hnone => (by cases hnone), ?_⟩
      rintro messages reset ⟨⟩
      obtain ⟨pos, hpos, -, rfl, hids, hdigests⟩ := appendDelta_eq_some hdelta
      rw [hsig] at hids hdigests
      have hlength : (Sig.ofPage host s.shown).ids.length = s.shown.entries.length :=
        List.length_map _
      rw [hlength] at hids hdigests
      -- the overlap of the two pages shows the same
      have hoverlap : (s.shown.entries.drop (s.shown.entries.length - (pos + 1))).map
          Entry.content = (page.entries.take (pos + 1)).map Entry.content := by
        refine hcontent.entries (List.drop_subset _ _) (List.take_subset _ _) ?_ ?_
        · rw [List.map_drop, List.map_take]
          exact hids.symm
        · rw [List.map_drop, List.map_take]
          refine hdigests ?_
          intro hnil
          have hnone := List.map_eq_nil_iff.mp hnil
          rw [Sig.ofPage, List.length_map, hnone] at hpos
          cases hpos
      refine ⟨client ++ kept.take (s.shown.entries.length - (pos + 1)),
        kept.drop (s.shown.entries.length - (pos + 1)) ++ page.entries.drop (pos + 1), ?_, ?_⟩
      · rw [hclient, if_neg (by decide), List.append_assoc, List.append_assoc,
          ← List.append_assoc (kept.take _), List.take_append_drop]
      · rw [List.map_append, List.map_drop, hshown, ← List.map_drop, hoverlap,
          ← List.map_append, List.take_append_drop]

theorem entries_of_failed {src : Sources} {request : BrowseRequest}
    (h : (readPageSync host src describe request).state = .failed) :
    (readPageSync host src describe request).entries = [] := by
  have hwire : ∀ page isNative, (wirePage host src page isNative).state = .ready := by
    intro page isNative
    rw [wirePage]
    split
    · exact (enforcePageBudget_spec _).2.1.state
    · rfl
  rw [readPageSync] at h ⊢
  split
  · rfl
  · next hsession =>
    rw [if_neg hsession] at h
    simp only at h ⊢
    split
    · rfl
    · next hprovider =>
      rw [if_neg hprovider] at h
      split
      · rfl
      · next page hpage =>
        simp only [hpage] at h
        rw [hwire] at h
        cases h

/-- **The condition on a poll**: if the last frame was of this pane's generation, what that frame's
page shows of entries that are not hashed is what the page now shows. -/
def Steady (host : Host) (describe : ReadError → Text) (s : Feed) (turn : Turn) : Prop :=
  ∀ generation info page prev, turn.pane = some (generation, info) →
    pageRead host describe s.last turn = some page → s.last = some prev →
    prev.sig.resolved = true → prev.generation = generation → ContentKept host s.shown page

/-- **One poll** keeps the agreement, and brings the client to the page it read. -/
theorem Feed.Agrees.step {s : Feed} (h : s.Agrees host) {turn : Turn}
    (hsteady : Steady host describe s turn) :
    (s.step host describe paneId turn).Agrees host ∧
      ∀ page, pageRead host describe s.last turn = some page → turn.accepts = true →
        Ends (s.step host describe paneId turn).client page.entries := by
  -- a poll that sends nothing and keeps the signature leaves the agreement as it is
  have hquiet : ∀ last, poll host describe paneId s.last turn = (last, none) →
      (∀ prev, last = some prev → ∃ old, s.last = some old ∧ old.sig = prev.sig) →
      (s.step host describe paneId turn).Agrees host ∧
        (s.step host describe paneId turn).client = s.client := by
    intro last hpoll hold
    refine ⟨?_, by simp only [Feed.step, hpoll, Option.map_none, Option.getD_none]⟩
    simp only [Feed.step, hpoll, Option.isSome_none, Bool.false_eq_true, if_false, Option.map_none,
      Option.getD_none]
    intro prev hprev hresolved
    obtain ⟨old, hlast, hsig⟩ := hold prev hprev
    rw [← hsig] at hresolved ⊢
    exact h old hlast hresolved
  have hsame : ∀ prev, s.last = some prev → ∃ old, s.last = some old ∧ old.sig = prev.sig :=
    fun prev hprev => ⟨prev, hprev, rfl⟩
  cases hpane : turn.pane with
  | none =>
    have hnone : pageRead host describe s.last turn = none := by rw [pageRead, hpane]
    refine ⟨?_, fun page hpage => by rw [hnone] at hpage; cases hpage⟩
    have hpoll : poll host describe paneId s.last turn = emitTombstone paneId s.last turn := by
      rw [poll, hpane]
    rw [emitTombstone] at hpoll
    split at hpoll
    · exact (hquiet _ hpoll hsame).1
    · split at hpoll
      · intro prev hprev hresolved
        simp only [Feed.step, hpoll, Option.some.injEq] at hprev
        rw [← hprev] at hresolved
        cases hresolved
      · exact (hquiet _ hpoll hsame).1
  | some pane =>
    obtain ⟨generation, info⟩ := pane
    cases hread : pageRead host describe s.last turn with
    | none =>
      have hpoll : poll host describe paneId s.last turn = (s.last, none) := by
        rw [poll, hpane]
        simp only [hread]
      refine ⟨(hquiet _ hpoll hsame).1, fun page hpage => by cases hpage⟩
    | some page =>
      have hpoll : poll host describe paneId s.last turn =
          publish host s.last turn generation info page := by
        rw [poll, hpane]
        simp only [hread]
      obtain ⟨hkeeps, hsends⟩ := decideFrame_ends h (fun prev hprev hresolved hgeneration =>
        hsteady generation info page prev hpane hread hprev hresolved hgeneration)
      rcases publish_cases s.last turn generation info page with
        ⟨hnone, hlast, hwhy⟩ | ⟨messages, reset, next, hdecide, hpublish, -, hsig⟩
      · obtain ⟨hagrees, hclient⟩ := hquiet _ (hpoll.trans (Prod.ext rfl hnone)) (by
          intro prev hprev
          obtain ⟨old, hold, -, hsig⟩ := hlast prev hprev
          exact ⟨old, hold, hsig.symm⟩)
        refine ⟨hagrees, ?_⟩
        rintro page' ⟨⟩ haccepts
        rw [hclient]
        rcases hwhy with hfailed | hrefused | hdecide
        · have hempty : page.entries = [] := by
            rw [pageRead, hpane] at hread
            simp only at hread
            split at hread
            · cases hread
            · split at hread
              · obtain rfl := Option.some.inj hread
                exact entries_of_failed hfailed
              · cases hread
          rw [hempty]
          exact ⟨_, [], (List.append_nil _).symm, rfl⟩
        · rw [hrefused] at haccepts
          cases haccepts
        · exact hkeeps hdecide
      · have hends := hsends messages reset hdecide
        rw [hpublish] at hpoll
        have hstep : s.step host describe paneId turn =
            ⟨some next, page, if reset then messages else s.client ++ messages⟩ := by
          simp only [Feed.step, hpoll, hread, Option.map_some, Option.getD_some,
            Option.isSome_some, if_true, foldFrame]
        rw [hstep]
        constructor
        · rintro prev ⟨⟩ _
          exact ⟨hsig, hends⟩
        · rintro page' ⟨⟩ _
          exact hends

/-- A poll that meets the condition. -/
def Feed.Polls (host : Host) (describe : ReadError → Text) (paneId : Text) (s : Feed) (turn : Turn)
    (s' : Feed) : Prop :=
  Steady host describe s turn ∧ s' = s.step host describe paneId turn

/-- **The states of a feed** whose polls all meet the condition. The client may begin with any
list. -/
def Fed (host : Host) (describe : ReadError → Text) (paneId : Text) (s : Feed) : Prop :=
  ∃ client turns, Runs (Feed.Polls host describe paneId) ⟨none, {}, client⟩ turns s

theorem Fed.agrees {s : Feed} (h : Fed host describe paneId s) : s.Agrees host := by
  obtain ⟨client, turns, hruns⟩ := h
  refine hruns.invariant ?_ ?_
  · rintro s turn s' hs ⟨hsteady, rfl⟩
    exact (hs.step hsteady).1
  · intro prev hprev
    cases hprev

/-- **The feed agrees with its client.** After every poll that read a page of a pane that did not
change meanwhile, and whose frame, if any, was taken, the client's list ends with the page; and
nothing is sent only when it ends so already. -/
theorem feed_agrees (host : Host) (describe : ReadError → Text) (paneId : Text) (s : Feed)
    (h : Fed host describe paneId s) (turn : Turn) (hsteady : Steady host describe s turn)
    (page : BrowsePage) (hread : pageRead host describe s.last turn = some page)
    (haccepts : turn.accepts = true) :
    Ends (s.step host describe paneId turn).client page.entries ∧
      ∀ generation info, turn.pane = some (generation, info) →
        decideFrame s.last generation (Sig.ofPage host page) page.entries = none →
        Ends s.client page.entries := by
  refine ⟨(h.agrees.step hsteady).2 page hread haccepts, ?_⟩
  intro generation info hpane hnone
  exact (decideFrame_ends h.agrees fun prev hprev hresolved hgeneration =>
    hsteady generation info page prev hpane hread hprev hresolved hgeneration).1 hnone

end Agreement

/-! ## §7 — a step that changes in place -/

def sampleStep (id text : String) : Json :=
  .obj [("step_id".toList, .str id.toList), ("source".toList, .str "agent".toList),
    ("message".toList, .str text.toList)]

def sampleDocument (steps : List Json) : Bytes :=
  Utf8.bytes (Json.print serdeEscape (.obj [("steps".toList, .arr steps)]))

def samplePane : AgentInfo :=
  ⟨['p'], [], [], [], some "devin".toList, none, none, some ⟨[], ['s']⟩⟩

/-- A poll of that pane, when the document holds some steps; `mtime` is when it was written. -/
def sampleTurn (mtime : Int) (steps : List Json) : Turn where
  pane := some (1, samplePane)
  stat _ := ⟨true, 0, 2, 0, mtime⟩
  src := sampleSources (sampleDocument steps)
  paneAfter := some (1, samplePane)
  accepts := true

def sampleFeed : Feed :=
  Feed.step sampleHost (fun _ => []) ['p'] ⟨none, {}, []⟩ (sampleTurn 1 [sampleStep "1" "a"])

theorem pageRead_sample (steps : List Json) :
    pageRead sampleHost (fun _ => []) sampleFeed.last (sampleTurn 2 steps) =
      some (readPageSync sampleHost (sampleSources (sampleDocument steps)) (fun _ => [])
        (browseRequest samplePane)) := by
  have hsettled : ((sampleFeed.last.any fun prev => settled prev 1
      (conversationTuple sampleHost samplePane) fun _ => ⟨true, 0, 2, 0, 2⟩) || false) = false := by
    decide +kernel
  have hafter : ((some ((1 : Int), samplePane)).any fun after => after.1 = 1 &&
      conversationTuple sampleHost after.2 = conversationTuple sampleHost samplePane) = true := by
    decide +kernel
  rw [pageRead, sampleTurn]
  simp only
  rw [if_neg (by rw [hsettled]; decide), if_pos hafter]

/-- A second step is sent behind the first. -/
theorem feed_agrees_sample :
    Ends (sampleFeed.step sampleHost (fun _ => []) ['p']
        (sampleTurn 2 [sampleStep "1" "a", sampleStep "2" "b"])).client
      (readPageSync sampleHost (sampleSources (sampleDocument
        [sampleStep "1" "a", sampleStep "2" "b"])) (fun _ => [])
        (browseRequest samplePane)).entries := by
  have hstart : Steady sampleHost (fun _ => []) ⟨none, {}, []⟩
      (sampleTurn 1 [sampleStep "1" "a"]) := by
    intro generation info page prev _ _ hprev
    cases hprev
  have hfed : Fed sampleHost (fun _ => []) ['p'] sampleFeed := by
    rw [sampleFeed]
    exact ⟨[], _, .cons ⟨hstart, rfl⟩ (.nil _)⟩
  refine (feed_agrees sampleHost (fun _ => []) ['p'] sampleFeed hfed
    (sampleTurn 2 [sampleStep "1" "a", sampleStep "2" "b"]) ?_ _ (pageRead_sample _) rfl).1
  intro generation info page prev _ hread _ _ _
  rw [pageRead_sample] at hread
  obtain rfl := Option.some.inj hread
  constructor
  · decide +kernel
  · decide +kernel
  · decide +kernel
  · decide +kernel

/-- The client keeps what it had. -/
theorem client_after_change : (sampleFeed.step sampleHost (fun _ => []) ['p']
    (sampleTurn 2 [sampleStep "1" "b"])).client.map Entry.text = [['a']] := by
  decide +kernel

theorem page_after_change :
    (readPageSync sampleHost (sampleSources (sampleDocument [sampleStep "1" "b"])) (fun _ => [])
      (browseRequest samplePane)).entries.map Entry.text = [['b']] := by
  decide +kernel

/-- **A step that changes is not sent.** The first step of the document says `a`, and later `b`. The
second poll reads the new page and sends nothing; the client still has the old text. -/
theorem changed_step_not_sent :
    ∃ page, pageRead sampleHost (fun _ => []) sampleFeed.last
          (sampleTurn 2 [sampleStep "1" "b"]) = some page ∧
      (sampleTurn 2 [sampleStep "1" "b"]).accepts = true ∧
      decideFrame sampleFeed.last 1 (Sig.ofPage sampleHost page) page.entries = none ∧
      ¬ Ends (sampleFeed.step sampleHost (fun _ => []) ['p']
        (sampleTurn 2 [sampleStep "1" "b"])).client page.entries := by
  refine ⟨_, pageRead_sample _, rfl, by decide +kernel, ?_⟩
  rintro ⟨before, kept, hclient, hkept⟩
  have hshown : ∀ entries : List Entry,
      (entries.map Entry.content).map (fun content => content.2.1) = entries.map Entry.text :=
    fun entries => List.map_map
  have htexts := congrArg (List.map fun content => content.2.1) hkept
  have hlist := client_after_change
  rw [hshown, hshown, page_after_change] at htexts
  rw [hclient, List.map_append, htexts] at hlist
  have hmem : ['b'] ∈ ([['a']] : List Text) := by
    rw [← hlist]
    exact List.mem_append_right _ List.mem_cons_self
  exact absurd (List.mem_singleton.mp hmem) (by decide)

end Lerdr.Conversation
