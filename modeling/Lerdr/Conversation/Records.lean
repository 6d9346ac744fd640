/-
# Lerdr.Conversation.Records — JSONL records to entries
(`lerdr-coord/src/conversation/records.rs`).

`parse_transcript` reads lines one after another. A line becomes at most one entry; what it holds of
tool outputs is attached to entries before it. So which lines become entries is a matter of each
line alone (`entryOf`), and only the id depends on the lines before: it counts those with the same
digest (`parseLine_ids`).
-/
import Lerdr.Conversation.Text
import Lerdr.Lib.Lines

namespace Lerdr.Conversation

open Lerdr.Rust

/-! ## §1 — entries and tools -/

/-- A tool call, as it is shown. -/
structure ToolActivity where
  id : Text
  name : Text
  /-- What a later result names, before `id` is cut for the wire. -/
  associationId : Text
  input : Text
  output : Text
  error : Bool
  truncated : Bool
  deriving DecidableEq, Repr

/-- A message, as it is shown. -/
structure Entry where
  id : Text
  timestamp : Text
  role : Text
  text : Text
  tools : List ToolActivity
  truncated : Bool
  deriving DecidableEq, Repr

/-- What a call came to. -/
structure ToolResult where
  id : Text
  output : Text
  failed : Bool
  deriving DecidableEq, Repr

/-- The place of a call. -/
structure ToolLocation where
  entry : Nat
  tool : Nat
  deriving DecidableEq, Repr

def maxEntryBytes : Nat := 128 * 1024

def maxToolCount : Nat := 128

def maxToolIdBytes : Nat := 256

def maxToolNameBytes : Nat := 160

def maxToolInputBytes : Nat := 1024 * 1024

def maxToolOutputBytes : Nat := 1024 * 1024

def toolAssociationId (tool : ToolActivity) : Text :=
  if tool.associationId.isEmpty then trim tool.id else tool.associationId

/-- `normalize_tool_activity`: the tool within its bounds, and whether anything was changed. -/
def normalizeToolActivity (tool : ToolActivity) : ToolActivity × Bool :=
  let name := (clampText (trim tool.name) maxToolNameBytes).1
  let bounded : ToolActivity :=
    { id := (clampText (trim (toolAssociationId tool)) maxToolIdBytes).1
      name := if name.isEmpty then "Tool".toList else name
      associationId := toolAssociationId tool
      input := (clampText tool.input maxToolInputBytes).1
      output := (clampText tool.output maxToolOutputBytes).1
      error := tool.error
      truncated := tool.truncated }
  let changed : Bool := bounded.id ≠ tool.id || bounded.name ≠ tool.name ||
    bounded.input ≠ tool.input || bounded.output ≠ tool.output
  ({ bounded with truncated := changed || tool.truncated }, changed)

def newToolActivity (id name : Text) (input : Option Value) : ToolActivity :=
  let clamped := clampText (sanitizeText (textValue (input.getD .null))) (maxEntryBytes / 2)
  (normalizeToolActivity
    { id := trim id
      name := if (trim name).isEmpty then "Tool".toList else trim name
      associationId := trim id
      input := clamped.1
      output := []
      error := false
      truncated := clamped.2 }).1

/-- `normalize_entry_tools`: the entry, the tools left out, and the tools cut. -/
def normalizeEntryTools (entry : Entry) : Entry × Int × Int :=
  let omitted := entry.tools.length - maxToolCount
  let kept := entry.tools.take maxToolCount
  let bounded := kept.map normalizeToolActivity
  let cut := bounded.countP fun tool => tool.2 || tool.1.truncated
  ({ entry with
      tools := bounded.map Prod.fst
      truncated := entry.truncated || decide (0 < omitted) || decide (0 < cut) },
    omitted, cut)

def normalizeEntriesForResponse (entries : List Entry) : List Entry × Int × Int :=
  (entries.map fun entry => (normalizeEntryTools entry).1,
    (entries.map fun entry => (normalizeEntryTools entry).2.1).sum,
    (entries.map fun entry => (normalizeEntryTools entry).2.2).sum)

/-! ## §2 — the grammars -/

/-- The record grammar of an agent. -/
inductive Grammar where
  | claude
  | codex
  | pi
  | unknown
  deriving DecidableEq, Repr

/-- The grammar of a normalized agent name. -/
def grammarOf (agent : Text) : Grammar :=
  if ["claude".toList, "claudecode".toList, "qoder".toList, "qodercli".toList].any (· = agent) then
    .claude
  else if ["codex".toList, "openaicodex".toList].any (· = agent) then .codex
  else if ["pi".toList, "picodingagent".toList, "omp".toList, "ohmypi".toList, "omo".toList,
      "ohmyopencode".toList].any (· = agent) then .pi
  else .unknown

section Grammars

variable (host : Host)

def toolOfBlock (value : Value) : Option (ToolActivity ⊕ ToolResult) :=
  match value.asObject with
  | none => none
  | some block =>
    let kind := normalizedBlockType host (Record.getOr block "type")
    if kind = "tooluse".toList ∨ kind = "toolcall".toList then
      some (.inl (newToolActivity (firstString block ["id", "toolCallId", "tool_call_id"])
        (firstString block ["name", "toolName", "tool_name"])
        (firstValue block ["input", "arguments"])))
    else if kind = "toolresult".toList then
      some (.inr
        { id := trim (firstString block ["tool_use_id", "toolCallId", "tool_call_id", "id"])
          output := textValue (Record.getOr block "content")
          failed := Record.isTrue block "is_error" || Record.isTrue block "isError" })
    else none

def toolsFromBlocks (blocks : List Value) : List ToolActivity × List ToolResult :=
  let tools := blocks.filterMap (toolOfBlock host)
  (tools.filterMap Sum.getLeft?, tools.filterMap Sum.getRight?)

def messageBlocks (message : Record) : List Value :=
  ((Record.get message "content").bind Value.asArray).getD []

/-- `parse_tool_activity`: the calls and the results one record carries. -/
def parseToolActivity (grammar : Grammar) (record : Record) :
    List ToolActivity × List ToolResult :=
  match grammar with
  | .claude =>
    if Record.isTrue record "isSidechain" then ([], [])
    else
      toolsFromBlocks host
        (messageBlocks (((Record.get record "message").bind Value.asObject).getD []))
  | .codex =>
    if Record.text record "type" ≠ "response_item".toList then ([], [])
    else match (Record.get record "payload").bind Value.asObject with
      | none => ([], [])
      | some payload =>
        let kind := normalizedBlockType host (Record.getOr payload "type")
        if kind = "functioncall".toList ∨ kind = "customtoolcall".toList ∨
            kind = "localshellcall".toList then
          ([newToolActivity (firstString payload ["call_id", "id"])
            (firstString payload ["name", "tool_name"])
            (firstValue payload ["arguments", "input"])], [])
        else if kind = "functioncalloutput".toList ∨ kind = "customtoolcalloutput".toList ∨
            kind = "localshellcalloutput".toList then
          ([], [{
            id := trim (firstString payload ["call_id", "id"])
            output := textValue ((firstValue payload ["output", "content"]).getD .null)
            failed := Record.isTrue payload "is_error" }])
        else ([], [])
  | .pi =>
    if Record.text record "type" ≠ "message".toList then ([], [])
    else match (Record.get record "message").bind Value.asObject with
      | none => ([], [])
      | some message =>
        if normalizedBlockType host (Record.getOr message "role") = "toolresult".toList then
          ([], [{
            id := trim (firstString message ["toolCallId", "tool_call_id", "id"])
            output := textValue (Record.getOr message "content")
            failed := Record.isTrue message "isError" || Record.isTrue message "is_error" }])
        else toolsFromBlocks host (messageBlocks message)
  | .unknown => ([], [])

def humanClaudeText (raw : Text) : Text :=
  let trimmed := trim raw
  if ["<system-reminder>", "<local-command-caveat>", "<task-notification>",
      "<local-command-stdout>"].any fun envelope => envelope.toList.isPrefixOf trimmed then []
  else if "<command-name>".toList.isPrefixOf trimmed then
    trim (innerTag trimmed "command-name" ++ ' ' :: innerTag trimmed "command-args")
  else raw

/-- `parse_claude_record`: role and body. -/
def parseClaudeRecord (record : Record) : Text × Text :=
  let role := Record.text record "type"
  if (role ≠ "user".toList ∧ role ≠ "assistant".toList) ∨ Record.isTrue record "isSidechain" then
    ([], [])
  else match (Record.get record "message").bind Value.asObject with
    | none => ([], [])
    | some message =>
      match Record.getOr message "content" with
      | .string raw => if role ≠ "user".toList then (role, raw) else (role, humanClaudeText raw)
      | content =>
        if role = "user".toList then
          let kept := ((textBlockList content).map humanClaudeText).filter
            fun block => !(trim block).isEmpty
          if kept.isEmpty then ([], []) else (role, join ['\n'] kept)
        else (role, textBlocks content)

/-- Role and body of a Codex record. -/
def parseCodexRecord (record : Record) : Text × Text :=
  if Record.text record "type" ≠ "response_item".toList then ([], [])
  else match (Record.get record "payload").bind Value.asObject with
    | none => ([], [])
    | some payload =>
      if Record.text payload "type" ≠ "message".toList then ([], [])
      else
        let role := Record.text payload "role"
        if role ≠ "user".toList ∧ role ≠ "assistant".toList then ([], [])
        else
          let text := textBlocks (Record.getOr payload "content")
          if role = "user".toList ∧ "<environment_context>".toList.isPrefixOf (trimStart text) then
            ([], [])
          else (role, text)

/-- Role and body of a Pi record. -/
def parsePiRecord (record : Record) : Text × Text :=
  if Record.text record "type" ≠ "message".toList then ([], [])
  else match (Record.get record "message").bind Value.asObject with
    | none => ([], [])
    | some message =>
      let role := Record.text message "role"
      if role ≠ "user".toList ∧ role ≠ "assistant".toList then ([], [])
      else (role, textBlocks (Record.getOr message "content"))

/-- `visible_record`: role, timestamp and body. -/
def visibleRecord (grammar : Grammar) (record : Record) : Text × Text × Text :=
  let shown := match grammar with
    | .claude => parseClaudeRecord record
    | .codex => parseCodexRecord record
    | .pi => parsePiRecord record
    | .unknown => ([], [])
  (shown.1, Record.text record "timestamp", shown.2)

/-! ## §3 — the transcript -/

def isAsciiWhitespace (b : UInt8) : Bool :=
  b = 0x20 || b = 0x09 || b = 0x0a || b = 0x0c || b = 0x0d

/-- The object that a line holds. -/
def recordOf (line : Bytes) : Option Record :=
  if line.all isAsciiWhitespace then none else (host.fromSlice line).bind Value.asObject

/-- The entry a record becomes, still without its id. -/
def entryOf (grammar : Grammar) (record : Record) : Option Entry :=
  let calls := (parseToolActivity host grammar record).1
  let visible := visibleRecord grammar record
  let body := sanitizeText visible.2.2
  let role := if visible.1.isEmpty ∧ !calls.isEmpty then "assistant".toList else visible.1
  if role.isEmpty ∨ (body.isEmpty ∧ calls.isEmpty) then none
  else
    some (normalizeEntryTools
      { id := []
        timestamp := visible.2.1
        role := role
        text := (clampText body maxEntryBytes).1
        tools := calls
        truncated := (clampText body maxEntryBytes).2 }).1

/-- What the loop over the lines keeps. -/
structure Parse where
  entries : List Entry
  seenIds : Text → Nat
  pendingTools : Text → Option ToolLocation

def Parse.start : Parse := ⟨[], fun _ => 0, fun _ => none⟩

/-- The tool a location names, if there is one, with a result in it. -/
def attach (result : ToolResult) (tool : ToolActivity) : ToolActivity :=
  let clamped := clampText (sanitizeText result.output) maxEntryBytes
  { tool with
    output := clamped.1
    error := result.failed
    truncated := tool.truncated || clamped.2 }

/-- One tool result: it goes to the pending call it names. -/
def applyResult (agent : Text) (p : Parse) (result : ToolResult) : Parse :=
  let key := toolAssociationKey host agent result.id
  match p.pendingTools key with
  | none => p
  | some location =>
    if (p.entries[location.entry]?.any fun entry => location.tool < entry.tools.length) then
      { p with
        entries := p.entries.modify location.entry fun entry =>
          { entry with tools := entry.tools.modify location.tool (attach result) }
        pendingTools := Function.update p.pendingTools key none }
    else p

/-- The pending calls of a new entry, from its tool number `i` on. -/
def enroll (agent : Text) (index : Nat) :
    Nat → List ToolActivity → (Text → Option ToolLocation) → Text → Option ToolLocation
  | _, [], pending => pending
  | i, tool :: tools, pending =>
    let id := toolAssociationId tool
    enroll agent index (i + 1) tools
      (if id.isEmpty then pending
      else Function.update pending (toolAssociationKey host agent id) (some ⟨index, i⟩))

/-- A new entry, with the id of its line. -/
def pushEntry (agent : Text) (line : Bytes) (entry : Entry) (p : Parse) : Parse :=
  let id := stableRowId host line p.seenIds
  { entries := p.entries ++ [{ entry with id := id.1 }]
    seenIds := id.2
    pendingTools := enroll host agent p.entries.length 0 entry.tools p.pendingTools }

/-- One round of the loop. -/
def parseLine (agent : Text) (p : Parse) (line : Bytes) : Parse :=
  match recordOf host line with
  | none => p
  | some record =>
    let attached :=
      (parseToolActivity host (grammarOf agent) record).2.foldl (applyResult host agent) p
    match entryOf host (grammarOf agent) record with
    | none => attached
    | some entry => pushEntry host agent line entry attached

def newline : UInt8 := 0x0a

/-- The entries of a transcript. -/
def parseTranscript (agent : Text) (text : Bytes) : List Entry :=
  ((text.splitOn newline).foldl (parseLine host (normalizedAgent host agent)) Parse.start).entries

end Grammars

/-! ## §4 — the ids of the lines -/

section Ids

variable {host : Host} {agent : Text}

/-- The line becomes an entry. -/
def yields (host : Host) (agent : Text) (line : Bytes) : Bool :=
  ((recordOf host line).bind (entryOf host (grammarOf agent))).isSome

/-- How many lines become entries with a digest. -/
def occurrences (host : Host) (agent base : Text) (lines : List Bytes) : Nat :=
  lines.countP fun line => yields host agent line && rowBase host line = base

/-- **The id of a line** among others: its digest, and how many entries before it have it too. -/
def lineId (host : Host) (agent : Text) (lines : List Bytes) (i : Nat) : Option Text :=
  lines[i]?.bind fun line =>
    if yields host agent line then
      some (rowId (rowBase host line) (occurrences host agent (rowBase host line) (lines.take i)))
    else none

theorem applyResult_ids (host : Host) (agent : Text) (p : Parse) (result : ToolResult) :
    (applyResult host agent p result).entries.map Entry.id = p.entries.map Entry.id ∧
      (applyResult host agent p result).seenIds = p.seenIds := by
  rw [applyResult]
  split
  · exact ⟨rfl, rfl⟩
  · split
    · refine ⟨?_, rfl⟩
      apply List.ext_getElem?
      intro i
      simp only [List.getElem?_map, List.getElem?_modify]
      cases p.entries[i]? with
      | none => rfl
      | some entry =>
        simp only [Option.map_some]
        split <;> rfl
    · exact ⟨rfl, rfl⟩

theorem foldl_applyResult_ids (host : Host) (agent : Text) (results : List ToolResult) (p : Parse) :
    (results.foldl (applyResult host agent) p).entries.map Entry.id = p.entries.map Entry.id ∧
      (results.foldl (applyResult host agent) p).seenIds = p.seenIds := by
  induction results generalizing p with
  | nil => exact ⟨rfl, rfl⟩
  | cons result results ih =>
    obtain ⟨hids, hseen⟩ := applyResult_ids host agent p result
    obtain ⟨hids', hseen'⟩ := ih (applyResult host agent p result)
    exact ⟨hids'.trans hids, hseen'.trans hseen⟩

/-- **What a line does to the ids**: an entry's line adds its own and is counted; another line
changes nothing. -/
theorem parseLine_ids (host : Host) (agent : Text) (p : Parse) (line : Bytes) :
    ((parseLine host agent p line).entries.map Entry.id =
      p.entries.map Entry.id ++
        if yields host agent line then [rowId (rowBase host line) (p.seenIds (rowBase host line))]
        else []) ∧
    ∀ base, (parseLine host agent p line).seenIds base =
      p.seenIds base + if yields host agent line && rowBase host line = base then 1 else 0 := by
  cases hrecord : recordOf host line with
  | none =>
    have hyields : yields host agent line = false := by rw [yields, hrecord]; rfl
    simp [parseLine, hrecord, hyields]
  | some record =>
    obtain ⟨hids, hseen⟩ := foldl_applyResult_ids host agent
      (parseToolActivity host (grammarOf agent) record).2 p
    cases hentry : entryOf host (grammarOf agent) record with
    | none =>
      have hyields : yields host agent line = false := by
        rw [yields, hrecord, Option.bind_some, hentry]; rfl
      simp [parseLine, hrecord, hentry, hyields, hids, hseen]
    | some entry =>
      have hyields : yields host agent line = true := by
        rw [yields, hrecord, Option.bind_some, hentry]; rfl
      simp only [parseLine, hrecord, hentry, hyields, pushEntry, stableRowId, List.map_append,
        List.map_cons, List.map_nil, hids, hseen, if_true, Bool.true_and, true_and]
      intro base
      by_cases hbase : rowBase host line = base
      · subst hbase
        simp
      · rw [Function.update_of_ne (Ne.symm hbase)]
        simp [hbase]

/-- The lines so far are counted, and their ids are those of `lineId`. -/
structure Counted (host : Host) (agent : Text) (lines : List Bytes) (p : Parse) : Prop where
  seen : ∀ base, p.seenIds base = occurrences host agent base lines
  ids : p.entries.map Entry.id = (List.range lines.length).filterMap (lineId host agent lines)

theorem lineId_append {lines more : List Bytes} {i : Nat} (hi : i < lines.length) :
    lineId host agent (lines ++ more) i = lineId host agent lines i := by
  rw [lineId, lineId, List.getElem?_append_left hi, List.take_append_of_le_length (by omega)]

theorem Counted.line {lines : List Bytes} {p : Parse} (h : Counted host agent lines p)
    (line : Bytes) : Counted host agent (lines ++ [line]) (parseLine host agent p line) := by
  obtain ⟨hids, hseen⟩ := parseLine_ids host agent p line
  constructor
  · intro base
    rw [hseen, h.seen, occurrences, occurrences, List.countP_append, List.countP_singleton]
  · have hlast : lineId host agent (lines ++ [line]) lines.length =
        if yields host agent line then
          some (rowId (rowBase host line) (p.seenIds (rowBase host line))) else none := by
      rw [lineId, List.getElem?_append_right (Nat.le_refl _), Nat.sub_self, h.seen,
        List.take_left]
      rfl
    have hbefore : (List.range lines.length).filterMap (lineId host agent (lines ++ [line])) =
        (List.range lines.length).filterMap (lineId host agent lines) := by
      apply List.filterMap_congr
      intro i hi
      exact lineId_append (List.mem_range.mp hi)
    rw [hids, h.ids, List.length_append, List.length_singleton, List.range_succ,
      List.filterMap_append, hbefore]
    congr 1
    rw [List.filterMap_cons, hlast]
    cases yields host agent line <;> simp

/-- **The ids of a parsed list of lines.** -/
theorem counted_parse (lines : List Bytes) :
    Counted host agent lines (lines.foldl (parseLine host agent) Parse.start) := by
  induction lines using List.reverseRecOn with
  | nil => exact ⟨fun _ => rfl, rfl⟩
  | append_singleton lines line ih =>
    rw [List.foldl_append, List.foldl_cons, List.foldl_nil]
    exact ih.line line

theorem ids_parseTranscript (host : Host) (agent : Text) (text : Bytes) :
    (parseTranscript host agent text).map Entry.id =
      (List.range (text.splitOn newline).length).filterMap
        (lineId host (normalizedAgent host agent) (text.splitOn newline)) :=
  (counted_parse (text.splitOn newline)).ids

theorem lineId_injective {lines : List Bytes} {i j : Nat} {id : Text}
    (hi : lineId host agent lines i = some id) (hj : lineId host agent lines j = some id) :
    i = j := by
  obtain ⟨line, hline, hid⟩ := Option.bind_eq_some_iff.mp hi
  obtain ⟨line', hline', hid'⟩ := Option.bind_eq_some_iff.mp hj
  split at hid
  · next hyields =>
    split at hid'
    · next hyields' =>
      have heq := (Option.some.inj hid).trans (Option.some.inj hid').symm
      obtain ⟨hbase, hcount⟩ :
          rowBase host line = rowBase host line' ∧
            occurrences host agent (rowBase host line) (lines.take i) =
              occurrences host agent (rowBase host line') (lines.take j) :=
        rowId_inj (hex_no_dash _) (hex_no_dash _) heq
      -- of two lines with one digest the later has counted the earlier
      have hless : ∀ {a b : Nat} {l : Bytes}, a < b → lines[a]? = some l →
          yields host agent l = true → ∀ base, rowBase host l = base →
          occurrences host agent base (lines.take a) <
            occurrences host agent base (lines.take b) := by
        intro a b l hab hl hl' base hb
        have hsplit : lines.take (a + 1) = lines.take a ++ [l] := by
          rw [List.take_add_one, hl]
          rfl
        have hsub : (lines.take (a + 1)).Sublist (lines.take b) :=
          (List.take_prefix_take_left (by omega)).sublist
        have hle := hsub.countP_le
          (p := fun line => yields host agent line && rowBase host line = base)
        rw [hsplit, List.countP_append, List.countP_singleton, hl', hb] at hle
        simp only [decide_true, Bool.and_self, if_true] at hle
        exact hle
      rcases Nat.lt_trichotomy i j with hlt | heq | hgt
      · have := hless hlt hline hyields _ rfl
        rw [← hbase] at hcount
        omega
      · exact heq
      · have := hless hgt hline' hyields' _ rfl
        rw [hbase] at hcount
        omega
    · cases hid'
  · cases hid

/-- **The entry ids of one read are distinct**, whatever collides. -/
theorem nodup_ids (host : Host) (agent : Text) (text : Bytes) :
    ((parseTranscript host agent text).map Entry.id).Nodup := by
  rw [ids_parseTranscript]
  refine List.Nodup.filterMap ?_ List.nodup_range
  intro i j id hi hj
  exact lineId_injective hi hj

end Ids

end Lerdr.Conversation
