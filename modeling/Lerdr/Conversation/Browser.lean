/-
# Lerdr.Conversation.Browser — the page on the wire (`lerdr-coord/src/conversation/browser.rs`).

A reader's page becomes a `BrowsePage`: its cursor is the id of its oldest entry, taken before
anything is cut, and the page is then trimmed until its JSON fits into two megabytes: the newest
entry loses its tools, then its text, then itself. `enforcePageBudget_spec` says what that leaves:
the oldest entries as they were, and in the end a page that fits or has no entries.
-/
import Lerdr.Conversation.Reader

namespace Lerdr.Conversation

open Lib Lerdr.Rust

/-! ## §1 — the wire page -/

/-- `BrowseState`, of the pages this port makes. -/
inductive BrowseState where
  | ready
  | failed
  deriving DecidableEq, Repr

/-- `BrowseMode`, likewise. -/
inductive BrowseMode where
  | recent
  | native
  deriving DecidableEq, Repr

/-- `BrowseDiagnostics`, without the fields this port never sets. -/
structure BrowseDiagnostics where
  corruptRecords : Int := 0
  omittedTools : Int := 0
  omittedPayloads : Int := 0
  sourceTruncated : Bool := false
  continuationIncomplete : Bool := false
  continuationReason : Text := []
  deriving DecidableEq, Repr

structure BrowseError where
  code : Text
  message : Text
  retryable : Bool
  deriving DecidableEq, Repr

structure BrowsePage where
  available : Bool := false
  reasonCode : Text := []
  reason : Text := []
  entries : List Entry := []
  nextCursor : Text := []
  hasMore : Bool := false
  state : BrowseState := .ready
  mode : BrowseMode := .recent
  sourceRevision : Text := []
  total : Option Int := none
  diagnostics : BrowseDiagnostics := {}
  error : Option BrowseError := none
  omoPlan : Option OmoTodoState := none
  probePath : Text := []

/-! ## §2 — its JSON -/

def always (key : String) (value : Json) : List (Text × Json) := [(key.toList, value)]

/-- A text member, left out when empty. -/
def unlessEmpty (key : String) (text : Text) : List (Text × Json) :=
  if text.isEmpty then [] else [(key.toList, .str text)]

def unlessFalse (key : String) (flag : Bool) : List (Text × Json) :=
  if flag then [(key.toList, .bool true)] else []

/-- A number, left out when zero. -/
def unlessZero (key : String) (n : Int) : List (Text × Json) :=
  if n = 0 then [] else [(key.toList, .num n)]

def ToolActivity.toJson (tool : ToolActivity) : Json :=
  .obj (unlessEmpty "id" tool.id ++ always "name" (.str tool.name) ++
    unlessEmpty "input" tool.input ++ unlessEmpty "output" tool.output ++
    unlessFalse "error" tool.error ++ unlessFalse "truncated" tool.truncated)

def Entry.toJson (entry : Entry) : Json :=
  .obj (always "id" (.str entry.id) ++ unlessEmpty "timestamp" entry.timestamp ++
    always "role" (.str entry.role) ++ unlessEmpty "text" entry.text ++
    (if entry.tools.isEmpty then []
      else always "tools" (.arr (entry.tools.map ToolActivity.toJson))) ++
    unlessFalse "truncated" entry.truncated)

def OmoTodoState.toJson (plan : OmoTodoState) : Json :=
  .obj (always "available" (.bool plan.available) ++ unlessEmpty "reason_code" plan.reasonCode ++
    unlessEmpty "session_id" plan.sessionId ++ unlessZero "version" plan.version ++
    unlessEmpty "updated_at" plan.updatedAt ++
    always "phases" (.arr (plan.phases.map fun phase =>
      .obj (always "name" (.str phase.name) ++ always "tasks" (.arr (phase.tasks.map fun task =>
        .obj (unlessEmpty "id" task.id ++ always "content" (.str task.content) ++
          always "status" (.str task.status))))))) ++
    always "truncated" (.bool plan.truncated))

def BrowseDiagnostics.toJson (d : BrowseDiagnostics) : Json :=
  .obj (always "oversized_records" (.num 0) ++ always "corrupt_records" (.num d.corruptRecords) ++
    unlessZero "omitted_tools" d.omittedTools ++ unlessZero "omitted_payloads" d.omittedPayloads ++
    unlessFalse "source_truncated" d.sourceTruncated ++
    unlessFalse "continuation_incomplete" d.continuationIncomplete ++
    unlessEmpty "continuation_reason" d.continuationReason)

/-- A page as serde writes it. -/
def BrowsePage.toJson (page : BrowsePage) : Json :=
  .obj (always "available" (.bool page.available) ++ unlessEmpty "reason_code" page.reasonCode ++
    unlessEmpty "reason" page.reason ++
    always "entries" (.arr (page.entries.map Entry.toJson)) ++
    unlessEmpty "next_cursor" page.nextCursor ++ always "has_more" (.bool page.hasMore) ++
    always "state" (.str (match page.state with
      | .ready => "ready".toList
      | .failed => "failed".toList)) ++
    always "mode" (.str (match page.mode with
      | .recent => "recent".toList
      | .native => "native".toList)) ++
    unlessEmpty "source_revision" page.sourceRevision ++
    always "total" (match page.total with
      | some total => .num total
      | none => .null) ++
    always "diagnostics" page.diagnostics.toJson ++
    (match page.error with
      | some e => always "error" (.obj (always "code" (.str e.code) ++
          always "message" (.str e.message) ++ always "retryable" (.bool e.retryable)))
      | none => []) ++
    (match page.omoPlan with
      | some plan => always "omo_plan" plan.toJson
      | none => []))

/-- The length of `serde_json::to_vec`. -/
def jsonSize (value : Json) : Nat := len (Json.print serdeEscape value)

def pageSize (page : BrowsePage) : Nat := jsonSize page.toJson

/-! ## §3 — the budget -/

def responseBytes : Nat := 2 * 1024 * 1024

/-- The names and contents of a plan, cut. -/
def clampPlan (plan : OmoTodoState) : OmoTodoState :=
  { plan with
    phases := plan.phases.map fun phase =>
      { name := (clampText phase.name 512).1
        tasks := phase.tasks.map fun task =>
          { task with content := (clampText task.content 1024).1 } }
    truncated := plan.truncated ||
      plan.phases.any fun phase => phase.tasks.any fun task => (clampText task.content 1024).2 }

/-- One round of the loop of `bound_todo_plan`: the last task goes, or the last phase. -/
def dropLastTask (phases : List OmoTodoPhase) : List OmoTodoPhase :=
  match phases.getLast? with
  | none => []
  | some last =>
    if last.tasks.isEmpty then phases.dropLast
    else phases.dropLast ++ [{ last with tasks := last.tasks.dropLast }]

/-- The loop of `bound_todo_plan`, for so many rounds. -/
def shrinkPlan (budget : Nat) : Nat → OmoTodoState → OmoTodoState
  | 0, plan => plan
  | n + 1, plan =>
    if jsonSize plan.toJson ≤ budget ∨ plan.phases.isEmpty then plan
    else shrinkPlan budget n { plan with phases := dropLastTask plan.phases, truncated := true }

/-- `bound_todo_plan`; each round takes a task or a phase. -/
def boundTodoPlan (plan : OmoTodoState) (budget : Nat) : OmoTodoState :=
  let clamped := clampPlan plan
  shrinkPlan budget (clamped.phases.length + (clamped.phases.map (·.tasks.length)).sum + 1) clamped

/-- One round of `enforce_page_budget`: what the newest entry loses. -/
def trimNewest (page : BrowsePage) : BrowsePage :=
  match page.entries.getLast? with
  | none => page
  | some entry =>
    if !entry.tools.isEmpty then
      { page with
        entries := page.entries.dropLast ++
          [{ entry with tools := entry.tools.dropLast, truncated := true }]
        diagnostics :=
          { page.diagnostics with omittedTools := page.diagnostics.omittedTools + 1 } }
    else if !entry.text.isEmpty then
      { page with
        entries := page.entries.dropLast ++
          [{ entry with text := (clampText entry.text (len entry.text / 2)).1, truncated := true }]
        diagnostics :=
          { page.diagnostics with omittedPayloads := page.diagnostics.omittedPayloads + 1 } }
    else { page with entries := page.entries.dropLast }

/-- The loop of `enforce_page_budget`, for so many rounds. -/
def trimPage : Nat → BrowsePage → BrowsePage
  | 0, page => page
  | n + 1, page =>
    if pageSize page ≤ responseBytes ∨ page.entries.isEmpty then page
    else trimPage n (trimNewest page)

/-- What an entry can lose, and itself. -/
def weight (entry : Entry) : Nat := entry.tools.length + entry.text.length + 1

def enforcePageBudget (page : BrowsePage) : BrowsePage :=
  let trimmed := trimPage (page.entries.map weight).sum page
  if responseBytes < pageSize trimmed then
    { trimmed with
      diagnostics :=
        { trimmed.diagnostics with
          omittedPayloads := trimmed.diagnostics.omittedPayloads +
            if trimmed.omoPlan.isSome then 1 else 0 }
      omoPlan := none }
  else trimmed

/-! ## §4 — the request -/

def browseUnavailable (code reason : Text) : BrowsePage := { reasonCode := code, reason := reason }

/-- `browse_failure`, as the browser calls it. -/
def browseFailure (message : Text) : BrowsePage :=
  { available := true
    reasonCode := "source_unavailable".toList
    reason := "Conversation history is unavailable.".toList
    state := .failed
    error := some ⟨"source_unavailable".toList, message, true⟩ }

section Requests

variable (host : Host) (src : Sources)

def nativeSourceRevision (sourcePath : Text) : Text :=
  if sourcePath.isEmpty then []
  else
    let identity := ((src.fs.stat (Utf8.bytes sourcePath)).map fun found =>
      fileIdentity found.1).getD []
    hex (host.sha256 (Utf8.bytes (goJsonMarshal
      (.array [.string (cleanPath sourcePath), .string identity])))).toList

/-- The wire page of a reader's page, before the budget. -/
def rawPage (page : Page) (isNative : Bool) : BrowsePage :=
  let bounded := normalizeEntriesForResponse page.entries
  { available := true
    reasonCode := page.reasonCode
    reason := if page.fileTruncated ∧ page.reason.isEmpty then
        "Showing recent messages. Older history can be loaded from this computer.".toList
      else page.reason
    entries := bounded.1
    nextCursor := if page.hasMore then (bounded.1.head?.map (·.id)).getD page.cursorBefore else []
    hasMore := page.hasMore
    mode := if isNative then .native else .recent
    sourceRevision := nativeSourceRevision host src page.sourcePath
    total := if page.fileTruncated then none else some page.total
    diagnostics :=
      { corruptRecords := if page.sourceCorrupt then 1 else 0
        omittedTools := bounded.2.1
        omittedPayloads := bounded.2.2
        sourceTruncated := page.fileTruncated
        continuationIncomplete := page.continuationIncomplete
        continuationReason := page.continuationReason }
    omoPlan := page.omoPlan.map fun plan => boundTodoPlan plan (responseBytes / 4)
    probePath := if page.probePath.isEmpty then page.sourcePath else page.probePath }

theorem rawPage_hasMore (page : Page) (isNative : Bool) :
    (rawPage host src page isNative).hasMore = page.hasMore := rfl

theorem rawPage_nextCursor {page : Page} (isNative : Bool) (hmore : page.hasMore = true)
    {first : Entry} (hfirst : page.entries.head? = some first) :
    (rawPage host src page isNative).nextCursor = first.id := by
  show (if page.hasMore = true then
    (((page.entries.map fun entry => (normalizeEntryTools entry).1).head?.map (·.id)).getD
      page.cursorBefore) else []) = first.id
  rw [if_pos hmore, List.head?_map, hfirst]
  rfl

def wirePage (page : Page) (isNative : Bool) : BrowsePage :=
  if page.available then enforcePageBudget (rawPage host src page isNative)
  else
    { browseUnavailable page.reasonCode page.reason with
      omoPlan := page.omoPlan.map fun plan => boundTodoPlan plan (responseBytes / 4) }

/-- `BrowseScope`, as far as it affects reads. -/
structure BrowseScope where
  provider : Text
  cwd : Text
  foregroundCwd : Text
  sessionId : Text
  deriving DecidableEq, Repr

/-- `BrowseRequest`. `retry` only bypasses the location cache, which is left out. -/
structure BrowseRequest where
  scope : BrowseScope
  cursor : Option Text
  limit : Int
  deriving DecidableEq, Repr

def normalizeBrowseScope (scope : BrowseScope) : BrowseScope :=
  let provider := normalizedAgent host scope.provider
  let cwd := if providerOf host provider = some .claude then scope.cwd else trim scope.cwd
  let project := normalizeProjectContext host provider ⟨cwd, scope.foregroundCwd⟩
  ⟨provider, project.cwd, project.foregroundCwd, trim scope.sessionId⟩

def requestLimit (limit : Int) : Nat :=
  if limit < 1 then defaultPageSize else min limit.toNat maxPageSize

/-- `read_page_sync`; `describe` is what an error says. -/
def readPageSync (describe : ReadError → Text) (request : BrowseRequest) : BrowsePage :=
  let scope := normalizeBrowseScope host request.scope
  if scope.sessionId.isEmpty then
    browseUnavailable "invalid_session".toList
      "This agent has not reported a conversation session yet.".toList
  else
    let provider := normalizedAgent host scope.provider
    if providerOf host provider = none then
      browseUnavailable "invalid_provider".toList
        "Conversation history is not available for this agent.".toList
    else match readWithProject host src provider ⟨scope.cwd, scope.foregroundCwd⟩ scope.sessionId
        (request.cursor.getD []) (requestLimit request.limit) with
      | .error e => browseFailure (describe e)
      | .ok page => wirePage host src page (providerOf host provider = some .native)

end Requests

/-! ## §5 — what the budget leaves -/

section Budget

theorem length_trim_le (s : Text) : (trim s).length ≤ s.length := by
  rw [trim, List.rdropWhile, List.length_reverse]
  calc ((s.dropWhile isWhitespace).reverse.dropWhile isWhitespace).length
      ≤ (s.dropWhile isWhitespace).reverse.length := (List.dropWhile_sublist _).length_le
    _ ≤ s.length := by
      rw [List.length_reverse]
      exact (List.dropWhile_sublist _).length_le

theorem len_takeBytes_le (n : Nat) (s : Text) : len (takeBytes n s) ≤ n := by
  induction s generalizing n with
  | nil => exact Nat.zero_le n
  | cons c s ih =>
    rw [takeBytes]
    split
    · next hc =>
      have hrest := ih (n - c.utf8Size)
      rw [len] at hrest ⊢
      rw [List.map_cons, List.sum_cons]
      omega
    · exact Nat.zero_le n

theorem takeBytes_prefix (n : Nat) (s : Text) : takeBytes n s <+: s := by
  induction s generalizing n with
  | nil => exact List.nil_prefix
  | cons c s ih =>
    rw [takeBytes]
    split
    · exact List.cons_prefix_cons.mpr ⟨rfl, ih _⟩
    · exact List.nil_prefix

/-- **A text cut to half its bytes is shorter.** -/
theorem length_clampText_half {s : Text} (h : s ≠ []) :
    (clampText s (len s / 2)).1.length < s.length := by
  have hpos : 0 < len s := by
    cases s with
    | nil => exact absurd rfl h
    | cons c s =>
      have hc := Char.utf8Size_pos c
      rw [len, List.map_cons, List.sum_cons]
      omega
  rw [clampText, if_neg (by omega)]
  have hprefix := takeBytes_prefix (len s / 2) s
  have hlt : (takeBytes (len s / 2) s).length < s.length := by
    apply lt_of_le_of_ne hprefix.length_le
    intro heq
    have hsame := hprefix.eq_of_length heq
    have hle := len_takeBytes_le (len s / 2) s
    rw [hsame] at hle
    omega
  exact lt_of_le_of_lt (length_trim_le _) hlt

/-- What trimming leaves of a page: its ids from the oldest on, and all entries but the newest as
they were. -/
structure Trimmed (page trimmed : BrowsePage) : Prop where
  ids : trimmed.entries.map Entry.id <+: page.entries.map Entry.id
  entries : trimmed.entries.dropLast <+: page.entries
  nextCursor : trimmed.nextCursor = page.nextCursor
  hasMore : trimmed.hasMore = page.hasMore
  state : trimmed.state = page.state

theorem Trimmed.refl (page : BrowsePage) : Trimmed page page where
  ids := List.prefix_refl _
  entries := List.dropLast_prefix _
  nextCursor := rfl
  hasMore := rfl
  state := rfl

/-- **What a round takes**: the newest entry, or something of it. -/
theorem trimNewest_cases {page : BrowsePage} (h : page.entries ≠ []) :
    (trimNewest page).nextCursor = page.nextCursor ∧ (trimNewest page).hasMore = page.hasMore ∧
      (trimNewest page).state = page.state ∧ ((trimNewest page).entries = page.entries.dropLast ∨
        ∃ entry less, page.entries = page.entries.dropLast ++ [entry] ∧ less.id = entry.id ∧
          weight less < weight entry ∧
          (trimNewest page).entries = page.entries.dropLast ++ [less]) := by
  have hlast := List.getLast?_eq_some_getLast h
  have hsplit := (List.dropLast_append_getLast h).symm
  rw [trimNewest, hlast]
  simp only
  split
  · next htools =>
    refine ⟨rfl, rfl, rfl, .inr ⟨_, _, hsplit, ?_, ?_, rfl⟩⟩
    · rfl
    have hne : (page.entries.getLast h).tools ≠ [] := by
      intro hnil
      rw [hnil] at htools
      cases htools
    have hpos := List.length_pos_of_ne_nil hne
    simp only [weight, List.length_dropLast]
    omega
  · split
    · next htext =>
      refine ⟨rfl, rfl, rfl, .inr ⟨_, _, hsplit, ?_, ?_, rfl⟩⟩
      · rfl
      have hne : (page.entries.getLast h).text ≠ [] := by
        intro hnil
        rw [hnil] at htext
        cases htext
      have hlt := length_clampText_half hne
      simp only [weight]
      omega
    · exact ⟨rfl, rfl, rfl, .inl rfl⟩

theorem Trimmed.trimNewest {page trimmed : BrowsePage} (h : Trimmed page trimmed)
    (hne : trimmed.entries ≠ []) : Trimmed page (trimNewest trimmed) := by
  obtain ⟨hcursor, hmore, hstate, hentries⟩ := trimNewest_cases hne
  refine ⟨?_, ?_, hcursor.trans h.nextCursor, hmore.trans h.hasMore, hstate.trans h.state⟩
  · rcases hentries with hentries | ⟨entry, less, hsplit, hid, -, hentries⟩
    · rw [hentries]
      exact ((List.dropLast_prefix _).map _).trans h.ids
    · have hids := h.ids
      rw [hsplit] at hids
      rw [hentries]
      rw [List.map_append, List.map_singleton] at hids ⊢
      rwa [hid]
  · rcases hentries with hentries | ⟨entry, less, hsplit, hid, -, hentries⟩
    · rw [hentries]
      exact (List.dropLast_prefix _).trans h.entries
    · rw [hentries, List.dropLast_concat]
      exact h.entries

theorem trimPage_trimmed (n : Nat) {page trimmed : BrowsePage} (h : Trimmed page trimmed) :
    Trimmed page (trimPage n trimmed) := by
  induction n generalizing trimmed with
  | zero => exact h
  | succ n ih =>
    rw [trimPage]
    split
    · exact h
    · next hgo =>
      rw [not_or] at hgo
      exact ih (h.trimNewest (by simpa using hgo.2))

/-- The weight of a page's entries falls with every round. -/
theorem weight_trimNewest {page : BrowsePage} (h : page.entries ≠ []) :
    ((trimNewest page).entries.map weight).sum < (page.entries.map weight).sum := by
  obtain ⟨-, -, -, hentries⟩ := trimNewest_cases h
  rcases hentries with hentries | ⟨entry, less, hsplit, -, hweight, hentries⟩
  · have hsplit := (List.dropLast_append_getLast h).symm
    rw [hentries]
    conv_rhs => rw [hsplit]
    rw [List.map_append, List.sum_append, List.map_singleton, List.sum_singleton]
    have hpos : 0 < weight (page.entries.getLast h) := by rw [weight]; omega
    omega
  · rw [hentries]
    conv_rhs => rw [hsplit]
    rw [List.map_append, List.map_append, List.sum_append, List.sum_append, List.map_singleton,
      List.map_singleton, List.sum_singleton, List.sum_singleton]
    omega

/-- **The loop ends**: the page fits, or nothing is left of it. -/
theorem trimPage_done (n : Nat) {page : BrowsePage} (h : (page.entries.map weight).sum ≤ n) :
    pageSize (trimPage n page) ≤ responseBytes ∨ (trimPage n page).entries = [] := by
  induction n generalizing page with
  | zero =>
    right
    have hnil : page.entries = [] := by
      by_contra hne
      have := weight_trimNewest hne
      omega
    exact hnil
  | succ n ih =>
    rw [trimPage]
    split
    · next hstop => exact hstop.imp id (by simp)
    · next hgo =>
      rw [not_or] at hgo
      have hlt := weight_trimNewest (show page.entries ≠ [] by simpa using hgo.2)
      exact ih (by omega)

/-- **What the budget does**: nothing to a page that fits; otherwise the page is trimmed, and while
it has entries it fits. -/
theorem enforcePageBudget_spec (page : BrowsePage) :
    (pageSize page ≤ responseBytes → enforcePageBudget page = page) ∧
      Trimmed page (enforcePageBudget page) ∧
      (pageSize (enforcePageBudget page) ≤ responseBytes ∨
        (enforcePageBudget page).entries = []) := by
  have htrimmed := trimPage_trimmed (page.entries.map weight).sum (Trimmed.refl page)
  have hdone := trimPage_done _ (Nat.le_refl (page.entries.map weight).sum)
  refine ⟨?_, ?_, ?_⟩
  · intro hfits
    have hsame : trimPage (page.entries.map weight).sum page = page := by
      cases (page.entries.map weight).sum with
      | zero => rfl
      | succ n => rw [trimPage, if_pos (.inl hfits)]
    rw [enforcePageBudget]
    simp only [hsame]
    rw [if_neg (by omega)]
  · rw [enforcePageBudget]
    split
    · exact ⟨htrimmed.ids, htrimmed.entries, htrimmed.nextCursor, htrimmed.hasMore, htrimmed.state⟩
    · exact htrimmed
  · rw [enforcePageBudget]
    split
    · next hlarge => exact .inr (hdone.resolve_left (by omega))
    · next hfits => exact .inl (by omega)

/-- **The page loses no entry**: it fits, perhaps after its newest entry has lost tools or text, or
there is none to lose. -/
inductive Spared : BrowsePage → Prop where
  | fits {page : BrowsePage} (hfits : pageSize page ≤ responseBytes) : Spared page
  | empty {page : BrowsePage} (hempty : page.entries = []) : Spared page
  | less {page : BrowsePage} {entry : Entry} (hlast : page.entries.getLast? = some entry)
    (hless : entry.tools ≠ [] ∨ entry.text ≠ []) (hrest : Spared (trimNewest page)) : Spared page

/-- How many entries a round leaves: all of them while the newest has tools or text. -/
theorem length_trimNewest {page : BrowsePage} {entry : Entry}
    (h : page.entries.getLast? = some entry) :
    (trimNewest page).entries.length =
      if entry.tools ≠ [] ∨ entry.text ≠ [] then page.entries.length
      else page.entries.length - 1 := by
  have hpos : 0 < page.entries.length :=
    List.length_pos_of_ne_nil (by rintro hnil; simp [hnil] at h)
  rw [trimNewest, h]
  by_cases htools : entry.tools = [] <;> by_cases htext : entry.text = [] <;>
    simp [htools, htext] <;> omega

theorem length_trimPage_iff (n : Nat) {page : BrowsePage}
    (h : (page.entries.map weight).sum ≤ n) :
    (trimPage n page).entries.length = page.entries.length ↔ Spared page := by
  induction n generalizing page with
  | zero =>
    have hnil : page.entries = [] := by
      by_contra hne
      have := weight_trimNewest hne
      omega
    exact iff_of_true rfl (.empty hnil)
  | succ n ih =>
    rw [trimPage]
    split
    · next hstop =>
      exact iff_of_true rfl (hstop.elim .fits fun hnil => .empty (by simpa using hnil))
    · next hgo =>
      rw [not_or] at hgo
      have hne : page.entries ≠ [] := by simpa using hgo.2
      have hlast := List.getLast?_eq_some_getLast hne
      have hlength := length_trimNewest hlast
      have hweight := weight_trimNewest hne
      by_cases hless : (page.entries.getLast hne).tools ≠ [] ∨ (page.entries.getLast hne).text ≠ []
      · rw [if_pos hless] at hlength
        rw [← hlength, ih (by omega)]
        refine ⟨.less hlast hless, ?_⟩
        rintro (hfits | hempty | ⟨-, -, hrest⟩)
        · exact absurd hfits hgo.1
        · exact absurd hempty hne
        · exact hrest
      · -- the entry goes, and no round puts it back
        rw [if_neg hless] at hlength
        have hle := (trimPage_trimmed n (Trimmed.refl (trimNewest page))).ids.length_le
        have hpos := List.length_pos_of_ne_nil hne
        rw [List.length_map, List.length_map] at hle
        refine iff_of_false (by omega) ?_
        rintro (hfits | hempty | ⟨hlast', hless', -⟩)
        · exact hgo.1 hfits
        · exact hne hempty
        · obtain rfl := Option.some.inj (hlast.symm.trans hlast')
          exact hless hless'

/-- **No entry is lost** exactly where the page is spared. -/
theorem enforcePageBudget_whole_iff (page : BrowsePage) :
    (enforcePageBudget page).entries.map Entry.id = page.entries.map Entry.id ↔ Spared page := by
  have hentries : (enforcePageBudget page).entries
      = (trimPage (page.entries.map weight).sum page).entries := by
    rw [enforcePageBudget]
    split <;> rfl
  rw [← length_trimPage_iff _ (Nat.le_refl _), ← hentries]
  constructor
  · intro hids
    simpa using congrArg List.length hids
  · intro hlength
    exact (enforcePageBudget_spec page).2.1.ids.eq_of_length (by simpa using hlength)

theorem length_le_len (s : Text) : s.length ≤ len s := by
  rw [len, ← s.length_map Char.utf8Size]
  exact List.length_le_sum_of_one_le _ (by simp [Nat.succ_le_iff, Char.utf8Size_pos])

/-- **A timestamp is in the size of its page**, however long it is. -/
theorem timestamp_le_pageSize {page : BrowsePage} {entry : Entry} (h : entry ∈ page.entries) :
    entry.timestamp.length ≤ pageSize page := by
  by_cases hstamp : entry.timestamp = []
  · rw [hstamp]
    exact Nat.zero_le _
  have hmem : ("timestamp".toList, Json.str entry.timestamp) ∈
      unlessEmpty "timestamp" entry.timestamp := by
    rw [unlessEmpty, if_neg (by simpa using hstamp)]
    exact List.mem_cons_self
  have hentries : ("entries".toList, Json.arr (page.entries.map Entry.toJson)) ∈
      always "entries" (.arr (page.entries.map Entry.toJson)) := List.mem_cons_self
  calc entry.timestamp.length
      ≤ (Json.print serdeEscape (.str entry.timestamp)).length := by
        have := Json.length_le_literal escapes_serdeEscape entry.timestamp
        rw [Json.print]
        omega
    _ ≤ (Json.print serdeEscape entry.toJson).length := by
        rw [Entry.toJson]
        apply Json.length_print_obj
        simp only [List.mem_append]
        tauto
    _ ≤ (Json.print serdeEscape (.arr (page.entries.map Entry.toJson))).length :=
        Json.length_print_arr _ (List.mem_map_of_mem h)
    _ ≤ (Json.print serdeEscape page.toJson).length := by
        rw [BrowsePage.toJson]
        apply Json.length_print_obj
        simp only [List.mem_append]
        tauto
    _ ≤ pageSize page := length_le_len _

/-- A round that takes no entry leaves the timestamps. -/
theorem timestamps_trimNewest {page : BrowsePage} {entry : Entry}
    (h : page.entries.getLast? = some entry) (hless : entry.tools ≠ [] ∨ entry.text ≠ []) :
    (trimNewest page).entries.map Entry.timestamp = page.entries.map Entry.timestamp := by
  obtain ⟨older, hentries⟩ := List.getLast?_eq_some_iff.mp h
  rw [trimNewest, h]
  by_cases htools : entry.tools = []
  · simp [hentries, htools, hless.resolve_left (not_not_intro htools)]
  · simp [hentries, htools]

/-- **All timestamps fit** in a page that loses no entry. -/
theorem Spared.timestamps_le {page : BrowsePage} (h : Spared page) :
    ∀ timestamp ∈ page.entries.map Entry.timestamp, timestamp.length ≤ responseBytes := by
  induction h with
  | fits hfits =>
    intro timestamp htimestamp
    obtain ⟨entry, hentry, rfl⟩ := List.mem_map.mp htimestamp
    exact (timestamp_le_pageSize hentry).trans hfits
  | empty hempty =>
    rw [hempty]
    exact List.forall_mem_nil _
  | less hlast hless _ ih => rwa [timestamps_trimNewest hlast hless] at ih

end Budget

end Lerdr.Conversation
