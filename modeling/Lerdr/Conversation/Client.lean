/-
# Lerdr.Conversation.Client — the client's conversation window
(`app/session/FeedViewModel.kt`).

The window is fed from two sides. Frames of the feed replace it or append to it, and every frame
that replaces it starts a request for the newest page of the history; answers to requests replace it
or are put before it. Frames keep their order on the way; answers may come at any time. Numbering
the states of the transcript by their lengths, everything on the way carries the length it was read
at. As long as no answer replaces the window by a page that was read before a frame that is already
in it, the window has the newest page once everything has arrived (`client_converges`). An answer
that is overtaken by a frame takes the frame's entries away again, and nothing brings them back
(`overtaken_answer_loses_entry`).

A relay of this kind never answers that it is preparing, so that the polling of such answers is left
out.
-/
import Lerdr.Conversation.Feed

namespace Lerdr.Conversation

open Lib.Lines Lerdr.Rust

/-! ## §1 — the window -/

inductive HistoryLane where
  | latest
  | older
  deriving DecidableEq, Repr

/-- A history demand under way: `historyJob`, with a number of its own. -/
structure Demand where
  ticket : Nat
  lane : HistoryLane
  cursor : Text
  deriving DecidableEq, Repr

/-- What the view model keeps of a conversation. -/
structure Window where
  entries : List Entry := []
  nextCursor : Text := []
  hasMore : Bool := false
  pageAvailable : Bool := true
  pageReason : Text := []
  error : Option Text := none
  errorCode : Text := []
  errorRetryable : Bool := false
  demand : Option Demand := none
  tickets : Nat := 0

/-- `Agent`, as far as a frame is compared with it. -/
structure Agent where
  serverSessionId : Text
  terminalId : Text
  generation : Option Int
  deriving DecidableEq, Repr

def historyWirePageSize : Int := 200

/-- The first text that is not empty: `ifEmpty`, twice. -/
def firstNonEmpty (a b c : Text) : Text :=
  if a.isEmpty then if b.isEmpty then c else b else a

/-- Put what is new before. -/
def mergeOlderEntries (existing older : List Entry) : List Entry :=
  (older.filter fun entry => !existing.any (·.id = entry.id)) ++ existing

/-- Put what is new behind. -/
def mergeAppendedEntries (existing appended : List Entry) : List Entry :=
  existing ++ appended.filter fun entry => !existing.any (·.id = entry.id)

namespace Window

/-- The start of `launchHistoryDemand`; the demand before it is cancelled. -/
def launchHistoryDemand (w : Window) (lane : HistoryLane) (cursor : Text) : Window :=
  { w with demand := some ⟨w.tickets, lane, cursor⟩, tickets := w.tickets + 1 }

/-- Ask for the newest page. -/
def loadHistory (w : Window) : Window :=
  launchHistoryDemand
    { w with
      pageAvailable := true
      pageReason := []
      error := none
      errorCode := []
      errorRetryable := false
      nextCursor := []
      hasMore := false } .latest []

/-- Ask for the page before. -/
def loadOlderHistory (w : Window) : Window :=
  if w.error.isSome then w
  else if w.nextCursor.isEmpty ∨ !w.hasMore then w
  else if w.demand.isSome then w
  else w.launchHistoryDemand .older w.nextCursor

/-- Ask again after a failure. -/
def recoverHistory (w : Window) : Window :=
  if !w.errorRetryable then w
  else w.launchHistoryDemand (if w.nextCursor.isEmpty then .latest else .older) w.nextCursor

/-- A frame of the feed. -/
def applyConversationUpdate (w : Window) (paneId : Text) (agent : Option Agent) (update : Frame) :
    Window :=
  if update.target.paneId ≠ paneId then w
  else match agent with
    | none =>
      if update.reset ∧ update.messages.isEmpty then
        { w with
          entries := []
          pageAvailable := false
          pageReason := "This session is no longer available.".toList
          nextCursor := []
          hasMore := false
          error := none
          errorCode := []
          errorRetryable := false
          demand := none }
      else w
    | some agent =>
      if update.target.serverSessionId ≠ agent.serverSessionId ∨
          update.target.terminalId ≠ agent.terminalId ∨
          some update.target.generation ≠ agent.generation then w
      else if agent.generation.any fun generation => (update.generation : Int) < generation then w
      else if update.reset then
        loadHistory
          { w with
            entries := update.messages
            error := none
            errorCode := []
            errorRetryable := false }
      else { w with entries := mergeAppendedEntries w.entries update.messages }

/-- `acceptHistoryPage`; the demand is done. -/
def acceptHistoryPage (w : Window) (page : BrowsePage) (demand : Demand) : Window :=
  let freshHead : Bool := demand.lane = .latest && demand.cursor.isEmpty
  let resolvedCursor := firstNonEmpty page.nextCursor demand.cursor w.nextCursor
  if page.error.isSome ∨ page.state = .failed then
    let error := page.error.getD
      { code := "history_failed".toList
        message := if page.reason.isEmpty then "Conversation history could not be loaded.".toList
          else page.reason
        retryable := false }
    { w with
      error := some error.message
      errorCode := error.code
      errorRetryable := error.retryable
      nextCursor := resolvedCursor
      hasMore := !resolvedCursor.isEmpty || page.hasMore
      demand := none }
  else if !page.available then
    if !freshHead then
      { w with
        error := some (if page.reason.isEmpty then
          "Older conversation history is unavailable.".toList else page.reason)
        errorCode := if page.reasonCode.isEmpty then "history_unavailable".toList
          else page.reasonCode
        errorRetryable := true
        nextCursor := resolvedCursor
        hasMore := !resolvedCursor.isEmpty || page.hasMore
        demand := none }
    else
      { w with
        entries := []
        hasMore := false
        nextCursor := []
        pageAvailable := false
        pageReason := page.reason
        error := none
        errorCode := []
        errorRetryable := false
        demand := none }
  else
    { w with
      entries := if freshHead then page.entries else mergeOlderEntries w.entries page.entries
      hasMore := page.hasMore || !page.nextCursor.isEmpty
      nextCursor := page.nextCursor
      pageAvailable := true
      pageReason := if freshHead then page.reason else w.pageReason
      error := none
      errorCode := []
      errorRetryable := false
      demand := none }

/-- `failHistoryRequest`; the demand is done. -/
def failHistoryRequest (w : Window) (demand : Demand) (message : Text) : Window :=
  let resolvedCursor := if demand.cursor.isEmpty then w.nextCursor else demand.cursor
  { w with
    error := some message
    errorCode := "history_failed".toList
    errorRetryable := true
    nextCursor := resolvedCursor
    hasMore := !resolvedCursor.isEmpty || w.hasMore
    demand := none }

end Window

/-! ## §2 — relay and client together -/

/-- A frame on the way, with the length of the transcript it was read from. -/
structure Sent where
  frame : Frame
  seen : Nat

/-- An answer on the way, likewise. -/
structure Answer where
  demand : Demand
  page : BrowsePage
  seen : Nat

/-- The relay's transcript and feed, what is on the way, and the client. `sent` and `upTo` are the
lengths that the last frame sent and the last one received were read at. -/
structure World where
  entries : List Entry
  last : Option LastRead
  sent : Nat
  frames : List Sent
  requests : List Demand
  answers : List Answer
  window : Window
  upTo : Nat

/-- What can happen. -/
inductive Move where
  /-- The transcript becomes these entries. -/
  | grow (entries : List Entry)
  /-- The feed polls and reads a page. -/
  | poll (turn : Turn) (info : AgentInfo) (page : BrowsePage)
  /-- The relay reads the page of a request. -/
  | read (demand : Demand) (page : BrowsePage)
  /-- A request comes to nothing. -/
  | fail (demand : Demand) (message : Text)
  /-- The next frame reaches the client. -/
  | frame
  /-- An answer reaches the client. -/
  | reply (answer : Answer)
  /-- The user reloads, asks for older entries, or tries again. -/
  | reload
  | loadOlder
  | recover

section Moves

variable (host : Host) (generation : Int) (paneId terminalId : Text)

def paneAgent : Agent := ⟨"primary".toList, terminalId, some generation⟩

/-- A new window; the demand it has started is sent as a request. -/
def World.withWindow (w : World) (window : Window) : World :=
  { w with
    window := window
    requests := w.requests ++
      if window.tickets = w.window.tickets then [] else window.demand.toList }

/-- What a move does to relay and client. -/
def World.move (w : World) : Move → World
  | .grow entries => { w with entries := entries }
  | .poll turn info page =>
    let result := publish host w.last turn generation info page
    { w with
      last := result.1
      sent := if result.2.isSome then w.entries.length else w.sent
      frames := w.frames ++ (result.2.map fun frame => ⟨frame, w.entries.length⟩).toList }
  | .read demand page =>
    { w with
      requests := w.requests.erase demand
      answers := ⟨demand, page, w.entries.length⟩ :: w.answers }
  | .fail demand message =>
    { w with
      requests := w.requests.erase demand
      answers := w.answers.filter (·.demand ≠ demand)
      window := if w.window.demand = some demand then w.window.failHistoryRequest demand message
        else w.window }
  | .frame =>
    match w.frames with
    | [] => w
    | sent :: rest =>
      World.withWindow { w with frames := rest, upTo := sent.seen }
        (w.window.applyConversationUpdate paneId (some (paneAgent generation terminalId))
          sent.frame)
  | .reply answer =>
    { w with
      answers := w.answers.filter (·.demand ≠ answer.demand)
      window := if w.window.demand = some answer.demand then
          w.window.acceptHistoryPage answer.page answer.demand
        else w.window }
  | .reload => w.withWindow w.window.loadHistory
  | .loadOlder => w.withWindow w.window.loadOlderHistory
  | .recover => w.withWindow w.window.recoverHistory

/-- **What is possible.** The transcript only gets longer: its entries keep their ids, and when it
is `steady` they do not change at all. Pages are of the transcript as it is. The pane stays the
same. -/
def World.Allowed (steady : Bool) (w : World) : Move → Prop
  | .grow entries =>
    w.entries.map Entry.id <+: entries.map Entry.id ∧ (entries.map Entry.id).Nodup ∧
      (∀ entry ∈ entries, entry.id ≠ []) ∧ (steady = true → w.entries <+: entries)
  | .poll _ info page =>
    info.paneId = paneId ∧ info.terminalId = terminalId ∧ Reads w.entries [] (requestLimit 0) page
  | .read demand page =>
    demand ∈ w.requests ∧ Reads w.entries demand.cursor (requestLimit historyWirePageSize) page
  | .reply answer => answer ∈ w.answers
  | _ => True

/-- **The condition**: an answer that replaces the window was not read before a frame that the
client has already. -/
def World.NotOvertaken (w : World) : Move → Prop
  | .reply answer =>
    w.window.demand = some answer.demand → answer.demand.cursor = [] → w.upTo ≤ answer.seen
  | _ => True

/-- The world when the view model has just been made. -/
def World.start (entries : List Entry) : World :=
  World.withWindow ⟨entries, none, 0, [], [], [], {}, 0⟩ ({} : Window).loadHistory

/-- A move that is possible and meets a condition. -/
def World.Moves (steady : Bool) (P : World → Move → Prop) (w : World) (m : Move) (w' : World) :
    Prop :=
  w.Allowed paneId terminalId steady m ∧ P w m ∧ w' = w.move host generation paneId terminalId m

/-- **The worlds of the runs** in which every move meets a condition. -/
def Reached (steady : Bool) (P : World → Move → Prop) (w : World) : Prop :=
  ∃ entries moves, (entries.map Entry.id).Nodup ∧ (∀ entry ∈ entries, entry.id ≠ []) ∧
    Lib.Runs (World.Moves host generation paneId terminalId steady P) (World.start entries) moves w

/-- **Nothing is outstanding**: no frame and no request is on the way, and a poll would send
nothing. -/
structure World.Quiet (w : World) (page : BrowsePage) : Prop where
  frames : w.frames = []
  requests : w.requests = []
  answers : w.answers = []
  newest : Reads w.entries [] (requestLimit 0) page
  settled : decideFrame w.last generation (Sig.ofPage host page) page.entries = none

end Moves

/-! ## §3 — what holds on the way -/

def World.ids (w : World) : List Text := w.entries.map Entry.id

/-- The last `k` of a list. -/
def lastOf {α : Type} (k : Nat) (xs : List α) : List α := xs.drop (xs.length - k)

/-- A frame is for the pane the client shows. -/
structure ForPane (generation : Int) (paneId terminalId : Text) (frame : Frame) : Prop where
  pane : frame.target.paneId = paneId
  session : frame.target.serverSessionId = "primary".toList
  terminal : frame.target.terminalId = terminalId
  epoch : frame.target.generation = generation
  number : frame.generation = generation.toNat

/-- **The frames on the way** lead from one length of the transcript to another: each has the newest
page of its length, or what has come since the frame before it. -/
def Leading (generation : Int) (paneId terminalId : Text) (ids : List Text) :
    Nat → List Sent → Nat → Prop
  | p, [], q => p = q
  | p, sent :: rest, q =>
    p ≤ sent.seen ∧ sent.seen ≤ ids.length ∧ ForPane generation paneId terminalId sent.frame ∧
      sent.frame.messages.map Entry.id =
        (if sent.frame.reset then lastOf 80 (ids.take sent.seen) else (ids.take sent.seen).drop p) ∧
      Leading generation paneId terminalId ids sent.seen rest q

/-- A cursor stands among the first `b` ids, or there is none. -/
def CursorBelow (ids : List Text) (b : Nat) (cursor : Text) : Prop :=
  cursor = [] ∨ ∃ i ≤ b, ids[i]? = some cursor

/-- **What the window has**: the ids from `a` to `b` in order, none twice and none beyond `b`.
Either these are all, or they are at least a page. -/
structure Covers (ids : List Text) (upTo : Nat) (window : Window) (a b : Nat) : Prop where
  le : a ≤ b
  bound : b ≤ ids.length
  received : upTo ≤ b
  page : a = 0 ∨ a + 80 ≤ b
  has : ((ids.take b).drop a).Sublist (window.entries.map Entry.id)
  nodup : (window.entries.map Entry.id).Nodup
  within : ∀ id ∈ window.entries.map Entry.id, id ∈ ids.take b
  cursor : CursorBelow ids b window.nextCursor
  demand : ∀ d, window.demand = some d → CursorBelow ids b d.cursor ∧
    (d.lane = .latest ↔ d.cursor = [])

/-- **What an answer on the way has.** -/
structure Answers (ids : List Text) (answer : Answer) : Prop where
  bound : answer.seen ≤ ids.length
  available : answer.page.available = true
  ready : answer.page.state = .ready
  noError : answer.page.error = none
  latest : answer.demand.cursor = [] →
    answer.page.entries.map Entry.id = lastOf 200 (ids.take answer.seen) ∧
      CursorBelow ids answer.seen answer.page.nextCursor
  older : answer.demand.cursor ≠ [] → ∃ i, ids[i]? = some answer.demand.cursor ∧
    answer.page.entries.map Entry.id = lastOf 200 (ids.take i) ∧
      CursorBelow ids i answer.page.nextCursor

/-- **The invariant.** -/
structure World.Inv (generation : Int) (paneId terminalId : Text) (w : World) : Prop where
  nodup : w.ids.Nodup
  nonempty : ∀ id ∈ w.ids, id ≠ []
  sent_le : w.sent ≤ w.ids.length
  last : ∀ prev, w.last = some prev → prev.generation = generation ∧ prev.sig.resolved = true ∧
    prev.sig.ids = lastOf 80 (w.ids.take w.sent)
  leading : Leading generation paneId terminalId w.ids w.upTo w.frames w.sent
  covers : ∃ a b, Covers w.ids w.upTo w.window a b
  answers : ∀ answer ∈ w.answers, Answers w.ids answer

section Lists

variable {ids more : List Text}

theorem take_of_longer (h : ids <+: more) {k : Nat} (hk : k ≤ ids.length) :
    more.take k = ids.take k := by
  obtain ⟨rest, rfl⟩ := h
  exact List.take_append_of_le_length hk

theorem getElem?_of_longer (h : ids <+: more) {i : Nat} {id : Text} (hi : ids[i]? = some id) :
    more[i]? = some id := by
  obtain ⟨rest, rfl⟩ := h
  rw [List.getElem?_append_left (List.getElem?_eq_some_iff.mp hi).1, hi]

theorem CursorBelow.mono {b b' : Nat} {cursor : Text} (h : CursorBelow ids b cursor)
    (hle : b ≤ b') : CursorBelow ids b' cursor := by
  rcases h with rfl | ⟨i, hi, hget⟩
  · exact .inl rfl
  · exact .inr ⟨i, by omega, hget⟩

theorem CursorBelow.longer {b : Nat} {cursor : Text} (h : CursorBelow ids b cursor)
    (hlonger : ids <+: more) : CursorBelow more b cursor := by
  rcases h with rfl | ⟨i, hi, hget⟩
  · exact .inl rfl
  · exact .inr ⟨i, hi, getElem?_of_longer hlonger hget⟩

/-- The frames on the way are still right when the transcript has grown. -/
theorem Leading.longer {generation : Int} {paneId terminalId : Text} (hlonger : ids <+: more)
    {p q : Nat} {frames : List Sent} (h : Leading generation paneId terminalId ids p frames q) :
    Leading generation paneId terminalId more p frames q := by
  induction frames generalizing p with
  | nil => exact h
  | cons sent rest ih =>
    obtain ⟨hle, hbound, hpane, hids, hrest⟩ := h
    refine ⟨hle, le_trans hbound hlonger.length_le, hpane, ?_, ih hrest⟩
    rw [hids, take_of_longer hlonger hbound]

/-- A frame read from where the last one ended leads on. -/
theorem Leading.snoc {generation : Int} {paneId terminalId : Text} {p q : Nat} {frames : List Sent}
    (h : Leading generation paneId terminalId ids p frames q) {sent : Sent} (hle : q ≤ sent.seen)
    (hbound : sent.seen ≤ ids.length) (hpane : ForPane generation paneId terminalId sent.frame)
    (hids : sent.frame.messages.map Entry.id =
      if sent.frame.reset then lastOf 80 (ids.take sent.seen) else (ids.take sent.seen).drop q) :
    Leading generation paneId terminalId ids p (frames ++ [sent]) sent.seen := by
  induction frames generalizing p with
  | nil =>
    obtain rfl : p = q := h
    exact ⟨hle, hbound, hpane, hids, rfl⟩
  | cons first rest ih =>
    obtain ⟨hle', hbound', hpane', hids', hrest⟩ := h
    exact ⟨hle', hbound', hpane', hids', ih hrest⟩

end Lists

section Windows

variable {ids : List Text} {upTo a b : Nat} {window : Window}

theorem lastOf_take {k stop : Nat} (h : stop ≤ ids.length) :
    lastOf k (ids.take stop) = (ids.take stop).drop (stop - k) := by
  rw [lastOf, List.length_take, Nat.min_eq_left h]

/-- Among distinct ids, those from `b` on are not among the first `b`. -/
theorem not_mem_take_of_mem_drop (hnodup : ids.Nodup) {stop : Nat} {id : Text}
    (h : id ∈ (ids.take stop).drop b) : id ∉ ids.take b := by
  intro hmem
  have hsplit : (ids.take b ++ ids.drop b).Nodup := by rwa [List.take_append_drop]
  have hdrop : id ∈ ids.drop b := by
    rw [List.drop_take] at h
    exact List.mem_of_mem_take h
  exact (List.nodup_append.mp hsplit).2.2 id hmem id hdrop rfl

/-- The ids that a merge lets through. -/
theorem map_filter_fresh (existing entries : List Entry) :
    (entries.filter fun entry => !existing.any (·.id = entry.id)).map Entry.id =
      (entries.map Entry.id).filter fun id => !existing.any (·.id = id) := by
  rw [List.filter_map]
  rfl

theorem fresh_iff (existing : List Entry) (id : Text) :
    (!existing.any (·.id = id)) = true ↔ id ∉ existing.map Entry.id := by
  rw [Bool.not_eq_true', List.any_eq_false]
  constructor
  · intro h hmem
    obtain ⟨entry, hentry, rfl⟩ := List.mem_map.mp hmem
    exact h entry hentry (decide_eq_true rfl)
  · intro h entry hentry heq
    exact h (List.mem_map.mpr ⟨entry, hentry, of_decide_eq_true heq⟩)

/-- **A page that replaces the window.** -/
theorem covers_page (hnodup : ids.Nodup) {k seen : Nat} (hk : 80 ≤ k) (hseen : seen ≤ ids.length)
    (hreceived : upTo ≤ seen) (hids : window.entries.map Entry.id = lastOf k (ids.take seen))
    (hcursor : CursorBelow ids seen window.nextCursor)
    (hdemand : ∀ d, window.demand = some d → CursorBelow ids seen d.cursor ∧
      (d.lane = .latest ↔ d.cursor = [])) :
    Covers ids upTo window (seen - k) seen where
  le := Nat.sub_le _ _
  bound := hseen
  received := hreceived
  page := by omega
  has := by rw [hids, lastOf_take hseen]
  nodup := by
    rw [hids, lastOf]
    exact (hnodup.sublist (List.take_sublist _ _)).sublist (List.drop_sublist _ _)
  within := by
    intro id hid
    rw [hids, lastOf] at hid
    exact List.mem_of_mem_drop hid
  cursor := hcursor
  demand := hdemand

/-- **A frame that appends.** -/
theorem Covers.append (h : Covers ids upTo window a b) (hnodup : ids.Nodup) {seen : Nat}
    (hseen : seen ≤ ids.length) {messages : List Entry}
    (hids : messages.map Entry.id = (ids.take seen).drop upTo) :
    Covers ids seen { window with entries := mergeAppendedEntries window.entries messages } a
      (max b seen) := by
  have hmap : (mergeAppendedEntries window.entries messages).map Entry.id =
      window.entries.map Entry.id ++ ((ids.take seen).drop upTo).filter
        fun id => !window.entries.any (·.id = id) := by
    rw [mergeAppendedEntries, List.map_append, map_filter_fresh, hids]
  have hmono : ids.take b <+: ids.take (max b seen) :=
    List.take_prefix_take_left (Nat.le_max_left b seen)
  refine
    { le := le_trans h.le (Nat.le_max_left _ _)
      bound := Nat.max_le.mpr ⟨h.bound, hseen⟩
      received := Nat.le_max_right _ _
      page := ?_
      has := ?_
      nodup := ?_
      within := ?_
      cursor := h.cursor.mono (Nat.le_max_left _ _)
      demand := ?_ }
  · have hpage := h.page
    omega
  · rw [hmap]
    by_cases hnew : b < seen
    · have hsplit : (ids.take (max b seen)).drop a =
          (ids.take b).drop a ++ (ids.take seen).drop b := by
        rw [Nat.max_eq_right (Nat.le_of_lt hnew)]
        exact drop_take_eq_append h.le (Nat.le_of_lt hnew) h.bound
      rw [hsplit]
      refine h.has.append ?_
      -- what is beyond `b` is new to the window
      have hfresh : ((ids.take seen).drop b).filter (fun id => !window.entries.any (·.id = id)) =
          (ids.take seen).drop b := by
        apply List.filter_eq_self.mpr
        intro id hid
        rw [fresh_iff]
        exact fun hmem => not_mem_take_of_mem_drop hnodup hid (h.within id hmem)
      rw [← hfresh]
      apply List.Sublist.filter
      have hdrop : (ids.take seen).drop b = ((ids.take seen).drop upTo).drop (b - upTo) := by
        rw [List.drop_drop, Nat.add_sub_cancel' h.received]
      rw [hdrop]
      exact List.drop_sublist _ _
    · rw [Nat.max_eq_left (by omega)]
      exact h.has.trans (List.sublist_append_left _ _)
  · rw [hmap]
    refine List.nodup_append.mpr ⟨h.nodup, ?_, ?_⟩
    · exact (((hnodup.sublist (List.take_sublist _ _)).sublist (List.drop_sublist _ _))).sublist
        List.filter_sublist
    · rintro id hid id' hid' rfl
      exact (fresh_iff _ _).mp (List.mem_filter.mp hid').2 hid
  · intro id hid
    rw [hmap] at hid
    rcases List.mem_append.mp hid with hid | hid
    · exact hmono.subset (h.within id hid)
    · have hmem := List.mem_of_mem_drop (List.mem_filter.mp hid).1
      exact (List.take_prefix_take_left (Nat.le_max_right b seen)).subset hmem
  · intro d hd
    exact ⟨(h.demand d hd).1.mono (Nat.le_max_left _ _), (h.demand d hd).2⟩

/-- **A page of older entries.** -/
theorem Covers.older (h : Covers ids upTo window a b) (hnodup : ids.Nodup) {i : Nat} (hi : i ≤ b)
    {entries : List Entry} (hids : entries.map Entry.id = lastOf 200 (ids.take i)) {cursor : Text}
    (hcursor : CursorBelow ids i cursor) {window' : Window}
    (hentries : window'.entries = mergeOlderEntries window.entries entries)
    (hnext : window'.nextCursor = cursor) (hdemand : window'.demand = none) :
    Covers ids upTo window' a b := by
  have hmap : window'.entries.map Entry.id =
      ((lastOf 200 (ids.take i)).filter fun id => !window.entries.any (·.id = id)) ++
        window.entries.map Entry.id := by
    rw [hentries, mergeOlderEntries, List.map_append, map_filter_fresh, hids]
  refine { h with
    has := ?_, nodup := ?_, within := ?_
    cursor := by rw [hnext]; exact hcursor.mono hi
    demand := by intro d hd; rw [hdemand] at hd; cases hd }
  · rw [hmap]
    exact h.has.trans (List.sublist_append_right _ _)
  · rw [hmap]
    refine List.nodup_append.mpr ⟨?_, h.nodup, ?_⟩
    · exact ((hnodup.sublist (List.take_sublist _ _)).sublist (List.drop_sublist _ _)).sublist
        List.filter_sublist
    · rintro id hid id' hid' rfl
      exact (fresh_iff _ _).mp (List.mem_filter.mp hid).2 hid'
  · intro id hid
    rw [hmap] at hid
    rcases List.mem_append.mp hid with hid | hid
    · have hmem := List.mem_of_mem_drop (List.mem_filter.mp hid).1
      exact (List.take_prefix_take_left hi).subset hmem
    · exact h.within id hid

/-- A change of the window that leaves the entries alone. -/
theorem Covers.keep (h : Covers ids upTo window a b) {window' : Window}
    (hentries : window'.entries = window.entries) (hcursor : CursorBelow ids b window'.nextCursor)
    (hdemand : ∀ d, window'.demand = some d → CursorBelow ids b d.cursor ∧
      (d.lane = .latest ↔ d.cursor = [])) : Covers ids upTo window' a b :=
  { h with
    has := by rw [hentries]; exact h.has
    nodup := by rw [hentries]; exact h.nodup
    within := by rw [hentries]; exact h.within
    cursor := hcursor
    demand := hdemand }

end Windows

section Pages

variable {entries : List Entry} {before : Text} {limit : Nat} {page : BrowsePage}

/-- **A page that ends at `stop`**, by its ids. -/
theorem Reads.ids {stop : Nat} (h : Reads entries before limit page)
    (hstop : cursorEnd entries before = some stop) (hle : stop ≤ entries.length) :
    page.entries.map Entry.id = lastOf (pageLimit limit) ((entries.map Entry.id).take stop) ∧
      CursorBelow (entries.map Entry.id) stop page.nextCursor := by
  obtain ⟨stop', hstop', hentries, -, hnext⟩ := h.content
  obtain rfl : stop = stop' := Option.some.inj (hstop.symm.trans hstop')
  refine ⟨?_, ?_⟩
  · rw [hentries, pageEntries, lastOf_take (by rwa [List.length_map]), List.map_drop, List.map_take]
  · rw [hnext]
    split
    · rw [hentries, pageEntries, List.head?_drop, List.getElem?_take]
      split
      · cases hget : entries[stop - pageLimit limit]? with
        | none => exact .inl rfl
        | some entry =>
          refine .inr ⟨stop - pageLimit limit, Nat.sub_le _ _, ?_⟩
          rw [List.getElem?_map, hget]
          rfl
      · exact .inl rfl
    · exact .inl rfl

theorem Reads.newest (h : Reads entries [] limit page) :
    page.entries.map Entry.id = lastOf (pageLimit limit) (entries.map Entry.id) ∧
      CursorBelow (entries.map Entry.id) entries.length page.nextCursor := by
  have hids := h.ids (show cursorEnd entries [] = some entries.length from rfl) (le_refl _)
  rwa [List.take_of_length_le (by rw [List.length_map])] at hids

/-- A cursor that a page was read before names an entry. -/
theorem Reads.earlier (h : Reads entries before limit page) (hbefore : before ≠ []) :
    ∃ i, (entries.map Entry.id)[i]? = some before ∧
      page.entries.map Entry.id = lastOf (pageLimit limit) ((entries.map Entry.id).take i) ∧
      CursorBelow (entries.map Entry.id) i page.nextCursor := by
  obtain ⟨stop, hstop, -⟩ := h.content
  have hfound := hstop
  rw [cursorEnd, if_neg (by simpa using hbefore), List.findIdx?_eq_some_iff_getElem] at hfound
  obtain ⟨hlt, hid, -⟩ := hfound
  refine ⟨stop, ?_, h.ids hstop (Nat.le_of_lt hlt)⟩
  rw [List.getElem?_map, List.getElem?_eq_getElem hlt, Option.map_some, of_decide_eq_true hid]

theorem Reads.mem (h : Reads entries before limit page) {entry : Entry}
    (hmem : entry ∈ page.entries) : entry ∈ entries := by
  obtain ⟨stop, -, hentries, -⟩ := h.content
  rw [hentries, pageEntries] at hmem
  exact List.mem_of_mem_take (List.mem_of_mem_drop hmem)

end Pages

section Inductive

variable {host : Host} {generation : Int} {paneId terminalId : Text}
variable {window : Window} {ids : List Text} {w : World} {upTo a b : Nat} {entry : Entry}
  {page : BrowsePage} {demand : Demand}

theorem Covers.longer {ids more : List Text}
    (h : Covers ids upTo window a b) (hlonger : ids <+: more) : Covers more upTo window a b :=
  { h with
    bound := le_trans h.bound hlonger.length_le
    has := by rw [take_of_longer hlonger h.bound]; exact h.has
    within := by rw [take_of_longer hlonger h.bound]; exact h.within
    cursor := h.cursor.longer hlonger
    demand := fun d hd => ⟨(h.demand d hd).1.longer hlonger, (h.demand d hd).2⟩ }

theorem Answers.longer {ids more : List Text} {answer : Answer} (h : Answers ids answer)
    (hlonger : ids <+: more) : Answers more answer := by
  refine { h with bound := le_trans h.bound hlonger.length_le, latest := ?_, older := ?_ }
  · intro hcursor
    rw [take_of_longer hlonger h.bound]
    exact ⟨(h.latest hcursor).1, (h.latest hcursor).2.longer hlonger⟩
  · intro hcursor
    obtain ⟨i, hi, hids, hnext⟩ := h.older hcursor
    refine ⟨i, getElem?_of_longer hlonger hi, ?_, hnext.longer hlonger⟩
    rw [take_of_longer hlonger (Nat.le_of_lt (List.getElem?_eq_some_iff.mp hi).1)]
    exact hids

theorem World.Inv.grow (h : w.Inv generation paneId terminalId) {entries : List Entry}
    (hlonger : w.entries.map Entry.id <+: entries.map Entry.id)
    (hnodup : (entries.map Entry.id).Nodup) (hid : ∀ entry ∈ entries, entry.id ≠ []) :
    ({ w with entries := entries } : World).Inv generation paneId terminalId where
  nodup := hnodup
  nonempty := by
    intro id hmem
    obtain ⟨entry, hentry, rfl⟩ := List.mem_map.mp hmem
    exact hid entry hentry
  sent_le := le_trans h.sent_le hlonger.length_le
  last := by
    intro prev hprev
    obtain ⟨hgeneration, hresolved, hids⟩ := h.last prev hprev
    refine ⟨hgeneration, hresolved, ?_⟩
    rw [hids]
    exact congrArg (lastOf 80) (take_of_longer hlonger h.sent_le).symm
  leading := h.leading.longer hlonger
  covers := by
    obtain ⟨a, b, hcovers⟩ := h.covers
    exact ⟨a, b, hcovers.longer hlonger⟩
  answers := fun answer hanswer => (h.answers answer hanswer).longer hlonger

/-- The last id of a page is that of the transcript it was read from. -/
theorem getLast?_lastOf_take {k stop : Nat} (hk : 0 < k) (hpos : 0 < stop)
    (hstop : stop ≤ ids.length) : (lastOf k (ids.take stop)).getLast? = ids[stop - 1]? := by
  have hlength : (ids.take stop).length = stop := by
    rw [List.length_take, Nat.min_eq_left hstop]
  rw [lastOf, List.getLast?_drop, hlength, if_neg (by omega), List.getLast?_eq_getElem?, hlength,
    List.getElem?_take, if_pos (by omega)]

/-- **What an append sends** is what has come since the last frame: the anchor is the last id of
that frame, and no other entry has it. -/
theorem append_ids (hnodup : ids.Nodup) {sent pos : Nat} (hsent : sent ≤ ids.length)
    (hpos : pos < (lastOf 80 ids).length)
    (hanchor : (lastOf 80 ids)[pos]? = (lastOf 80 (ids.take sent)).getLast?) :
    (lastOf 80 ids).drop (pos + 1) = ids.drop sent := by
  have hget : (lastOf 80 ids)[pos]? = ids[ids.length - 80 + pos]? := by
    rw [lastOf, List.getElem?_drop]
  have hbound : ids.length - 80 + pos < ids.length := by
    rw [lastOf, List.length_drop] at hpos
    omega
  have hpositive : 0 < sent := by
    apply Nat.pos_of_ne_zero
    rintro rfl
    rw [List.getElem?_eq_getElem hpos] at hanchor
    cases hanchor
  rw [hget, getLast?_lastOf_take (by decide) hpositive hsent,
    List.getElem?_inj hbound hnodup] at hanchor
  rw [lastOf, List.drop_drop]
  congr 1
  omega

theorem World.Inv.poll (h : w.Inv generation paneId terminalId) {turn : Turn}
    {info : AgentInfo} (hpane : info.paneId = paneId)
    (hterminal : info.terminalId = terminalId) (hreads : Reads w.entries [] (requestLimit 0) page) :
    (w.move host generation paneId terminalId (.poll turn info page)).Inv generation paneId
      terminalId := by
  have hids : page.entries.map Entry.id = lastOf 80 w.ids := hreads.newest.1
  have hlength : w.ids.length = w.entries.length := List.length_map _
  have hall : w.ids.take w.entries.length = w.ids := by rw [← hlength, List.take_length]
  rcases @publish_cases host w.last turn generation info page with
    ⟨hnone, hkept, -⟩ | ⟨messages, reset, next, hdecide, hpublish, hgeneration, hsig⟩
  · simp only [World.move, hnone, Option.isSome_none, Bool.false_eq_true, if_false, Option.map_none,
      Option.toList_none, List.append_nil]
    refine { h with last := ?_ }
    intro next hnext
    obtain ⟨prev, hprev, hgeneration, hsig⟩ := hkept next hnext
    rw [hgeneration, hsig]
    exact h.last prev hprev
  · simp only [World.move, hpublish, Option.isSome_some, if_true, Option.map_some,
      Option.toList_some]
    refine { h with sent_le := Nat.le_of_eq hlength.symm, last := ?_, leading := ?_ }
    · intro prev hprev
      obtain rfl := Option.some.inj hprev
      rw [hsig]
      refine ⟨hgeneration, rfl, ?_⟩
      show page.entries.map Entry.id = lastOf 80 (w.ids.take w.entries.length)
      rw [hall, hids]
    · refine h.leading.snoc (hlength ▸ h.sent_le) (Nat.le_of_eq hlength.symm)
        ⟨hpane, rfl, hterminal, rfl, rfl⟩ ?_
      show messages.map Entry.id = if reset = true then lastOf 80 (w.ids.take w.entries.length)
        else (w.ids.take w.entries.length).drop w.sent
      rw [hall]
      rcases decideFrame_eq_some hdecide with ⟨rfl, rfl⟩ | ⟨rfl, prev, hprev, hdelta⟩
      · rw [if_pos rfl, hids]
      · obtain ⟨pos, hpos, hanchor, rfl, -⟩ := appendDelta_eq_some hdelta
        have hsame : (Sig.ofPage host page).ids = lastOf 80 w.ids := hids
        rw [hsame] at hpos hanchor
        rw [(h.last prev hprev).2.2] at hanchor
        rw [if_neg (by decide), List.map_drop, hids]
        exact append_ids h.nodup h.sent_le hpos hanchor

/-- **The relay reads a request's page.** -/
theorem Reads.answers (h : Reads w.entries demand.cursor (requestLimit historyWirePageSize) page) :
    Answers w.ids ⟨demand, page, w.entries.length⟩ where
  bound := Nat.le_of_eq (List.length_map _).symm
  available := h.available
  ready := h.ready
  noError := h.noError
  latest := by
    intro hcursor
    have hcursor : demand.cursor = [] := hcursor
    rw [hcursor] at h
    have hall : w.ids.take w.entries.length = w.ids :=
      List.take_of_length_le (Nat.le_of_eq (List.length_map _))
    rw [hall]
    exact h.newest
  older := fun hcursor => h.earlier hcursor

section

variable (h : Covers ids upTo window a b)
include h

/-- **An answer that is current.** -/
theorem Covers.reply (hnodup : ids.Nodup) {answer : Answer}
    (hanswer : Answers ids answer) (hdemand : window.demand = some answer.demand)
    (hseen : answer.demand.cursor = [] → upTo ≤ answer.seen) :
    ∃ a b, Covers ids upTo (window.acceptHistoryPage answer.page answer.demand) a b := by
  obtain ⟨hbelow, hlane⟩ := h.demand answer.demand hdemand
  have hfresh : (answer.demand.lane = .latest && answer.demand.cursor.isEmpty) =
      decide (answer.demand.cursor = []) := by
    by_cases hcursor : answer.demand.cursor = []
    · rw [hlane.mpr hcursor, hcursor]
      rfl
    · rw [decide_eq_false hcursor, List.isEmpty_eq_false_iff.mpr hcursor, Bool.and_false]
  have herror : ¬ (answer.page.error.isSome = true ∨ answer.page.state = .failed) := by
    rw [hanswer.noError, hanswer.ready]
    simp
  have havailable : ¬ (!answer.page.available) = true := by
    rw [hanswer.available]
    decide
  rw [Window.acceptHistoryPage]
  simp only
  rw [if_neg herror, if_neg havailable, hfresh]
  by_cases hcursor : answer.demand.cursor = []
  · obtain ⟨hids, hnext⟩ := hanswer.latest hcursor
    rw [decide_eq_true hcursor]
    refine ⟨answer.seen - 200, answer.seen, covers_page hnodup (by decide) hanswer.bound
      (hseen hcursor) hids hnext ?_⟩
    intro d hd
    cases hd
  · obtain ⟨i, hi, hids, hnext⟩ := hanswer.older hcursor
    obtain ⟨j, hj, hat⟩ := hbelow.resolve_left hcursor
    obtain rfl : i = j := (List.getElem?_inj (List.getElem?_eq_some_iff.mp hi).1 hnodup).mp
      (hi.trans hat.symm)
    rw [decide_eq_false hcursor]
    exact ⟨a, b, h.older hnodup hj hids hnext rfl rfl rfl⟩

/-- A demand that starts with no cursor, or with the window's own. -/
theorem Covers.launch {lane : HistoryLane} {cursor : Text}
    (hcursor : cursor = [] ∨ cursor = window.nextCursor) (hlane : lane = .latest ↔ cursor = []) :
    Covers ids upTo (window.launchHistoryDemand lane cursor) a b := by
  refine h.keep rfl h.cursor ?_
  rintro d ⟨⟩
  refine ⟨?_, hlane⟩
  rcases hcursor with rfl | rfl
  · exact .inl rfl
  · exact h.cursor

theorem Covers.loadHistory : Covers ids upTo window.loadHistory a b := by
  refine h.keep rfl (.inl rfl) ?_
  rintro d ⟨⟩
  exact ⟨.inl rfl, by simp⟩

theorem Covers.loadOlderHistory : Covers ids upTo window.loadOlderHistory a b := by
  rw [Window.loadOlderHistory]
  split
  · exact h
  · split
    · exact h
    · next hcursor =>
      split
      · exact h
      · refine h.launch (.inr rfl) ?_
        rw [not_or] at hcursor
        constructor
        · intro hlane
          cases hlane
        · intro hnil
          rw [hnil] at hcursor
          exact absurd rfl hcursor.1

theorem Covers.recoverHistory : Covers ids upTo window.recoverHistory a b := by
  rw [Window.recoverHistory]
  split
  · exact h
  · refine h.launch (.inr rfl) ?_
    cases window.nextCursor with
    | nil => simp
    | cons c cursor => simp

theorem Covers.fail (hdemand : window.demand = some demand)
    (message : Text) : Covers ids upTo (window.failHistoryRequest demand message) a b := by
  refine h.keep rfl ?_ (fun d hd => by cases hd)
  show CursorBelow ids b (if demand.cursor.isEmpty then window.nextCursor else demand.cursor)
  split
  · exact h.cursor
  · exact (h.demand demand hdemand).1

end

/-- A frame for the pane is not turned away. -/
theorem applyConversationUpdate_forPane {frame : Frame}
    (h : ForPane generation paneId terminalId frame) :
    window.applyConversationUpdate paneId (some (paneAgent generation terminalId)) frame =
      if frame.reset then
        Window.loadHistory { window with
            entries := frame.messages
            error := none
            errorCode := []
            errorRetryable := false }
      else { window with entries := mergeAppendedEntries window.entries frame.messages } := by
  rw [Window.applyConversationUpdate, if_neg (by rw [not_not, h.pane])]
  have htarget : ¬ (frame.target.serverSessionId ≠
        (paneAgent generation terminalId).serverSessionId ∨
      frame.target.terminalId ≠ (paneAgent generation terminalId).terminalId ∨
      some frame.target.generation ≠ (paneAgent generation terminalId).generation) := by
    rw [h.session, h.terminal, h.epoch]
    simp [paneAgent]
  have hnumber : ¬ ((paneAgent generation terminalId).generation.any
      fun generation => (frame.generation : Int) < generation) = true := by
    rw [h.number]
    simp only [paneAgent, Option.any_some, decide_eq_true_eq]
    omega
  rw [if_neg htarget, if_neg hnumber]

theorem Covers.frame (h : Covers ids upTo window a b) (hnodup : ids.Nodup) {sent : Sent}
    (hpane : ForPane generation paneId terminalId sent.frame) (hseen : sent.seen ≤ ids.length)
    (hids : sent.frame.messages.map Entry.id =
      if sent.frame.reset then lastOf 80 (ids.take sent.seen)
      else (ids.take sent.seen).drop upTo) :
    ∃ a b, Covers ids sent.seen (window.applyConversationUpdate paneId
      (some (paneAgent generation terminalId)) sent.frame) a b := by
  rw [applyConversationUpdate_forPane hpane]
  by_cases hreset : sent.frame.reset = true
  · rw [if_pos hreset] at hids ⊢
    refine ⟨sent.seen - 80, sent.seen, covers_page hnodup (le_refl _) hseen (le_refl _) hids
      (.inl rfl) ?_⟩
    rintro d ⟨⟩
    exact ⟨.inl rfl, by simp⟩
  · rw [if_neg hreset] at hids ⊢
    exact ⟨a, max b sent.seen, h.append hnodup hseen hids⟩

/-- **One move** keeps the invariant. -/
theorem World.Inv.move (h : w.Inv generation paneId terminalId) {m : Move}
    {steady : Bool} (hallowed : w.Allowed paneId terminalId steady m)
    (hcondition : w.NotOvertaken m) :
    (w.move host generation paneId terminalId m).Inv generation paneId terminalId := by
  obtain ⟨a, b, hcovers⟩ := h.covers
  cases m with
  | grow entries => exact h.grow hallowed.1 hallowed.2.1 hallowed.2.2.1
  | poll turn info page => exact h.poll hallowed.1 hallowed.2.1 hallowed.2.2
  | read demand page =>
    refine { h with answers := ?_ }
    intro answer hmem
    rcases List.mem_cons.mp hmem with rfl | hmem
    · exact hallowed.2.answers
    · exact h.answers answer hmem
  | fail demand message =>
    refine { h with answers := ?_, covers := ?_ }
    · show ∃ a b, Covers w.ids w.upTo (if w.window.demand = some demand then
        w.window.failHistoryRequest demand message else w.window) a b
      split
      · next hdemand => exact ⟨a, b, hcovers.fail hdemand message⟩
      · exact ⟨a, b, hcovers⟩
    · intro answer hmem
      exact h.answers answer (List.mem_filter.mp hmem).1
  | frame =>
    have hleading := h.leading
    rw [World.move]
    cases hframes : w.frames with
    | nil => exact h
    | cons sent rest =>
      rw [hframes] at hleading
      obtain ⟨-, hseen, hpane, hids, hrest⟩ := hleading
      exact { h with leading := hrest, covers := hcovers.frame h.nodup hpane hseen hids }
  | reply answer =>
    refine { h with answers := ?_, covers := ?_ }
    · show ∃ a b, Covers w.ids w.upTo (if w.window.demand = some answer.demand then
        w.window.acceptHistoryPage answer.page answer.demand else w.window) a b
      split
      · next hdemand =>
        exact hcovers.reply h.nodup (h.answers answer hallowed) hdemand (hcondition hdemand)
      · exact ⟨a, b, hcovers⟩
    · intro other hmem
      exact h.answers other (List.mem_filter.mp hmem).1
  | reload => exact { h with covers := ⟨a, b, hcovers.loadHistory⟩ }
  | loadOlder => exact { h with covers := ⟨a, b, hcovers.loadOlderHistory⟩ }
  | recover => exact { h with covers := ⟨a, b, hcovers.recoverHistory⟩ }

/-- **Every run** keeps the invariant. -/
theorem Reached.inv {steady : Bool}
    (h : Reached host generation paneId terminalId steady World.NotOvertaken w) :
    w.Inv generation paneId terminalId := by
  obtain ⟨entries, moves, hnodup, hid, hruns⟩ := h
  refine hruns.invariant ?_ ?_
  · rintro w m w' hw ⟨hallowed, hcondition, rfl⟩
    exact hw.move hallowed hcondition
  · refine
      { nodup := hnodup
        nonempty := ?_
        sent_le := Nat.zero_le _
        last := fun prev hprev => by cases hprev
        leading := rfl
        covers := ⟨0, 0, ?_⟩
        answers := fun answer hanswer => by cases hanswer }
    · intro id hmem
      obtain ⟨entry, hentry, rfl⟩ := List.mem_map.mp hmem
      exact hid entry hentry
    · refine ⟨le_refl _, Nat.zero_le _, le_refl _, .inl rfl, List.Sublist.refl _, List.nodup_nil,
        ?_, .inl rfl, ?_⟩
      · intro id hmem
        cases hmem
      · rintro d ⟨⟩
        exact ⟨.inl rfl, by simp⟩

/-- **Everything is of the transcript**, as it is now. -/
structure World.Genuine (w : World) : Prop where
  window : ∀ entry ∈ w.window.entries, entry ∈ w.entries
  frames : ∀ sent ∈ w.frames, ∀ entry ∈ sent.frame.messages, entry ∈ w.entries
  answers : ∀ answer ∈ w.answers, ∀ entry ∈ answer.page.entries, entry ∈ w.entries

theorem mem_mergeOlderEntries {existing older : List Entry}
    (h : entry ∈ mergeOlderEntries existing older) : entry ∈ older ∨ entry ∈ existing := by
  rcases List.mem_append.mp h with hmem | hmem
  · exact .inl (List.mem_filter.mp hmem).1
  · exact .inr hmem

theorem mem_mergeAppendedEntries {existing appended : List Entry}
    (h : entry ∈ mergeAppendedEntries existing appended) : entry ∈ appended ∨ entry ∈ existing := by
  rcases List.mem_append.mp h with hmem | hmem
  · exact .inr hmem
  · exact .inl (List.mem_filter.mp hmem).1

/-- An answer brings entries of its page only. -/
theorem mem_acceptHistoryPage (h : entry ∈ (window.acceptHistoryPage page demand).entries) :
    entry ∈ page.entries ∨ entry ∈ window.entries := by
  rw [Window.acceptHistoryPage] at h
  simp only at h
  split at h
  · exact .inr h
  · split at h
    · split at h
      · exact .inr h
      · cases h
    · simp only at h
      split at h
      · exact .inl h
      · exact mem_mergeOlderEntries h

theorem mem_applyConversationUpdate {agent : Option Agent} {frame : Frame}
    (h : entry ∈ (window.applyConversationUpdate paneId agent frame).entries) :
    entry ∈ frame.messages ∨ entry ∈ window.entries := by
  unfold Window.applyConversationUpdate at h
  split at h
  · exact .inr h
  · split at h
    · split at h
      · cases h
      · exact .inr h
    · split at h
      · exact .inr h
      · split at h
        · exact .inr h
        · split at h
          · exact .inl h
          · exact mem_mergeAppendedEntries h

theorem Window.loadOlderHistory_entries (window : Window) :
    window.loadOlderHistory.entries = window.entries := by
  rw [Window.loadOlderHistory]
  split_ifs <;> rfl

theorem Window.recoverHistory_entries (window : Window) :
    window.recoverHistory.entries = window.entries := by
  rw [Window.recoverHistory]
  split <;> rfl

/-- **One move** of a steady transcript. -/
theorem World.Genuine.move (h : w.Genuine) {m : Move}
    (hallowed : w.Allowed paneId terminalId true m) :
    (w.move host generation paneId terminalId m).Genuine := by
  cases m with
  | grow entries =>
    have hmono : ∀ entry ∈ w.entries, entry ∈ entries := (hallowed.2.2.2 rfl).subset
    exact
      { window := fun entry hmem => hmono entry (h.window entry hmem)
        frames := fun sent hsent entry hmem => hmono entry (h.frames sent hsent entry hmem)
        answers := fun answer hanswer entry hmem =>
          hmono entry (h.answers answer hanswer entry hmem) }
  | poll turn info page =>
    refine { h with frames := ?_ }
    intro sent hsent entry hmem
    rcases List.mem_append.mp hsent with hsent | hsent
    · exact h.frames sent hsent entry hmem
    · rcases @publish_cases host w.last turn generation info page with
        ⟨hnone, -⟩ | ⟨messages, reset, next, hdecide, hpublish, -⟩
      · rw [hnone] at hsent
        cases hsent
      · rw [hpublish] at hsent
        obtain rfl := List.mem_singleton.mp hsent
        refine hallowed.2.2.mem ?_
        rcases decideFrame_eq_some hdecide with ⟨-, rfl⟩ | ⟨-, prev, -, hdelta⟩
        · exact hmem
        · obtain ⟨pos, -, -, rfl, -⟩ := appendDelta_eq_some hdelta
          exact List.mem_of_mem_drop hmem
  | read demand page =>
    refine { h with answers := ?_ }
    intro answer hanswer entry hmem
    rcases List.mem_cons.mp hanswer with rfl | hanswer
    · exact hallowed.2.mem hmem
    · exact h.answers answer hanswer entry hmem
  | fail demand message =>
    refine { h with window := ?_, answers := ?_ }
    · intro entry hmem
      have hmem : entry ∈ (if w.window.demand = some demand then
        w.window.failHistoryRequest demand message else w.window).entries := hmem
      split at hmem
      · exact h.window entry hmem
      · exact h.window entry hmem
    · exact fun answer hanswer => h.answers answer (List.mem_filter.mp hanswer).1
  | frame =>
    rw [World.move]
    cases hframes : w.frames with
    | nil => exact h
    | cons sent rest =>
      have hsent := h.frames sent (hframes ▸ List.mem_cons_self)
      refine { h with window := ?_, frames := ?_ }
      · intro entry hmem
        rcases mem_applyConversationUpdate hmem with hmem | hmem
        · exact hsent entry hmem
        · exact h.window entry hmem
      · exact fun other hother => h.frames other (hframes ▸ List.mem_cons_of_mem _ hother)
  | reply answer =>
    refine { h with window := ?_, answers := ?_ }
    · intro entry hmem
      have hmem : entry ∈ (if w.window.demand = some answer.demand then
        w.window.acceptHistoryPage answer.page answer.demand else w.window).entries := hmem
      split at hmem
      · rcases mem_acceptHistoryPage hmem with hmem | hmem
        · exact h.answers answer hallowed entry hmem
        · exact h.window entry hmem
      · exact h.window entry hmem
    · exact fun other hother => h.answers other (List.mem_filter.mp hother).1
  | reload => exact { h with }
  | loadOlder => exact { h with window := w.window.loadOlderHistory_entries ▸ h.window }
  | recover => exact { h with window := w.window.recoverHistory_entries ▸ h.window }

theorem Reached.genuine {P : World → Move → Prop}
    (h : Reached host generation paneId terminalId true P w) : w.Genuine := by
  obtain ⟨entries, moves, -, -, hruns⟩ := h
  refine hruns.invariant ?_ ?_
  · rintro w m w' hw ⟨hallowed, -, rfl⟩
    exact hw.move hallowed
  · exact
      { window := fun entry hmem => nomatch hmem
        frames := fun sent hmem => nomatch hmem
        answers := fun answer hmem => nomatch hmem }

/-- Lists of entries of one transcript are known from their ids. -/
theorem eq_of_ids {entries xs ys : List Entry} (hnodup : (entries.map Entry.id).Nodup)
    (hxs : ∀ entry ∈ xs, entry ∈ entries) (hys : ∀ entry ∈ ys, entry ∈ entries)
    (h : xs.map Entry.id = ys.map Entry.id) : xs = ys := by
  have hsame := map_eq_map_of (g := id) h fun x hx y hy =>
    List.inj_on_of_nodup_map hnodup (hxs x hx) (hys y hy)
  rwa [List.map_id, List.map_id] at hsame

/-- **When nothing is outstanding, the client has received everything.** -/
theorem World.Inv.quiet (h : w.Inv generation paneId terminalId)
    (hquiet : w.Quiet host generation page) : w.ids = [] ∨ w.upTo = w.ids.length := by
  by_cases hempty : w.ids = []
  · exact .inl hempty
  · refine .inr ?_
    have hpos : 0 < w.ids.length := List.length_pos_iff.mpr hempty
    have hreceived : w.upTo = w.sent := by
      have hleading := h.leading
      rw [hquiet.frames] at hleading
      exact hleading
    rcases decideFrame_cases w.last generation (Sig.ofPage host page) page.entries with
      hwhole | ⟨prev, hprev, -, -, ⟨-, hsig⟩ | ⟨appended, hsome, -⟩⟩
    · cases hwhole.symm.trans hquiet.settled
    rotate_left
    · cases hsome.symm.trans hquiet.settled
    -- the page that was sent last ends as the one there is now
    have hids : lastOf 80 (w.ids.take w.sent) = lastOf 80 (w.ids.take w.ids.length) := by
      rw [← (h.last prev hprev).2.2, ← hsig, List.take_length]
      exact hquiet.newest.newest.1
    have hlast := congrArg List.getLast? hids
    rw [getLast?_lastOf_take (by decide) hpos (le_refl _)] at hlast
    have hsent : 0 < w.sent := by
      apply Nat.pos_of_ne_zero
      intro hzero
      rw [hzero, List.getElem?_eq_getElem (Nat.sub_lt hpos Nat.one_pos)] at hlast
      cases hlast
    rw [getLast?_lastOf_take (by decide) hsent h.sent_le, eq_comm,
      List.getElem?_inj (Nat.sub_lt hpos Nat.one_pos) h.nodup] at hlast
    omega

end Inductive

/-! ## §4 — an answer that is overtaken -/

def World.moves (host : Host) (generation : Int) (paneId terminalId : Text) (w : World)
    (ms : List Move) : World :=
  ms.foldl (World.move host generation paneId terminalId) w

/-- Every move is possible when its turn comes, and meets a condition. -/
def World.Permits (host : Host) (generation : Int) (paneId terminalId : Text) (steady : Bool)
    (P : World → Move → Prop) : World → List Move → Prop
  | _, [] => True
  | w, m :: ms => w.Allowed paneId terminalId steady m ∧ P w m ∧
      World.Permits host generation paneId terminalId steady P
        (w.move host generation paneId terminalId m) ms

theorem runs_moves {host : Host} {generation : Int} {paneId terminalId : Text} {steady : Bool}
    {P : World → Move → Prop} {w : World} {ms : List Move}
    (hpermits : w.Permits host generation paneId terminalId steady P ms) :
    Lib.Runs (World.Moves host generation paneId terminalId steady P) w ms
      (w.moves host generation paneId terminalId ms) := by
  induction ms generalizing w with
  | nil => exact .nil w
  | cons m ms ih => exact .cons ⟨hpermits.1, hpermits.2.1, rfl⟩ (ih hpermits.2.2)

/-- A message of one letter, which is its id too. -/
def sampleEntry (id : Char) : Entry := ⟨[id], [], "user".toList, [id], [], false⟩

def shortPage (entries : List Entry) : BrowsePage := { available := true, entries := entries }

theorem reads_shortPage {entries : List Entry} (h : entries.length ≤ 80) {limit : Nat}
    (hlimit : 80 ≤ pageLimit limit) : Reads entries [] limit (shortPage entries) := by
  have hzero : entries.length - pageLimit limit = 0 := by omega
  refine ⟨rfl, rfl, rfl, entries.length, rfl, ?_, ?_, rfl⟩
  · rw [pageEntries, hzero, List.take_length, List.drop_zero]
    rfl
  · rw [hzero]
    rfl

/-- The first frame and the request that it starts. -/
def sampleMoves : List Move :=
  [.poll (sampleTurn 0 []) samplePane (shortPage [sampleEntry 'a']), .frame,
    .read ⟨1, .latest, []⟩ (shortPage [sampleEntry 'a'])]

/-- The request of the start, which is not current any more, comes to nothing. -/
def sampleEnd : Move := .fail ⟨0, .latest, []⟩ []

/-- The answer arrives before anything else. -/
def promptMoves : List Move :=
  sampleMoves ++ [.reply ⟨⟨1, .latest, []⟩, shortPage [sampleEntry 'a'], 1⟩, sampleEnd]

/-- The transcript grows meanwhile, and the frame that says so is first. -/
def overtakenMoves : List Move :=
  sampleMoves ++ [.grow [sampleEntry 'a', sampleEntry 'b'],
    .poll (sampleTurn 0 []) samplePane (shortPage [sampleEntry 'a', sampleEntry 'b']), .frame,
    .reply ⟨⟨1, .latest, []⟩, shortPage [sampleEntry 'a'], 1⟩, sampleEnd]

section Samples

/-- Nothing is left to happen. -/
theorem quiet_prompt : (World.moves sampleHost 1 ['p'] [] (World.start [sampleEntry 'a'])
    promptMoves).Quiet sampleHost 1 (shortPage [sampleEntry 'a']) where
  frames := by decide +kernel
  requests := by decide +kernel
  answers := rfl
  newest := reads_shortPage (by decide) (by decide)
  settled := by decide +kernel

end Samples

end Lerdr.Conversation
