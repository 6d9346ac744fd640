/-
# Lerdr.Conversation.Paging — reading a transcript page by page.

A client asks for the newest page, then for the page before the cursor it got, until there is no
more. Over a transcript in one file the pages tile its entries: each ends where the next newer one
began, because the cursor is the id of its oldest entry and ids are distinct (`pageWalk_from`). A
page over the budget loses tools and text of its newest entry first, which leaves the ids as they
are, and then the entry; the cursor has gone past it already (`large_page_loses_entries`).
-/
import Lerdr.Conversation.Browser

namespace Lerdr.Conversation

open Lib Lib.Lines Lerdr.Rust

/-! ## §1 — transcripts in one file -/

def scopeAgent (host : Host) (scope : BrowseScope) : Text :=
  normalizedAgent host (normalizeBrowseScope host scope).provider

/-- The project a scope asks for, as the reader takes it. -/
def scopeProject (host : Host) (scope : BrowseScope) : ProjectContext :=
  normalizeProjectContext host (scopeAgent host scope)
    ⟨(normalizeBrowseScope host scope).cwd, (normalizeBrowseScope host scope).foregroundCwd⟩

/-- The session a scope asks for, as the reader takes it. -/
def scopeSession (host : Host) (scope : BrowseScope) : Text :=
  trim (normalizeBrowseScope host scope).sessionId

def readScope (host : Host) (src : Sources) (scope : BrowseScope) (before : Text) (limit : Int) :
    Except ReadError Page :=
  readWithProject host src (scopeAgent host scope)
    ⟨(normalizeBrowseScope host scope).cwd, (normalizeBrowseScope host scope).foregroundCwd⟩
    (normalizeBrowseScope host scope).sessionId before (requestLimit limit)

/-- **The transcript of a scope is one file**, whose bytes are `data` and whose lines are read as
the agent's. -/
inductive SingleFile (host : Host) (src : Sources) (scope : BrowseScope) : Text → Bytes → Prop where
  | flat (hprovider : providerOf host (scopeAgent host scope) = some .flat)
    (hsession : scopeSession host scope ≠ []) {location : Location}
    (hlocation : src.locate (scopeAgent host scope) (scopeProject host scope)
      (scopeSession host scope) = location) (hpath : location.path ≠ [])
    {ino : FileTree.Ino} {file : FileData}
    (hopen : src.fs.openNoFollow (Utf8.bytes location.path) = some (ino, file)) :
    SingleFile host src scope (scopeAgent host scope) file.data
  | claude (hprovider : providerOf host (scopeAgent host scope) = some .claude)
    (hsession : scopeSession host scope ≠ []) {location : Location}
    (hlocation : src.locate (scopeAgent host scope) (scopeProject host scope)
      (scopeSession host scope) = location) (hpath : location.path ≠ [])
    {chain : ClaudeChain} {segment : ClaudeSegment} {source : FileSource}
    (hchain : resolveClaudeChain host src.fs location (scopeSession host scope) = .ok chain)
    (hsegment : chain.segments = [segment])
    (hsource : captureFileSource host src.fs segment.location = .ok source) :
    SingleFile host src scope "claude".toList source.file.data
  | omo (hprovider : providerOf host (scopeAgent host scope) = some .omo)
    (hsession : (normalizeBrowseScope host scope).sessionId ≠ [])
    {location : Location} {id : Text}
    (hlocation : src.omoLocate (scopeProject host scope).cwd (scopeSession host scope) =
      .ok (location, id))
    {source : FileSource} (hsource : captureFileSource host src.fs location = .ok source)
    (hverify : src.omoVerify source.file.data id (scopeProject host scope).cwd = true) :
    SingleFile host src scope "pi".toList source.file.data

section Reading

variable {host : Host} {src : Sources} {scope : BrowseScope} {agent : Text} {data : Bytes}

theorem loadTail_whole {limit : Nat} (h : data.length ≤ limit) :
    loadTail limit data = (data, false) := by
  rw [loadTail, if_neg (by omega)]

theorem readCapturedSegment_tail {segment : ClaudeSegment}
    (hcaptured : Captured host src.fs segment)
    {source : FileSource} (hsource : captureFileSource host src.fs segment.location = .ok source)
    {room : Nat} (hroom : 0 < room) :
    readCapturedSegment host src segment (min room segment.capturedEnd) =
      some (loadTail room source.file.data) := by
  obtain ⟨captured, identity, hcapture, hsegment⟩ := hcaptured
  obtain rfl : source = captured := Except.ok.inj (hsource.symm.trans hcapture)
  have hend : segment.capturedEnd = source.file.data.length := by rw [hsegment]; rfl
  have hrevision : segment.fileRevision = source.revision := by rw [hsegment]; rfl
  have htoken : segment.sourceChangeToken = fileChangeToken source.file := by rw [hsegment]; rfl
  have hlength : source.length = source.file.data.length := rfl
  rw [readCapturedSegment, hsource]
  simp only [hend, hrevision, htoken, hlength]
  rw [if_neg (by simp)]
  split
  · next hzero => rw [List.length_eq_zero_iff.mp hzero, loadTail_whole (Nat.zero_le _)]
  · rw [if_neg (by omega), List.take_length]
    by_cases hfits : source.file.data.length ≤ room
    · rw [loadTail_whole hfits, loadTail_whole (by omega)]
    · rw [Nat.min_eq_left (by omega)]

theorem readScope_located {provider : Provider}
    (hprovider : providerOf host (scopeAgent host scope) =
      some provider) (hkind : provider = .flat ∨ provider = .claude)
    (hsession : scopeSession host scope ≠ []) {location : Location}
    (hlocation : src.locate (scopeAgent host scope) (scopeProject host scope)
      (scopeSession host scope) = location) (hpath : location.path ≠ []) (before : Text)
    (limit : Int) :
    readScope host src scope before limit =
      if provider = .claude then
        claudeReadChain host src (scopeSession host scope) location before (requestLimit limit)
      else flatRead host src (scopeAgent host scope) location before (requestLimit limit) := by
  rw [ne_eq, ← List.isEmpty_iff] at hsession hpath
  rw [readScope, readWithProject, hprovider]
  rcases hkind with rfl | rfl
  all_goals
    dsimp only
    rw [← scopeSession, ← scopeProject, hlocation, if_neg hsession, if_neg hpath]

theorem readScope_omo (hprovider : providerOf host (scopeAgent host scope) = some .omo)
    (before : Text) (limit : Int) :
    readScope host src scope before limit =
      omoRead host src (scopeProject host scope).cwd (normalizeBrowseScope host scope).sessionId
        before (requestLimit limit) := by
  rw [readScope, readWithProject, hprovider]
  rfl

/-- **What the reader answers over one file**: the entries before the cursor, up to the limit. -/
theorem read_singleFile (h : SingleFile host src scope agent data)
    (hsize : data.length ≤ maxConversationBytes) {before : Text} (limit : Int) {stop : Nat}
    (hstop : cursorEnd (parseTranscript host agent data) before = some stop) :
    ∃ page, readScope host src scope before limit = .ok page ∧ page.available = true ∧
      page.entries = pageEntries (parseTranscript host agent data) stop (requestLimit limit) ∧
      page.hasMore = decide (0 < stop - pageLimit (requestLimit limit)) := by
  cases h with
  | @flat hprovider hsession location hlocation hpath ino file hopen =>
    rw [readScope_located hprovider (.inl rfl) hsession hlocation hpath, if_neg (by decide),
      flatRead, hopen]
    simp only [loadTail_whole hsize, hstop, Option.getD_some]
    exact ⟨_, rfl, rfl, rfl, rfl⟩
  | @claude hprovider hsession location hlocation hpath chain segment source hchain hsegment
      hsource =>
    obtain ⟨-, w, hsegments, hkept⟩ := resolveClaudeChain_spec hchain
    have hmem : segment ∈ w.segments := by rw [hsegments, hsegment]; exact List.mem_cons_self
    have hread := readCapturedSegment_tail (hkept.captured segment hmem) hsource
      (show 0 < maxConversationBytes by decide)
    rw [loadTail_whole hsize] at hread
    have hback : readBack host src true maxConversationBytes [segment] =
        .ok ⟨parseTranscript host "claude".toList source.file.data, false, false⟩ := by
      rw [readBack, if_neg (by decide), hread]
      simp only [Bool.false_eq_true, if_false, List.isEmpty_nil, namespaceClaudeEntries, if_true,
        readBack, Except.map, List.nil_append]
    rw [readScope_located hprovider (.inr rfl) hsession hlocation hpath, if_pos rfl,
      claudeReadChain, hchain]
    simp only [hsegment, List.isEmpty_cons, Bool.false_eq_true, if_false, List.reverse_singleton,
      hback, hstop]
    refine ⟨_, rfl, ?_⟩
    cases chain.incomplete <;> exact ⟨rfl, rfl, rfl⟩
  | @omo hprovider hsession location id hlocation source hsource hverify =>
    obtain ⟨plan, hload⟩ : ∃ plan, omoLoad host src location id (scopeProject host scope).cwd =
        .ok (parseTranscript host "pi".toList source.file.data, plan, false) := by
      rw [omoLoad, hsource]
      simp only [hverify, loadTail_whole hsize]
      exact ⟨_, rfl⟩
    rw [readScope_omo hprovider, omoRead]
    simp only [scopeSession] at hlocation
    simp only [hlocation, hload, hstop]
    exact ⟨_, rfl, rfl, rfl, rfl⟩

/-- The scope names a session, and an agent whose transcript is in files. -/
structure Asked (host : Host) (scope : BrowseScope) : Prop where
  session : (normalizeBrowseScope host scope).sessionId ≠ []
  supported : providerOf host (scopeAgent host scope) ≠ none
  notNative : providerOf host (scopeAgent host scope) ≠ some .native

theorem session_of_trim (h : scopeSession host scope ≠ []) :
    (normalizeBrowseScope host scope).sessionId ≠ [] :=
  fun hnil => h (by rw [scopeSession, hnil]; rfl)

theorem SingleFile.asked (h : SingleFile host src scope agent data) : Asked host scope := by
  cases h with
  | flat hprovider hsession | claude hprovider hsession =>
    exact ⟨session_of_trim hsession, by rw [hprovider]; decide, by rw [hprovider]; decide⟩
  | omo hprovider hsession =>
    exact ⟨hsession, by rw [hprovider]; decide, by rw [hprovider]; decide⟩

/-- A request is answered by the reader's page. -/
theorem readPageSync_asked (h : Asked host scope) (describe : ReadError → Text)
    {cursor : Option Text} {limit : Int} {page : Page}
    (hpage : readScope host src scope (cursor.getD []) limit = .ok page) :
    readPageSync host src describe ⟨scope, cursor, limit⟩ = wirePage host src page false := by
  have hsession : (normalizeBrowseScope host scope).sessionId.isEmpty = false := by
    simpa using h.session
  simp only [readPageSync, hsession, Bool.false_eq_true, if_false]
  rw [← scopeAgent, if_neg h.supported, ← readScope, hpage]
  simp only [decide_eq_false h.notNative]

theorem wirePage_available {page : Page} (h : page.available = true) :
    wirePage host src page false = enforcePageBudget (rawPage host src page false) := by
  rw [wirePage, if_pos h]

/-- **What a page is of a transcript's entries**: those before the cursor, up to the limit. -/
structure Reads (entries : List Entry) (before : Text) (limit : Nat) (page : BrowsePage) :
    Prop where
  available : page.available = true
  ready : page.state = .ready
  noError : page.error = none
  content : ∃ stop, cursorEnd entries before = some stop ∧
    page.entries = pageEntries entries stop limit ∧
    page.hasMore = decide (0 < stop - pageLimit limit) ∧
    page.nextCursor = if page.hasMore then (page.entries.head?.map Entry.id).getD [] else []

/-- The entries of a transcript, as they are sent. -/
def wireEntries (host : Host) (agent : Text) (data : Bytes) : List Entry :=
  (parseTranscript host agent data).map fun entry => (normalizeEntryTools entry).1

theorem wireEntries_ids (host : Host) (agent : Text) (data : Bytes) :
    (wireEntries host agent data).map Entry.id =
      (parseTranscript host agent data).map Entry.id := by
  rw [wireEntries, List.map_map]
  rfl

theorem cursorEnd_wireEntries (data : Bytes) (before : Text) :
    cursorEnd (wireEntries host agent data) before =
      cursorEnd (parseTranscript host agent data) before := by
  rw [cursorEnd, cursorEnd, wireEntries, List.length_map, List.findIdx?_map]
  rfl

/-- **The relay's pages are pages of the transcript**, within the budget: what the window's runs
suppose of a page holds of every answer over one file within the tail limit before it is trimmed. -/
theorem reads_singleFile {data : Bytes} (h : SingleFile host src scope agent data)
    (hsize : data.length ≤ maxConversationBytes) {limit : Int} (describe : ReadError → Text)
    {cursor : Option Text} {stop : Nat}
    (hstop : cursorEnd (wireEntries host agent data) (cursor.getD []) = some stop) :
    ∃ page, readScope host src scope (cursor.getD []) limit = .ok page ∧
      readPageSync host src describe ⟨scope, cursor, limit⟩ =
        enforcePageBudget (rawPage host src page false) ∧
      Reads (wireEntries host agent data) (cursor.getD []) (requestLimit limit)
        (rawPage host src page false) := by
  have hstop' := hstop
  rw [cursorEnd_wireEntries] at hstop'
  obtain ⟨page, hpage, havailable, hentries, hmore⟩ := read_singleFile h hsize limit hstop'
  have hlist : (rawPage host src page false).entries =
      pageEntries (wireEntries host agent data) stop (requestLimit limit) := by
    show page.entries.map (fun entry => (normalizeEntryTools entry).1) = _
    rw [hentries, pageEntries, pageEntries, wireEntries, List.map_drop, List.map_take]
  refine ⟨page, hpage, ?_, rfl, rfl, rfl, stop, hstop, hlist, hmore, ?_⟩
  · rw [readPageSync_asked h.asked describe hpage, wirePage_available havailable]
  by_cases hpageMore : page.hasMore = true
  · -- a page that has more before it has entries
    have hpos : 0 < stop - pageLimit (requestLimit limit) := of_decide_eq_true (hmore ▸ hpageMore)
    obtain ⟨first, -, hhead⟩ := head?_pageEntries (cursorEnd_le hstop') hpos
    rw [← hentries] at hhead
    rw [rawPage_nextCursor host src false hpageMore hhead, rawPage_hasMore, if_pos hpageMore]
    show _ = ((page.entries.map fun entry => (normalizeEntryTools entry).1).head?.map _).getD []
    rw [List.head?_map, hhead]
    rfl
  · rw [Bool.not_eq_true] at hpageMore
    show (if page.hasMore = true then _ else []) = if page.hasMore = true then _ else []
    rw [hpageMore]
    rfl

end Reading

/-! ## §2 — the walk -/

section Walks

variable (host : Host) (src : Sources) (describe : ReadError → Text) (scope : BrowseScope)
  (limit : Int)

/-- Ask for pages until there is no more, for so many pages. -/
def pageWalk : Nat → Option Text → Option (List BrowsePage)
  | 0, _ => none
  | n + 1, cursor =>
    let page := readPageSync host src describe ⟨scope, cursor, limit⟩
    if page.hasMore then (pageWalk n (some page.nextCursor)).map (page :: ·) else some [page]

/-- The ids of pages, each put before the ones that came earlier. -/
def prepended (pages : List BrowsePage) : List Text :=
  pages.foldl (fun ids page => page.entries.map Entry.id ++ ids) []

end Walks

theorem foldl_prepend (pages : List BrowsePage) (ids : List Text) :
    pages.foldl (fun ids page => page.entries.map Entry.id ++ ids) ids =
      prepended pages ++ ids := by
  induction pages generalizing ids with
  | nil => rfl
  | cons page pages ih =>
    rw [prepended, List.foldl_cons, List.foldl_cons, ih, ih, List.append_assoc, List.append_nil]

theorem prepended_cons (page : BrowsePage) (pages : List BrowsePage) :
    prepended (page :: pages) = prepended pages ++ page.entries.map Entry.id := by
  rw [prepended, List.foldl_cons, foldl_prepend, List.append_nil]

section Complete

variable {host : Host} {src : Sources} {scope : BrowseScope} {agent : Text} {data : Bytes}
  {limit : Int}

theorem id_ne_nil {entry : Entry} (h : entry ∈ parseTranscript host agent data) :
    entry.id ≠ [] := by
  have hmem : entry.id ∈ (parseTranscript host agent data).map Entry.id := List.mem_map_of_mem h
  rw [ids_parseTranscript] at hmem
  obtain ⟨i, -, hi⟩ := List.mem_filterMap.mp hmem
  obtain ⟨line, -, hline⟩ := Option.bind_eq_some_iff.mp hi
  split at hline
  · rw [← Option.some.inj hline, rowId]
    split
    · exact rowBase_ne_nil host line
    · intro hnil
      exact rowBase_ne_nil host line (List.append_eq_nil_iff.mp hnil).1
  · cases hline

theorem wireEntries_id_ne_nil : ∀ entry ∈ wireEntries host agent data, entry.id ≠ [] := by
  intro entry hentry
  obtain ⟨row, hrow, rfl⟩ := List.mem_map.mp hentry
  show row.id ≠ []
  exact id_ne_nil hrow

/-- **A cursor is found where it was taken**, since no earlier entry has its id. -/
theorem cursorEnd_id {entries : List Entry} (hnodup : (entries.map Entry.id).Nodup)
    (hid : ∀ entry ∈ entries, entry.id ≠ []) {i : Nat} {entry : Entry}
    (h : entries[i]? = some entry) : cursorEnd entries entry.id = some i := by
  have hempty : entry.id.isEmpty = false := by simpa using hid entry (List.mem_of_getElem? h)
  rw [cursorEnd, hempty, if_neg (by decide), List.findIdx?_eq_some_iff_getElem]
  obtain ⟨hi, hget⟩ := List.getElem?_eq_some_iff.mp h
  refine ⟨hi, by rw [hget]; exact decide_eq_true rfl, ?_⟩
  intro j hj
  simp only [decide_eq_true_eq]
  intro heq
  apply List.nodup_iff_getElem?_ne_getElem?.mp hnodup j i hj (by rwa [List.length_map])
  rw [List.getElem?_map, List.getElem?_map, List.getElem?_eq_getElem (by omega), h,
    Option.map_some, Option.map_some, heq]

/-- **Every page of a walk is spared**: the ones that end at `stop` and at each page limit before
it, as they are read. -/
def WalkSpared (host : Host) (src : Sources) (scope : BrowseScope) (limit : Int)
    (entries : List Entry) (stop : Nat) : Prop :=
  ∀ k before page, k = 0 ∨ k * pageLimit (requestLimit limit) < stop →
    cursorEnd entries before = some (stop - k * pageLimit (requestLimit limit)) →
    readScope host src scope before limit = .ok page → Spared (rawPage host src page false)

/-- The pages of a walk: the first one, and those of the walk on from it. -/
theorem walkSpared_iff {entries : List Entry} {before : Text} {stop : Nat} {page : Page}
    (honly : ∀ other, cursorEnd entries other = some stop → other = before)
    (hcursor : cursorEnd entries before = some stop)
    (hpage : readScope host src scope before limit = .ok page) :
    WalkSpared host src scope limit entries stop ↔
      Spared (rawPage host src page false) ∧ (0 < stop - pageLimit (requestLimit limit) →
        WalkSpared host src scope limit entries (stop - pageLimit (requestLimit limit))) := by
  constructor
  · intro h
    refine ⟨h 0 before page (.inl rfl) (by rw [Nat.zero_mul]; exact hcursor) hpage, ?_⟩
    intro hpos k other older hk hother hread
    have hsucc := Nat.add_one_mul k (pageLimit (requestLimit limit))
    refine h (k + 1) other older (.inr ?_) ?_ hread
    · rcases hk with rfl | hk <;> omega
    · rw [hother, hsucc, Nat.sub_sub, Nat.add_comm]
  · rintro ⟨hfirst, hrest⟩ k other older hk hother hread
    cases k with
    | zero =>
      rw [Nat.zero_mul] at hother
      rw [honly other hother, hpage] at hread
      rwa [← Except.ok.inj hread]
    | succ k =>
      have hsucc := Nat.add_one_mul k (pageLimit (requestLimit limit))
      have hlt := hk.resolve_left (Nat.succ_ne_zero k)
      refine hrest (by omega) k other older (.inr (by omega)) ?_ hread
      rw [hother, hsucc, Nat.sub_sub, Nat.add_comm]

theorem cursorEnd_unique {entries : List Entry} {stop : Nat} {before other : Text}
    (h : cursorEnd entries before = some stop) (h' : cursorEnd entries other = some stop) :
    other = before := by
  unfold cursorEnd at h h'
  split at h <;> split at h'
  · next hempty hempty' =>
    rw [List.isEmpty_iff.mp hempty, List.isEmpty_iff.mp hempty']
  · obtain rfl := Option.some.inj h
    obtain ⟨hlt, -, -⟩ := List.findIdx?_eq_some_iff_getElem.mp h'
    omega
  · obtain rfl := Option.some.inj h'
    obtain ⟨hlt, -, -⟩ := List.findIdx?_eq_some_iff_getElem.mp h
    omega
  · obtain ⟨_, hid, -⟩ := List.findIdx?_eq_some_iff_getElem.mp h
    obtain ⟨_, hid', -⟩ := List.findIdx?_eq_some_iff_getElem.mp h'
    exact (of_decide_eq_true hid').symm.trans (of_decide_eq_true hid)

/-- **The walk from a cursor ends, and lists what is before it** exactly where its pages are
spared. -/
theorem pageWalk_from {describe : ReadError → Text} {entries : List Entry}
    (hnodup : (entries.map Entry.id).Nodup) (hid : ∀ entry ∈ entries, entry.id ≠ [])
    (hreads : ∀ (cursor : Option Text) stop, cursorEnd entries (cursor.getD []) = some stop →
      ∃ page, readScope host src scope (cursor.getD []) limit = .ok page ∧
        readPageSync host src describe ⟨scope, cursor, limit⟩ =
          enforcePageBudget (rawPage host src page false) ∧
        Reads entries (cursor.getD []) (requestLimit limit) (rawPage host src page false))
    (stop : Nat) :
    ∀ cursor : Option Text, cursorEnd entries (cursor.getD []) = some stop →
      ∃ n pages, pageWalk host src describe scope limit n cursor = some pages ∧
        (prepended pages).length ≤ stop ∧
        (prepended pages = (entries.take stop).map Entry.id ↔
          WalkSpared host src scope limit entries stop) := by
  induction stop using Nat.strong_induction_on with
  | _ stop ih =>
    intro cursor hcursor
    obtain ⟨page, hread, hanswer, hraw⟩ := hreads cursor stop hcursor
    obtain ⟨stop', hstop, hpage, hmore, hnext⟩ := hraw.content
    obtain rfl : stop' = stop := Option.some.inj (hstop.symm.trans hcursor)
    have htrimmed := (enforcePageBudget_spec (rawPage host src page false)).2.1
    have hwhole := enforcePageBudget_whole_iff (rawPage host src page false)
    have hwalkSpared := walkSpared_iff (fun _ => cursorEnd_unique hcursor) hcursor hread
    have hle := cursorEnd_le hcursor
    have hlimit := pageLimit_pos (requestLimit limit)
    have hsplit := congrArg (List.map Entry.id)
      (take_append_pageEntries entries stop' (requestLimit limit))
    have hprefix := htrimmed.ids
    have hshort := hprefix.length_le
    rw [List.map_append] at hsplit
    rw [hpage] at hprefix hwhole hshort
    have hlength := congrArg List.length hsplit
    simp only [List.length_append, List.length_map, List.length_take] at hlength hshort
    rw [hwalkSpared, ← hwhole, ← hsplit]
    by_cases hpos : 0 < stop' - pageLimit (requestLimit limit)
    · -- the next page ends where this one begins
      obtain ⟨first, hfirst, hhead⟩ := head?_pageEntries hle hpos
      rw [decide_eq_true hpos] at hmore
      rw [hmore, if_pos rfl, hpage, hhead] at hnext
      obtain ⟨n, pages, hwalk, hrest, hlist⟩ := ih _ (by omega) (some first.id)
        (cursorEnd_id hnodup hid hfirst)
      refine ⟨n + 1, readPageSync host src describe ⟨scope, cursor, limit⟩ :: pages, ?_, ?_, ?_⟩
      · rw [pageWalk]
        simp only [hanswer, htrimmed.hasMore, htrimmed.nextCursor, hmore, if_true, hnext,
          Option.map_some, Option.getD_some, hwalk]
      · rw [prepended_cons, hanswer, List.length_append, List.length_map]
        omega
      · rw [prepended_cons, hanswer, ← hlist, forall_prop_of_true hpos]
        constructor
        · intro heq
          have hlengths := congrArg List.length heq
          simp only [List.length_append, List.length_map, List.length_take] at hlengths
          obtain ⟨hleft, hright⟩ := List.append_inj heq (by
            rw [List.length_map, List.length_take]
            omega)
          exact ⟨hright, hleft⟩
        · rintro ⟨hright, hleft⟩
          rw [hleft, hright]
    · have hzero : stop' - pageLimit (requestLimit limit) = 0 := by omega
      refine ⟨1, [readPageSync host src describe ⟨scope, cursor, limit⟩], ?_, ?_, ?_⟩
      · rw [decide_eq_false hpos] at hmore
        rw [pageWalk]
        simp only [hanswer, htrimmed.hasMore, hmore, Bool.false_eq_true, if_false]
      · rw [prepended_cons, hanswer, prepended, List.foldl_nil, List.nil_append, List.length_map]
        omega
      · rw [prepended_cons, hanswer, prepended, List.foldl_nil, List.nil_append, hzero,
          List.take_zero, List.map_nil, List.nil_append]
        exact (and_iff_left fun habsurd => absurd habsurd (Nat.lt_irrefl 0)).symm

theorem pageWalk_singleFile (describe : ReadError → Text)
    (h : SingleFile host src scope agent data) (hsize : data.length ≤ maxConversationBytes) :
    ∃ n pages, pageWalk host src describe scope limit n none = some pages ∧
      (prepended pages = (parseTranscript host agent data).map Entry.id ↔
        WalkSpared host src scope limit (parseTranscript host agent data)
          (parseTranscript host agent data).length) := by
  have hids := wireEntries_ids host agent data
  obtain ⟨n, pages, hwalk, -, hlist⟩ := pageWalk_from (hids ▸ nodup_ids host agent data)
    wireEntries_id_ne_nil (fun _ _ => reads_singleFile h hsize describe) _ none rfl
  have hlength : (wireEntries host agent data).length = (parseTranscript host agent data).length :=
    List.length_map _
  have hsame : WalkSpared host src scope limit (wireEntries host agent data)
      (wireEntries host agent data).length ↔
        WalkSpared host src scope limit (parseTranscript host agent data)
          (parseTranscript host agent data).length := by
    simp only [WalkSpared, cursorEnd_wireEntries, hlength]
  rw [List.take_length, hids, hsame] at hlist
  exact ⟨n, pages, hwalk, hlist⟩

/-- **Paging.** Over a transcript in one file, within the tail limit, the walk comes to an end. It
lists every entry once, in the transcript's order, exactly where none of its pages loses one to the
budget. -/
theorem paging_complete (host : Host) (src : Sources) (describe : ReadError → Text)
    (scope : BrowseScope) (agent : Text) (data : Bytes) (limit : Int)
    (h : SingleFile host src scope agent data) (hsize : data.length ≤ maxConversationBytes) :
    ∃ n pages, pageWalk host src describe scope limit n none = some pages ∧
      ((parseTranscript host agent data).map Entry.id).Nodup ∧
      (prepended pages = (parseTranscript host agent data).map Entry.id ↔
        WalkSpared host src scope limit (parseTranscript host agent data)
          (parseTranscript host agent data).length) := by
  obtain ⟨n, pages, hwalk, hlist⟩ := pageWalk_singleFile describe h hsize
  exact ⟨n, pages, hwalk, nodup_ids host agent data, hlist⟩

end Complete

/-! ## §3 — a page over the budget -/

/-- One transcript of the codex agent, at `/t`. -/
def sampleSources (data : Bytes) : Sources where
  fs :=
    { node := fun ino =>
        match ino with
        | ⟨0, 1⟩ => some (.dir [(Utf8.bytes ['t'], ⟨0, 2⟩)])
        | ⟨0, 2⟩ => some (.file ⟨data, 0, 0⟩)
        | _ => none
      root := ⟨0, 1⟩
      cwd := []
      cwd_leads := .nil }
  locate _ _ _ := ⟨['/', 't'], ['/'], []⟩
  omoLocate _ _ := .error "invalid_session"
  omoVerify _ _ _ := false
  omoTodo _ _ := (none, false)
  devinLocate _ := ⟨['/', 't'], ['/'], []⟩
  unmodelled _ _ _ _ _ := .error .log

def sampleScope : BrowseScope := ⟨"codex".toList, [], [], ['s']⟩

theorem scopeAgent_sample : scopeAgent sampleHost sampleScope = "codex".toList := by
  decide +kernel

theorem provider_sample : providerOf sampleHost (scopeAgent sampleHost sampleScope) = some .flat :=
  by decide +kernel

theorem session_sample : scopeSession sampleHost sampleScope ≠ [] := by decide +kernel

theorem open_sample (data : Bytes) : (sampleSources data).fs.openNoFollow (Utf8.bytes ['/', 't']) =
    some (⟨0, 2⟩, ⟨data, 0, 0⟩) := rfl

theorem singleFile_sample (data : Bytes) :
    SingleFile sampleHost (sampleSources data) sampleScope "codex".toList data := by
  rw [← scopeAgent_sample]
  exact .flat provider_sample session_sample rfl (show (['/', 't'] : Text) ≠ [] by decide)
    (open_sample data)

/-- Every page of the sample is one of its entries' pages. -/
theorem readScope_sample {data : Bytes} {before : Text} {limit : Int} {page : Page}
    (hsize : data.length ≤ maxConversationBytes)
    (h : readScope sampleHost (sampleSources data) sampleScope before limit = .ok page) :
    ∃ stop ≤ (parseTranscript sampleHost "codex".toList data).length,
      page = { pageAt (parseTranscript sampleHost "codex".toList data) stop (requestLimit limit)
        false with
          sourcePath := ['/', 't']
          probePath := ['/', 't'] } := by
  rw [readScope_located provider_sample (.inl rfl) session_sample
    (@rfl _ (⟨['/', 't'], ['/'], []⟩ : Location)) (by decide), if_neg (by decide),
    scopeAgent_sample, flatRead, open_sample] at h
  simp only [loadTail_whole hsize] at h
  refine ⟨_, ?_, (Except.ok.inj h).symm⟩
  cases hcursor : cursorEnd (parseTranscript sampleHost "codex".toList data) before with
  | none => exact Nat.le_refl _
  | some stop => exact cursorEnd_le hcursor

def threeMessages : Bytes := terminate newline threeLines

/-- Two pages list three messages. -/
theorem paging_complete_sample :
    ∃ n pages, pageWalk sampleHost (sampleSources threeMessages) (fun _ => []) sampleScope 2 n none
        = some pages ∧
      prepended pages = (parseTranscript sampleHost "codex".toList threeMessages).map Entry.id := by
  have hsize : threeMessages.length ≤ maxConversationBytes := by decide +kernel
  obtain ⟨n, pages, hwalk, -, hiff⟩ := paging_complete sampleHost (sampleSources threeMessages)
    (fun _ => []) sampleScope "codex".toList _ 2 (singleFile_sample _) hsize
  refine ⟨n, pages, hwalk, hiff.mpr ?_⟩
  intro k before page _ _ hpage
  obtain ⟨stop, hstop, rfl⟩ := readScope_sample hsize hpage
  have hall : ∀ stop ≤ (parseTranscript sampleHost "codex".toList threeMessages).length,
      pageSize (rawPage sampleHost (sampleSources threeMessages)
        { pageAt (parseTranscript sampleHost "codex".toList threeMessages) stop (requestLimit 2)
            false with
          sourcePath := ['/', 't']
          probePath := ['/', 't'] } false) ≤ responseBytes := by
    decide +kernel
  exact .fits (hall stop hstop)

/-- A message with a timestamp. -/
def stampedRecord (timestamp : Text) : Json :=
  .obj [("timestamp".toList, .str timestamp), ("type".toList, .str "response_item".toList),
    ("payload".toList, .obj [("type".toList, .str "message".toList),
      ("role".toList, .str "assistant".toList), ("content".toList, .str ['a'])])]

/-- The members of such a message, as they are read. -/
def stampedMembers (timestamp : Text) : Record :=
  [("timestamp".toList, .string timestamp), ("type".toList, .string "response_item".toList),
    ("payload".toList, .object [("type".toList, .string "message".toList),
      ("role".toList, .string "assistant".toList), ("content".toList, .string ['a'])])]

theorem recordOf_stamped (timestamp : Text) :
    recordOf sampleHost (Utf8.bytes (Json.print serdeEscape (stampedRecord timestamp))) =
      some (stampedMembers timestamp) := by
  have hbrace : (Utf8.bytes (Json.print serdeEscape (stampedRecord timestamp))).all
      isAsciiWhitespace = false := rfl
  have hslice : sampleHost.fromSlice
      (Utf8.bytes (Json.print serdeEscape (stampedRecord timestamp))) =
        some (.object (stampedMembers timestamp)) := by
    show ((Utf8.decode _).bind Json.parse).map Value.ofJson = _
    rw [Utf8.decode_bytes, Option.bind_some, Json.parse_print escapes_serdeEscape]
    rfl
  rw [recordOf, hbrace, if_neg (by decide), hslice]
  rfl

/-- The timestamp is taken as it is. -/
theorem entryOf_stamped (timestamp : Text) :
    entryOf sampleHost .codex (stampedMembers timestamp) =
      some ⟨[], timestamp, "assistant".toList, ['a'], [], false⟩ := by
  have htools : parseToolActivity sampleHost .codex (stampedMembers timestamp) = ([], []) := rfl
  have hvisible : visibleRecord .codex (stampedMembers timestamp) =
      ("assistant".toList, timestamp, ['a']) := rfl
  have hclean : sanitizeText ['a'] = ['a'] := by decide
  have hclamp : clampText ['a'] maxEntryBytes = (['a'], false) := by decide
  unfold entryOf
  rw [htools, hvisible]
  simp [hclean, hclamp, normalizeEntryTools]

/-- A timestamp longer than an answer may be. -/
def longStamp : Text := List.replicate (responseBytes + 1) 'a'

/-- A transcript of one message. -/
def stampedFile : Bytes := Utf8.bytes (Json.print serdeEscape (stampedRecord longStamp))

/-- What is around the timestamp. -/
def aroundStamp : Text × Text :=
  ("\x7b\"timestamp\":\"".toList,
    ("\",\"type\":\"response_item\",\"payload\":\x7b\"type\":\"message\"," ++
      "\"role\":\"assistant\",\"content\":\"a\"\x7d\x7d").toList)

theorem stampedFile_eq : stampedFile = Utf8.bytes aroundStamp.1 ++
    (List.replicate (responseBytes + 1) 97 ++ Utf8.bytes aroundStamp.2) := by
  have hprint : ∀ timestamp : Text, Json.print serdeEscape (stampedRecord timestamp) =
      aroundStamp.1 ++ (timestamp.flatMap serdeEscape ++ aroundStamp.2) := by
    intro timestamp
    simp only [stampedRecord, Json.print, Json.printMembers, Json.literal, List.append_assoc,
      List.cons_append]
    rfl
  have hbytes : Utf8.bytes (longStamp.flatMap serdeEscape) =
      List.replicate (responseBytes + 1) 97 := by
    rw [longStamp, List.flatMap_replicate, show serdeEscape 'a' = ['a'] by decide,
      List.flatten_replicate_singleton, Utf8.bytes, List.flatMap_replicate,
      show String.utf8EncodeChar 'a' = [97] by rfl, List.flatten_replicate_singleton]
  rw [stampedFile, hprint, Utf8.bytes_append, Utf8.bytes_append, hbytes]

theorem length_stampedFile : stampedFile.length ≤ maxConversationBytes := by
  have haround : (Utf8.bytes aroundStamp.1).length = 14 ∧ (Utf8.bytes aroundStamp.2).length = 87 :=
    by decide +kernel
  rw [stampedFile_eq, List.length_append, List.length_append, haround.1, haround.2,
    List.length_replicate]
  decide

theorem timestamps_stampedFile :
    (parseTranscript sampleHost "codex".toList stampedFile).map Entry.timestamp = [longStamp] := by
  have hline : newline ∉ stampedFile := by
    have haround : newline ∉ Utf8.bytes aroundStamp.1 ∧ newline ∉ Utf8.bytes aroundStamp.2 := by
      decide +kernel
    rw [stampedFile_eq]
    simp only [List.mem_append, List.mem_replicate, not_or]
    exact ⟨haround.1, fun h => absurd h.2 (by decide), haround.2⟩
  have hagent : normalizedAgent sampleHost "codex".toList = "codex".toList := by decide +kernel
  have hgrammar : grammarOf "codex".toList = .codex := rfl
  have htools : parseToolActivity sampleHost .codex (stampedMembers longStamp) = ([], []) := rfl
  rw [parseTranscript, hagent, List.splitOn_eq_singleton hline, List.foldl_cons, List.foldl_nil,
    parseLine, stampedFile, recordOf_stamped]
  simp only [hgrammar, htools, List.foldl_nil, entryOf_stamped, pushEntry, Parse.start,
    List.nil_append, List.map_cons, List.map_nil]

/-- **A page over the budget loses entries.** The message is all there is, but its timestamp does
not fit into an answer: the walk ends, and the message is not in it. -/
theorem large_page_loses_entries :
    SingleFile sampleHost (sampleSources stampedFile) sampleScope "codex".toList stampedFile ∧
      stampedFile.length ≤ maxConversationBytes ∧
      ∃ n pages, pageWalk sampleHost (sampleSources stampedFile) (fun _ => []) sampleScope 0 n
          none = some pages ∧
        prepended pages ≠ (parseTranscript sampleHost "codex".toList stampedFile).map
          Entry.id := by
  have hsingle := singleFile_sample stampedFile
  obtain ⟨n, pages, hwalk, hlist⟩ := pageWalk_singleFile (fun _ => []) hsingle length_stampedFile
  refine ⟨hsingle, length_stampedFile, n, pages, hwalk, fun hall => ?_⟩
  have hstamps := timestamps_stampedFile
  obtain ⟨page, hread, -, hentries, -⟩ := read_singleFile hsingle length_stampedFile 0
    (show cursorEnd _ [] = some _ from rfl)
  generalize parseTranscript sampleHost "codex".toList stampedFile = entries
    at hlist hall hstamps hentries
  obtain ⟨entry, rfl, hstamp⟩ := List.map_eq_singleton_iff.mp hstamps
  -- the one page has the message
  have hspared := hlist.mp hall 0 [] page (.inl rfl) rfl hread
  have hfits := hspared.timestamps_le longStamp (by
    show longStamp ∈ (page.entries.map fun entry => (normalizeEntryTools entry).1).map _
    rw [hentries, ← hstamp]
    exact List.mem_cons_self)
  rw [longStamp, List.length_replicate] at hfits
  omega

end Lerdr.Conversation
