/-
# Lerdr.Terminal.Linkify — links in the terminal view (`TerminalLinkify.kt`).

The path of a link is normalised as a browser would: `.` and `..` segments are resolved, and an
empty segment is a segment like any other. `normalizePath` keeps its output with the empty text
before the first slash at the bottom, and does not remove an empty text, so that it does not remove
an empty segment either; and where a final `..` leaves an empty text at the end, it takes that for
the trailing slash (`normalizePath_empty_segment`). One segment too many may be made up for by a
final `..`, which then adds no slash (`CatchesUp`); two never are (`Lost.ne`).
-/
import Lerdr.Kotlin.Runtime
import Lerdr.Lib.PrefixCode

namespace Lerdr.Terminal

open Lib Lerdr.Kotlin

/-! ## §1 — paths -/

def slash : UInt16 := 47

/-- `lowercase`, of a unit. No other letter becomes one of `%2e`. -/
def lowercase (u : UInt16) : UInt16 := if 65 ≤ u ∧ u ≤ 90 then u + 32 else u

/-- `replace("%2e", ".")`. -/
def replaceDots : Units → Units
  | 37 :: 50 :: 101 :: rest => 46 :: replaceDots rest
  | u :: rest => u :: replaceDots rest
  | [] => []

/-- `decoded` of a segment. -/
def decoded (segment : Units) : Units := replaceDots (segment.map lowercase)

/-- What `..` removes. -/
def popSegment (output : List Units) : List Units :=
  if output ≠ [] ∧ output.getLast? ≠ some [] then output.dropLast else output

/-- The body of the loop of `normalizePath`. -/
def putSegment (isLast : Bool) (output : List Units) (segment : Units) : List Units :=
  if decoded segment = [46, 46] then
    if isLast ∧ (popSegment output = [] ∨ (popSegment output).getLast? ≠ some []) then
      popSegment output ++ [[]]
    else popSegment output
  else if decoded segment = [46] then if isLast then output ++ [[]] else output
  else output ++ [segment]

/-- A loop over segments that knows the last one. -/
def forSegments (body : Bool → List Units → Units → List Units) :
    List Units → List Units → List Units
  | output, [] => output
  | output, segment :: rest => forSegments body (body rest.isEmpty output segment) rest

def normalizePath (path : Units) : Units :=
  [slash].intercalate (forSegments putSegment [] (path.splitOn slash))

/-- The URL standard's path state: `..` shortens the path, and a final dot segment leaves an empty
one. -/
def standardSegment (isLast : Bool) (path : List Units) (segment : Units) : List Units :=
  if decoded segment = [46, 46] then path.dropLast ++ if isLast then [[]] else []
  else if decoded segment = [46] then path ++ if isLast then [[]] else []
  else path ++ [segment]

/-- The standard's path for what follows the first slash, each segment behind a slash. -/
def standardPath (rest : Units) : Units :=
  [slash].intercalate ([] :: forSegments standardSegment [] (rest.splitOn slash))

/-- **Where a path that lost an empty segment comes back to the standard's.** The code kept the
segment between `base` and `above`, where the standard removed it. From there on no `..` may meet an
empty segment or reach into `base`, and a final `..` has to find nothing at all, or a segment over
nothing but empty ones. -/
def CatchesUp : List Units → List Units → List Units → Prop
  | _, _, [] => False
  | base, above, [last] =>
    decoded last = [46, 46] ∧
      (base = [] ∧ above = [] ∨ ∃ n top, top ≠ [] ∧ above = List.replicate n [] ++ [top])
  | base, above, segment :: next :: rest =>
    (decoded segment = [46, 46] → above.getLast? ≠ some [] ∧ (above = [] → base = [])) ∧
      CatchesUp base (standardSegment false above segment) (next :: rest)

/-- **Where the code follows the standard**, whose segments so far are `path`: no `..` meets an
empty segment, unless the two come together again; and a final one meets an empty segment or leaves
one that is not. -/
def InStep : List Units → List Units → Prop
  | _, [] => True
  | path, [last] =>
    decoded last = [46, 46] → path.getLast? = some [] ∨ path.dropLast.getLast?.any (· ≠ [])
  | path, segment :: next :: rest =>
    if decoded segment = [46, 46] ∧ path.getLast? = some [] then
      CatchesUp path.dropLast [] (next :: rest)
    else InStep (standardSegment false path segment) (next :: rest)

/-- No dot segment, and no slash in it. -/
structure Kept (segment : Units) : Prop where
  double : decoded segment ≠ [46, 46]
  single : decoded segment ≠ [46]
  no_slash : slash ∉ segment

section Segments

variable {isLast : Bool} {output path segments : List Units} {segment : Units}

/-- Any segment but `..` adds the same to both. -/
theorem exists_added (isLast : Bool) (h : decoded segment ≠ [46, 46]) :
    ∃ added, ∀ output, putSegment isLast output segment = output ++ added ∧
      standardSegment isLast output segment = output ++ added := by
  by_cases hsingle : decoded segment = [46]
  · refine ⟨if isLast then [[]] else [], fun output => ?_⟩
    cases isLast <;> simp [putSegment, standardSegment, hsingle]
  · exact ⟨[segment], fun output => by simp [putSegment, standardSegment, h, hsingle]⟩

theorem standardSegment_double (isLast : Bool) (h : decoded segment = [46, 46])
    (path : List Units) : standardSegment isLast path segment =
      path.dropLast ++ if isLast then [[]] else [] := by
  rw [standardSegment, if_pos h]

/-- What the code does with `..`, over the empty text of the first slash. -/
theorem putSegment_double (isLast : Bool) (h : decoded segment = [46, 46]) (init : List Units)
    (last : Units) : putSegment isLast ([] :: (init ++ [last])) segment =
      [] :: if last = [] then init ++ [last]
        else init ++ if isLast ∧ init.getLast?.any (· ≠ []) then [[]] else [] := by
  have hpop : popSegment ([] :: (init ++ [last])) =
      if last = [] then [] :: (init ++ [last]) else [] :: init := by
    rw [popSegment, ← List.cons_append, List.getLast?_concat, List.dropLast_concat]
    simp
  rw [putSegment, if_pos h, hpop]
  by_cases hlast : last = []
  · rw [if_pos hlast, if_pos hlast, if_neg]
    rw [← List.cons_append, List.getLast?_concat, hlast]
    simp
  · rw [if_neg hlast, if_neg hlast]
    cases hbefore : init.getLast? with
    | none => simp [List.getLast?_eq_none_iff.mp hbefore]
    | some before =>
      by_cases hfinal : isLast = true ∧ before ≠ [] <;>
        simp [List.getLast?_cons, hbefore, hfinal]

/-- The same over an empty segment that the standard has not. -/
theorem putSegment_double_above (isLast : Bool) (h : decoded segment = [46, 46])
    (base above : List Units) (top : Units) :
    putSegment isLast ([] :: (base ++ [] :: above.concat top)) segment =
      [] :: if top = [] then base ++ [] :: above.concat top else base ++ [] :: above ++
        if isLast ∧ ([] :: above).getLast?.any (· ≠ []) then [[]] else [] := by
  have hput := putSegment_double isLast h (base ++ [] :: above) top
  rwa [List.append_assoc, List.cons_append, ← List.concat_eq_append,
    List.getLast?_append_of_ne_nil _ (List.cons_ne_nil _ _)] at hput

theorem putSegment_root (isLast : Bool) (h : decoded segment = [46, 46]) :
    putSegment isLast [[]] segment = [[]] := by
  simp [putSegment, h, popSegment]

/-- The code's output has two segments more than the standard's path: below the end `above` that
they share, it ends in an empty one. -/
def Lost (output path : List Units) : Prop :=
  ∃ base below above, below.length < base.length ∧ output = [] :: (base ++ [] :: above) ∧
    path = below ++ above

theorem Lost.step (h : Lost output path) (segment : Units) :
    Lost (putSegment false output segment) (standardSegment false path segment) := by
  obtain ⟨base, below, above, hlt, rfl, rfl⟩ := h
  by_cases hdouble : decoded segment = [46, 46]
  · rw [standardSegment_double _ hdouble]
    rcases List.eq_nil_or_concat above with rfl | ⟨above, top, rfl⟩
    · refine ⟨base, below.dropLast, [], ?_, ?_, by simp⟩
      · rw [List.length_dropLast]
        omega
      · rw [putSegment_double _ hdouble, if_pos rfl]
    · rw [putSegment_double_above _ hdouble, List.concat_eq_append]
      by_cases htop : top = []
      · exact ⟨base ++ [] :: above, below ++ above, [], by simp; omega, by simp [htop], by simp⟩
      · exact ⟨base, below, above, hlt, by simp [htop], by simp [← List.append_assoc]⟩
  · obtain ⟨added, hadded⟩ := exists_added false hdouble
    exact ⟨base, below, above ++ added, hlt, by simp [hadded], by simp [hadded]⟩

theorem length_putSegment_le :
    (putSegment false output segment).length ≤ (putSegment true output segment).length := by
  unfold putSegment
  split_ifs <;> simp_all

theorem length_standardSegment_le : (standardSegment true path segment).length ≤
    (standardSegment false path segment).length + 1 := by
  simp only [standardSegment]
  split_ifs <;> simp

/-- **Two segments are never made up for**: the last one of a path accounts for one. -/
theorem Lost.ne (h : Lost output path) (hne : segments ≠ []) :
    forSegments putSegment output segments ≠ [] :: forSegments standardSegment path segments := by
  induction segments generalizing output path with
  | nil => exact absurd rfl hne
  | cons segment rest ih =>
    have hstep := h.step segment
    cases rest with
    | cons next rest => exact ih hstep (List.cons_ne_nil _ _)
    | nil =>
      obtain ⟨base, below, above, hlt, houtput, hpath⟩ := hstep
      have hput := @length_putSegment_le output segment
      have hstandard := @length_standardSegment_le path segment
      rw [houtput] at hput
      rw [hpath] at hstandard
      simp only [List.length_cons, List.length_append] at hput hstandard
      intro heq
      have hlength := congrArg List.length heq
      simp only [forSegments, List.isEmpty_nil, List.length_cons] at hlength
      omega

theorem cons_eq_concat_iff {α : Type*} {a : α} {l : List α} :
    a :: l = l ++ [a] ↔ ∀ b ∈ l, b = a := by
  induction l with
  | nil => simp
  | cons b l ih =>
    rw [List.cons_append, List.cons.injEq, List.forall_mem_cons]
    refine ⟨?_, ?_⟩
    · rintro ⟨rfl, hrest⟩
      exact ⟨rfl, ih.mp hrest⟩
    · rintro ⟨rfl, hrest⟩
      exact ⟨rfl, ih.mpr hrest⟩

/-- The last `..` of a path that lost one empty segment. -/
theorem putSegment_behind (h : decoded segment = [46, 46]) (base above : List Units) :
    putSegment true ([] :: (base ++ [] :: above)) segment =
        [] :: standardSegment true (base ++ above) segment ↔
      base = [] ∧ above = [] ∨ ∃ n top, top ≠ [] ∧ above = List.replicate n [] ++ [top] := by
  rw [standardSegment_double _ h]
  rcases List.eq_nil_or_concat above with rfl | ⟨above, top, rfl⟩
  · have hbase : base = base.dropLast ↔ base = [] := by
      refine ⟨fun heq => ?_, fun heq => by rw [heq]; rfl⟩
      have hlength := congrArg List.length heq
      rw [List.length_dropLast] at hlength
      exact List.length_eq_zero_iff.mp (by omega)
    rw [putSegment_double _ h]
    simp [hbase]
  · have hright : (base = [] ∧ above ++ [top] = [] ∨
        ∃ n top', top' ≠ [] ∧ above ++ [top] = List.replicate n [] ++ [top']) ↔
        top ≠ [] ∧ ∀ segment ∈ above, segment = [] := by
      simp only [List.append_eq_nil_iff, List.cons_ne_nil, and_false, false_or]
      refine ⟨?_, fun ⟨htop, hall⟩ => ⟨_, top, htop, by rw [← List.eq_replicate_of_mem hall]⟩⟩
      rintro ⟨n, top', htop, heq⟩
      obtain ⟨rfl, hsingle⟩ := List.append_inj' heq rfl
      obtain rfl := List.singleton_inj.mp hsingle
      exact ⟨htop, fun _ => List.eq_of_mem_replicate⟩
    rw [putSegment_double_above _ h, List.concat_eq_append, hright, ← List.append_assoc base above,
      List.dropLast_concat]
    by_cases htop : top = []
    · -- the segment stays where the standard removes it
      refine iff_of_false (fun heq => ?_) fun h => h.1 htop
      have hlength := congrArg List.length heq
      simp [htop] at hlength
    · rw [if_neg htop]
      by_cases hbefore : ([] :: above).getLast?.any (· ≠ []) = true
      · rw [if_pos ⟨rfl, hbefore⟩]
        refine iff_of_false (fun heq => ?_) fun h => ?_
        · have hlength := congrArg List.length heq
          simp at hlength
        · obtain ⟨last, hlast, hne⟩ := (Option.any_eq_true _ _).mp hbefore
          obtain rfl | hmem := List.mem_cons.mp (List.mem_of_getLast? hlast)
          · simp at hne
          · simp [h.2 last hmem] at hne
      · rw [if_neg (fun h => hbefore h.2), List.append_nil, if_pos rfl, List.cons.injEq,
          List.append_assoc, List.append_cancel_left_eq, cons_eq_concat_iff]
        simp [htop]

/-- **The code, with one empty segment more, comes back to the standard's path.** -/
theorem forSegments_behind (base above : List Units) :
    forSegments putSegment ([] :: (base ++ [] :: above)) segments =
        [] :: forSegments standardSegment (base ++ above) segments ↔
      CatchesUp base above segments := by
  induction segments generalizing base above with
  | nil => simp [forSegments, CatchesUp]
  | cons segment rest ih =>
    rw [forSegments, forSegments]
    by_cases hdouble : decoded segment = [46, 46]
    · cases rest with
      | nil => simpa [forSegments, CatchesUp, hdouble] using putSegment_behind hdouble base above
      | cons next rest =>
        have hlost : ∀ {output path}, Lost output path →
            ¬ forSegments putSegment output (next :: rest) =
              [] :: forSegments standardSegment path (next :: rest) :=
          fun h => h.ne (List.cons_ne_nil _ _)
        rw [CatchesUp, List.isEmpty_cons, standardSegment_double _ hdouble,
          standardSegment_double _ hdouble]
        rcases List.eq_nil_or_concat above with rfl | ⟨above, top, rfl⟩
        · rw [putSegment_double _ hdouble, if_pos rfl]
          by_cases hbase : base = []
          · subst hbase
            simpa [hdouble] using ih [] []
          · refine iff_of_false (hlost ⟨base, base.dropLast, [], ?_, rfl, by simp⟩) fun h =>
              hbase ((h.1 hdouble).2 rfl)
            have := List.length_pos_of_ne_nil hbase
            rw [List.length_dropLast]
            omega
        · rw [putSegment_double_above _ hdouble, List.concat_eq_append]
          by_cases htop : top = []
          · subst htop
            refine iff_of_false (hlost ⟨base ++ [] :: above, base ++ above, [], ?_, ?_, ?_⟩) ?_
            · simp
            · simp
            · simp [← List.append_assoc]
            · exact fun h => (h.1 hdouble).1 List.getLast?_concat
          · rw [List.dropLast_concat, ← List.append_assoc, List.dropLast_concat]
            simpa [hdouble, htop] using ih base above
    · obtain ⟨added, hadded⟩ := exists_added rest.isEmpty hdouble
      rw [(hadded _).1, (hadded _).2]
      cases rest with
      | nil => simp [forSegments, CatchesUp, hdouble]
      | cons next rest =>
        rw [CatchesUp, ← List.isEmpty_cons, (hadded above).2, ← ih base (above ++ added)]
        simp [hdouble]

/-- **Where the code follows the standard.** -/
theorem forSegments_inStep (path : List Units) :
    forSegments putSegment ([] :: path) segments = [] :: forSegments standardSegment path segments ↔
      InStep path segments := by
  induction segments generalizing path with
  | nil => simp [forSegments, InStep]
  | cons segment rest ih =>
    rw [forSegments, forSegments]
    by_cases hdouble : decoded segment = [46, 46]
    · rw [standardSegment_double _ hdouble]
      rcases List.eq_nil_or_concat path with rfl | ⟨init, last, rfl⟩
      · rw [putSegment_root _ hdouble]
        cases rest with
        | nil => simp [forSegments, InStep, hdouble]
        | cons next rest => simpa [InStep, hdouble, standardSegment_double] using ih []
      · rw [List.concat_eq_append, putSegment_double _ hdouble, List.dropLast_concat]
        by_cases hlast : last = []
        · subst hlast
          rw [if_pos rfl]
          cases rest with
          | nil => simp [forSegments, InStep, hdouble]
          | cons next rest =>
            have hslip : InStep (init ++ [[]]) (segment :: next :: rest) ↔
                CatchesUp init [] (next :: rest) := by
              rw [InStep, if_pos ⟨hdouble, List.getLast?_concat⟩, List.dropLast_concat]
            rw [hslip, ← forSegments_behind]
            simp
        · rw [if_neg hlast]
          cases rest with
          | nil => simp [forSegments, InStep, hdouble, hlast]
          | cons next rest =>
            have hstep : InStep (init ++ [last]) (segment :: next :: rest) ↔
                InStep init (next :: rest) := by
              rw [InStep, if_neg (by simp [hlast]), standardSegment_double _ hdouble]
              simp
            rw [hstep, ← ih]
            simp
    · obtain ⟨added, hadded⟩ := exists_added rest.isEmpty hdouble
      rw [(hadded _).1, (hadded _).2]
      cases rest with
      | nil => simp [forSegments, InStep, hdouble]
      | cons next rest =>
        rw [InStep, if_neg (fun h => hdouble h.1), ← List.isEmpty_cons, (hadded path).2, ← ih]
        rfl

theorem Kept.put (h : Kept segment) (isLast : Bool) (output : List Units) :
    putSegment isLast output segment = output ++ [segment] := by
  rw [putSegment, if_neg h.double, if_neg h.single]

theorem forSegments_kept (h : ∀ segment ∈ segments, Kept segment) (output : List Units) :
    forSegments putSegment output segments = output ++ segments := by
  induction segments generalizing output with
  | nil => rw [forSegments, List.append_nil]
  | cons segment rest ih =>
    rw [List.forall_mem_cons] at h
    rw [forSegments, h.1.put, ih h.2, List.append_assoc, List.singleton_append]

theorem kept_nil : Kept [] := ⟨by decide, by decide, by decide⟩

theorem putSegment_kept (h : ∀ segment ∈ output, Kept segment) (hslash : slash ∉ segment) :
    ∀ s ∈ putSegment isLast output segment, Kept s := by
  have hnil : ∀ {output : List Units}, (∀ s ∈ output, Kept s) → ∀ s ∈ output ++ [[]], Kept s := by
    intro output h
    exact List.forall_mem_append.mpr ⟨h, by simpa using kept_nil⟩
  have hpop : ∀ s ∈ popSegment output, Kept s := by
    unfold popSegment
    split
    · exact fun s hs => h s (List.mem_of_mem_dropLast hs)
    · exact h
  unfold putSegment
  split
  · split
    · exact hnil hpop
    · exact hpop
  · next hdouble =>
    split
    · split
      · exact hnil h
      · exact h
    · next hsingle =>
      exact List.forall_mem_append.mpr ⟨h, by simpa using ⟨hdouble, hsingle, hslash⟩⟩

theorem forSegments_no_slash (h : ∀ segment ∈ path, slash ∉ segment)
    (hslash : ∀ segment ∈ segments, slash ∉ segment) :
    ∀ segment ∈ forSegments standardSegment path segments, slash ∉ segment := by
  induction segments generalizing path with
  | nil => exact h
  | cons segment rest ih =>
    rw [List.forall_mem_cons] at hslash
    refine ih (fun s hs => ?_) hslash.2
    have hmem : s ∈ path ∨ s = [] ∨ s = segment := by
      unfold standardSegment at hs
      split_ifs at hs <;> grind [List.mem_of_mem_dropLast]
    obtain hs | rfl | rfl := hmem
    · exact h s hs
    · exact List.not_mem_nil
    · exact hslash.1

theorem putSegment_last_ne_nil : putSegment true output segment ≠ [] := by
  unfold putSegment
  split
  · split
    · simp
    · next hfull => exact fun hnil => hfull ⟨rfl, .inl hnil⟩
  · split <;> simp

theorem forSegments_kept_ne_nil (hne : segments ≠ []) (h : ∀ segment ∈ output, Kept segment)
    (hslash : ∀ segment ∈ segments, slash ∉ segment) :
    forSegments putSegment output segments ≠ [] ∧
      ∀ segment ∈ forSegments putSegment output segments, Kept segment := by
  induction segments generalizing output with
  | nil => exact absurd rfl hne
  | cons segment rest ih =>
    rw [List.forall_mem_cons] at hslash
    have hkept := @putSegment_kept rest.isEmpty _ _ h hslash.1
    cases rest with
    | nil => exact ⟨putSegment_last_ne_nil, hkept⟩
    | cons next rest => exact ih (List.cons_ne_nil _ _) hkept hslash.2

end Segments

/-- **The path of a link.** It has no dot segment and is its own normal form; it is the standard's
exactly where the code follows the standard. -/
theorem normalizePath_standard (rest : Units) :
    (normalizePath (slash :: rest) = standardPath rest ↔ InStep [] (rest.splitOn slash)) ∧
      normalizePath (normalizePath (slash :: rest)) = normalizePath (slash :: rest) ∧
      ∀ segment ∈ (normalizePath (slash :: rest)).splitOn slash,
        decoded segment ≠ [46] ∧ decoded segment ≠ [46, 46] := by
  have hsplit : (slash :: rest).splitOn slash = [] :: rest.splitOn slash :=
    List.splitOn_append_cons_self_of_not_mem List.not_mem_nil rest
  obtain ⟨hne, hkept⟩ := forSegments_kept_ne_nil (List.splitOn_ne_nil slash (slash :: rest))
    (List.forall_mem_nil Kept) fun _ => not_mem_of_mem_splitOn
  have hback : (normalizePath (slash :: rest)).splitOn slash =
      forSegments putSegment [] ((slash :: rest).splitOn slash) :=
    List.splitOn_intercalate slash (fun s hs => (hkept s hs).no_slash) hne
  have hstandard : (standardPath rest).splitOn slash =
      [] :: forSegments standardSegment [] (rest.splitOn slash) :=
    List.splitOn_intercalate slash (List.forall_mem_cons.mpr ⟨List.not_mem_nil,
      forSegments_no_slash (List.forall_mem_nil _) fun _ => not_mem_of_mem_splitOn⟩)
      (List.cons_ne_nil _ _)
  refine ⟨?_, ?_, ?_⟩
  · rw [← forSegments_inStep, ← hstandard]
    rw [hsplit, forSegments, kept_nil.put, List.nil_append] at hback
    rw [← hback]
    have hinverse : Function.LeftInverse [slash].intercalate (List.splitOn slash) :=
      fun path => List.intercalate_splitOn slash
    exact hinverse.injective.eq_iff.symm
  · rw [normalizePath, hback, forSegments_kept hkept]
    rfl
  · rw [hback]
    exact fun segment hs => ⟨(hkept segment hs).single, (hkept segment hs).double⟩

/-- **An empty segment stays**, and a final `..` after one segment leaves no slash. -/
theorem normalizePath_empty_segment :
    normalizePath (utf16 "/a//../b".toList) = utf16 "/a//b".toList ∧
      standardPath (utf16 "a//../b".toList) = utf16 "/a/b".toList ∧
      normalizePath (utf16 "/a/..".toList) = [] ∧
      standardPath (utf16 "a/..".toList) = [slash] := by
  decide +kernel

end Lerdr.Terminal
