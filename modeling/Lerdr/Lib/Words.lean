/-
# Lib.Words — the words of a text, and the text of them joined by one separator.

A word is a longest run of elements that pass a test. `collapse` writes one separator for each run
of the others; without the separators at its two ends it is the words, joined (`trim_collapse`). So
a slug of that kind says which words a text has, in their order, and nothing else
(`join_injective`), also where it is cut off (`take_join`).
-/
import Mathlib.Data.List.DropRight
import Mathlib.Tactic

namespace Lib.Words

variable {α : Type*} (p : α → Bool) (sep : α)

/-! ## §1 — words -/

/-- The word that a text begins with, which may be empty, and the words after it. -/
def cut : List α → List α × List (List α)
  | [] => ([], [])
  | x :: xs =>
    if p x then (x :: (cut xs).1, (cut xs).2)
    else ([], if (cut xs).1 = [] then (cut xs).2 else (cut xs).1 :: (cut xs).2)

def words (xs : List α) : List (List α) :=
  if (cut p xs).1 = [] then (cut p xs).2 else (cut p xs).1 :: (cut p xs).2

def join (ws : List (List α)) : List α := [sep].intercalate ws

/-- One separator for each run of elements that are not part of a word; `inRun` when the run has
been written already. -/
def collapse : Bool → List α → List α
  | _, [] => []
  | inRun, x :: xs =>
    if p x then x :: collapse false xs
    else if inRun then collapse true xs
    else sep :: collapse true xs

variable {p sep} {xs ys : List α} {x : α}

theorem cut_cons_pos (h : p x = true) : cut p (x :: xs) = (x :: (cut p xs).1, (cut p xs).2) := by
  rw [cut, if_pos h]

theorem cut_cons_neg (h : p x = false) : cut p (x :: xs) = ([], words p xs) := by
  rw [cut, if_neg (by simp [h]), words]

theorem words_cons_pos (h : p x = true) :
    words p (x :: xs) = (x :: (cut p xs).1) :: (cut p xs).2 := by
  rw [words, cut_cons_pos h, if_neg (List.cons_ne_nil _ _)]

theorem words_cons_neg (h : p x = false) : words p (x :: xs) = words p xs := by
  rw [words, cut_cons_neg h, if_pos rfl]

theorem mem_words {w : List α} (h : w ∈ words p xs) :
    w = (cut p xs).1 ∧ w ≠ [] ∨ w ∈ (cut p xs).2 := by
  rw [words] at h
  split at h
  · exact .inr h
  · rename_i hne
    exact (List.mem_cons.mp h).imp_left fun heq => ⟨heq, heq ▸ hne⟩

/-- A word is not empty, and all of it passes the test. -/
theorem forall_of_mem_words {w : List α} (h : w ∈ words p xs) :
    w ≠ [] ∧ ∀ y ∈ w, p y = true := by
  have hcut : (∀ y ∈ (cut p xs).1, p y = true) ∧
      ∀ w ∈ (cut p xs).2, w ≠ [] ∧ ∀ y ∈ w, p y = true := by
    clear h
    induction xs with
    | nil => exact ⟨by simp [cut], by simp [cut]⟩
    | cons y xs ih =>
      cases hy : p y with
      | true =>
        rw [cut_cons_pos hy]
        exact ⟨List.forall_mem_cons.mpr ⟨hy, ih.1⟩, ih.2⟩
      | false =>
        rw [cut_cons_neg hy]
        refine ⟨List.forall_mem_nil _, fun w hw => ?_⟩
        rcases mem_words hw with ⟨rfl, hne⟩ | hw
        · exact ⟨hne, ih.1⟩
        · exact ih.2 w hw
  rcases mem_words h with ⟨rfl, hne⟩ | h
  · exact ⟨hne, hcut.1⟩
  · exact hcut.2 w h

/-! ## §2 — the joined words -/

theorem join_cons_cons (w : List α) (ws : List (List α)) (hws : ws ≠ []) :
    join sep (w :: ws) = w ++ sep :: join sep ws := by
  cases ws with
  | nil => exact absurd rfl hws
  | cons v vs => simp [join, List.intercalate]

theorem join_singleton (w : List α) : join sep [w] = w := by simp [join, List.intercalate]

theorem mem_join {ws : List (List α)} (h : x ∈ join sep ws) : x = sep ∨ ∃ w ∈ ws, x ∈ w := by
  induction ws with
  | nil => cases h
  | cons w ws ih =>
    by_cases hws : ws = []
    · subst hws
      rw [join_singleton] at h
      exact .inr ⟨w, List.mem_cons_self, h⟩
    · rw [join_cons_cons _ _ hws] at h
      rcases List.mem_append.mp h with h | h
      · exact .inr ⟨w, List.mem_cons_self, h⟩
      · rcases List.mem_cons.mp h with rfl | h
        · exact .inl rfl
        · rcases ih h with rfl | ⟨v, hv, hx⟩
          · exact .inl rfl
          · exact .inr ⟨v, List.mem_cons_of_mem _ hv, hx⟩

theorem join_words_eq_nil (h : join sep (words p xs) = []) : words p xs = [] := by
  cases hws : words p xs with
  | nil => rfl
  | cons w ws =>
    have hne : w ≠ [] := (forall_of_mem_words (by rw [hws]; exact List.mem_cons_self)).1
    rw [hws] at h
    cases ws with
    | nil => exact absurd (by rwa [join_singleton] at h) hne
    | cons v vs =>
      rw [join_cons_cons w (v :: vs) (List.cons_ne_nil _ _)] at h
      exact absurd (List.append_eq_nil_iff.mp h).1 hne

/-- The words that the first `n` elements of the joined ones spell: the last word may be cut, and is
empty where the cut falls right behind a separator. -/
def clip : Nat → List (List α) → List (List α)
  | _, [] => []
  | n, w :: ws => if ws = [] ∨ n ≤ w.length then [w.take n] else w :: clip (n - w.length - 1) ws

theorem clip_ne_nil {n : Nat} {ws : List (List α)} (h : ws ≠ []) : clip n ws ≠ [] := by
  cases ws with
  | nil => exact absurd rfl h
  | cons w ws =>
    rw [clip]
    split
    · exact List.cons_ne_nil _ _
    · exact List.cons_ne_nil _ _

/-- A clipped word is part of a word. -/
theorem subset_of_mem_clip {n : Nat} {ws : List (List α)} {v : List α} (h : v ∈ clip n ws) :
    ∃ w ∈ ws, v ⊆ w := by
  induction ws generalizing n with
  | nil => cases h
  | cons w ws ih =>
    rw [clip] at h
    split at h
    · obtain rfl := List.mem_singleton.mp h
      exact ⟨w, List.mem_cons_self, List.take_subset n w⟩
    · rcases List.mem_cons.mp h with rfl | h
      · exact ⟨v, List.mem_cons_self, List.Subset.refl v⟩
      · obtain ⟨u, hu, hsub⟩ := ih h
        exact ⟨u, List.mem_cons_of_mem _ hu, hsub⟩

/-- **A cut through the joined words is a cut through the words.** -/
theorem take_join (n : Nat) (ws : List (List α)) :
    (join sep ws).take n = join sep (clip n ws) := by
  induction ws generalizing n with
  | nil => exact List.take_nil
  | cons w ws ih =>
    rw [clip]
    by_cases hws : ws = []
    · rw [if_pos (.inl hws), hws, join_singleton, join_singleton]
    · rw [join_cons_cons _ _ hws]
      by_cases hn : n ≤ w.length
      · rw [if_pos (.inr hn), join_singleton, List.take_append_of_le_length hn]
      · have hrest : n - w.length = (n - w.length - 1) + 1 := by omega
        rw [if_neg (by simp [hws, hn]), join_cons_cons _ _ (clip_ne_nil hws), ← ih,
          List.take_append, List.take_of_length_le (by omega), hrest, List.take_succ_cons]
        rfl

/-! ## §3 — the collapsed text -/

theorem ne_sep (hsep : p sep = false) (hx : p x = true) : x ≠ sep := by
  rintro rfl
  rw [hx] at hsep
  cases hsep

variable [DecidableEq α]

/-- Without the separators at both ends. -/
def trim (sep : α) (xs : List α) : List α :=
  (xs.dropWhile (· = sep)).rdropWhile (· = sep)

theorem rdropWhile_cons (sep x : α) (xs : List α) :
    (x :: xs).rdropWhile (· = sep)
      = if x = sep ∧ xs.rdropWhile (· = sep) = [] then [] else x :: xs.rdropWhile (· = sep) := by
  rw [List.rdropWhile, List.reverse_cons, List.dropWhile_append, List.rdropWhile]
  by_cases hnil : xs.reverse.dropWhile (· = sep) = []
  · by_cases hx : x = sep <;> simp [hnil, hx]
  · simp [hnil]

section

variable (hsep : p sep = false) (xs : List α)
include hsep

/-- What is written from inside a word, and from inside a run. -/
theorem rdropWhile_collapse :
    (collapse p sep false xs).rdropWhile (· = sep) = join sep ((cut p xs).1 :: (cut p xs).2) ∧
    (collapse p sep true xs).rdropWhile (· = sep) = join sep (words p xs) := by
  induction xs with
  | nil => exact ⟨rfl, rfl⟩
  | cons x xs ih =>
    cases hx : p x with
    | true =>
      have hcons : x :: join sep ((cut p xs).1 :: (cut p xs).2)
          = join sep ((x :: (cut p xs).1) :: (cut p xs).2) := by
        cases hws : (cut p xs).2 with
        | nil => rw [join_singleton, join_singleton]
        | cons v vs =>
          rw [join_cons_cons _ (v :: vs) (List.cons_ne_nil _ _),
            join_cons_cons _ (v :: vs) (List.cons_ne_nil _ _), List.cons_append]
      have hwrite : ∀ b, (collapse p sep b (x :: xs)).rdropWhile (· = sep)
          = join sep ((x :: (cut p xs).1) :: (cut p xs).2) := by
        intro b
        rw [collapse, if_pos hx, rdropWhile_cons, if_neg (fun h => ne_sep hsep hx h.1), ih.1,
          hcons]
      rw [cut_cons_pos hx, words_cons_pos hx]
      exact ⟨hwrite false, hwrite true⟩
    | false =>
      have hnot : ¬ p x = true := by simp [hx]
      rw [cut_cons_neg hx, words_cons_neg hx]
      refine ⟨?_, ?_⟩
      · rw [collapse, if_neg hnot, if_neg (by decide), rdropWhile_cons, ih.2]
        by_cases hnil : words p xs = []
        · rw [hnil, if_pos (by simp [join, List.intercalate]), join_singleton]
        · rw [if_neg (fun h => hnil (join_words_eq_nil h.2)), join_cons_cons _ _ hnil,
            List.nil_append]
      · rw [collapse, if_neg hnot, if_pos rfl]
        exact ih.2

/-- Without the separators in front, what is written is what a run goes on with. -/
theorem dropWhile_collapse (b : Bool) :
    (collapse p sep b xs).dropWhile (· = sep) = collapse p sep true xs := by
  induction xs generalizing b with
  | nil => rfl
  | cons x xs ih =>
    cases hx : p x with
    | true =>
      have hne := ne_sep hsep hx
      rw [collapse, if_pos hx, List.dropWhile_cons_of_neg (by simpa using hne), collapse, if_pos hx]
    | false =>
      have hnot : ¬ p x = true := by simp [hx]
      have hrun : collapse p sep true (x :: xs) = collapse p sep true xs := by
        rw [collapse, if_neg hnot, if_pos rfl]
      rw [hrun]
      cases b with
      | true => rw [hrun, ih]
      | false =>
        rw [collapse, if_neg hnot, if_neg (by decide), List.dropWhile_cons_of_pos (by simp), ih]

/-- **The collapsed text, trimmed, is the words, joined.** -/
theorem trim_collapse :
    trim sep (collapse p sep false xs) = join sep (words p xs) := by
  rw [trim, dropWhile_collapse hsep]
  exact (rdropWhile_collapse hsep xs).2

end

/-- **Joined words determine the words.** -/
theorem join_injective {ws vs : List (List α)} (hws : ws ≠ []) (hvs : vs ≠ [])
    (hw : ∀ w ∈ ws, sep ∉ w) (hv : ∀ v ∈ vs, sep ∉ v) (h : join sep ws = join sep vs) :
    ws = vs := by
  rw [← List.splitOn_intercalate sep hw hws, ← List.splitOn_intercalate sep hv hvs]
  exact congrArg (List.splitOn sep) h

end Lib.Words
