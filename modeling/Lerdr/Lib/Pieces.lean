/-
# Lib.Pieces — cutting a list after every separator, and the offset table of the cut.

`pieces sep xs` cuts `xs` after each occurrence of `sep`. Every piece but the last ends with `sep`;
the last one carries no separator and may be empty (a trailing separator leaves an empty tail). A
cut loses nothing (`flatten_pieces`), its offset table `offsets` turns a run of pieces into one
contiguous slice (`slice_flatten`), and a separator-reflecting encoding commutes with the cut
(`pieces_flatMap`). Nothing here depends on what the elements are.
-/
import Mathlib.Data.List.Basic
import Mathlib.Data.List.Flatten
import Mathlib.Tactic

namespace Lib.Pieces

variable {α β : Type*} [DecidableEq α] [DecidableEq β]

/-! ## §1 — the cut -/

/-- Cut after every `sep`; the last piece has no separator. -/
def pieces (sep : α) : List α → List (List α)
  | [] => [[]]
  | x :: xs =>
    if x = sep then [x] :: pieces sep xs else (pieces sep xs).modifyHead (x :: ·)

@[simp] theorem pieces_nil (sep : α) : pieces sep [] = [[]] := rfl

@[simp] theorem pieces_cons_sep (sep : α) (xs : List α) :
    pieces sep (sep :: xs) = [sep] :: pieces sep xs := by
  simp [pieces]

theorem pieces_cons_ne {sep x : α} (h : x ≠ sep) (xs : List α) :
    pieces sep (x :: xs) = (pieces sep xs).modifyHead (x :: ·) := by
  simp [pieces, h]

/-- A cut always has a last piece. -/
theorem exists_pieces_eq_cons (sep : α) (xs : List α) : ∃ p ps, pieces sep xs = p :: ps := by
  induction xs with
  | nil => exact ⟨[], [], rfl⟩
  | cons x xs ih =>
    by_cases hx : x = sep
    · subst hx
      exact ⟨[x], pieces x xs, by simp⟩
    · obtain ⟨p, ps, hp⟩ := ih
      exact ⟨x :: p, ps, by rw [pieces_cons_ne hx, hp]; rfl⟩

/-- **A cut loses nothing.** -/
@[simp] theorem flatten_pieces (sep : α) (xs : List α) : (pieces sep xs).flatten = xs := by
  induction xs with
  | nil => rfl
  | cons x xs ih =>
    by_cases hx : x = sep
    · subst hx
      simp [ih]
    · obtain ⟨p, ps, hp⟩ := exists_pieces_eq_cons sep xs
      rw [hp] at ih
      rw [pieces_cons_ne hx, hp]
      simpa using ih

/-- One piece more than separators. -/
theorem length_pieces (sep : α) (xs : List α) :
    (pieces sep xs).length = xs.count sep + 1 := by
  induction xs with
  | nil => simp
  | cons x xs ih =>
    by_cases hx : x = sep
    · subst hx
      simp [ih]
    · rw [pieces_cons_ne hx, List.length_modifyHead, ih, List.count_cons_of_ne hx]

/-- Only the last piece of a cut can be empty. -/
theorem ne_nil_of_mem_dropLast (sep : α) (xs : List α) :
    ∀ p ∈ (pieces sep xs).dropLast, p ≠ [] := by
  induction xs with
  | nil => simp
  | cons x xs ih =>
    obtain ⟨q, qs, hq⟩ := exists_pieces_eq_cons sep xs
    by_cases hx : x = sep
    · subst hx
      intro p hp
      rw [pieces_cons_sep, hq, List.dropLast_cons_cons, List.mem_cons] at hp
      rcases hp with rfl | hp
      · simp
      · exact ih p (by rw [hq]; exact hp)
    · intro p hp
      rw [pieces_cons_ne hx, hq, List.modifyHead_cons] at hp
      rw [hq] at ih
      -- the head piece only grew, the others are those of the tail's cut
      cases qs with
      | nil => simp at hp
      | cons r rs =>
        rw [List.dropLast_cons_cons, List.mem_cons] at hp
        rcases hp with rfl | hp
        · simp
        · exact ih p (by rw [List.dropLast_cons_cons]; exact List.mem_cons_of_mem _ hp)

/-! ## §2 — a cut commutes with an encoding that keeps the separator apart -/

/-- A non-separator's code is prepended to the first piece. -/
theorem pieces_append_of_notMem {sep : β} {u : List β} (hu : sep ∉ u) (v : List β) :
    pieces sep (u ++ v) = (pieces sep v).modifyHead (u ++ ·) := by
  induction u with
  | nil => cases h : pieces sep v <;> simp [h]
  | cons b u ih =>
    have hb : b ≠ sep := fun e => hu (e ▸ List.mem_cons_self)
    have hu' : sep ∉ u := fun m => hu (List.mem_cons_of_mem _ m)
    obtain ⟨p, ps, hp⟩ := exists_pieces_eq_cons sep v
    rw [List.cons_append, pieces_cons_ne hb, ih hu', hp]
    simp

/-- **Encoding and cutting commute** when the separator is encoded alone and occurs in no other
code. -/
theorem pieces_flatMap {sepA : α} {sepB : β} {f : α → List β} (hsep : f sepA = [sepB])
    (hne : ∀ a, a ≠ sepA → sepB ∉ f a) (xs : List α) :
    pieces sepB (xs.flatMap f) = (pieces sepA xs).map (·.flatMap f) := by
  induction xs with
  | nil => simp
  | cons x xs ih =>
    by_cases hx : x = sepA
    · subst hx
      simp [hsep, ih]
    · obtain ⟨p, ps, hp⟩ := exists_pieces_eq_cons sepA xs
      rw [List.flatMap_cons, pieces_append_of_notMem (hne x hx), ih, pieces_cons_ne hx, hp]
      simp

/-! ## §3 — the offset table -/

/-- Where each piece starts, and where the last one ends, counted from `base`. -/
def offsets (base : Nat) : List (List α) → List Nat
  | [] => [base]
  | p :: ps => base :: offsets (base + p.length) ps

omit [DecidableEq α] in
@[simp] theorem length_offsets (base : Nat) (ps : List (List α)) :
    (offsets base ps).length = ps.length + 1 := by
  induction ps generalizing base with
  | nil => rfl
  | cons p ps ih => simp [offsets, ih]

omit [DecidableEq α] in
/-- Entry `i` is the total length of the first `i` pieces. -/
theorem getElem?_offsets (base : Nat) (ps : List (List α)) {i : Nat} (hi : i ≤ ps.length) :
    (offsets base ps)[i]? = some (base + (ps.take i).flatten.length) := by
  induction ps generalizing base i with
  | nil =>
    obtain rfl : i = 0 := by simpa using hi
    rfl
  | cons p ps ih =>
    cases i with
    | zero => simp [offsets]
    | succ i =>
      rw [offsets, List.getElem?_cons_succ, ih _ (by simpa using hi)]
      simp [Nat.add_assoc]

omit [DecidableEq α] in
/-- **A run of pieces is one slice**: pieces `i..j` are what lies between their offsets. -/
theorem slice_flatten (ps : List (List α)) {i j : Nat} (hij : i ≤ j) :
    (ps.flatten.take (ps.take j).flatten.length).drop (ps.take i).flatten.length
      = ((ps.take j).drop i).flatten := by
  have hj : ps.flatten.take (ps.take j).flatten.length = (ps.take j).flatten := by
    conv_lhs => rw [← List.take_append_drop j ps, List.flatten_append]
    simp
  have hi : ps.take j = (ps.take j).take i ++ (ps.take j).drop i :=
    (List.take_append_drop i _).symm
  have hii : (ps.take j).take i = ps.take i := by
    rw [List.take_take, Nat.min_eq_left hij]
  rw [hj]
  conv_lhs => rw [hi, List.flatten_append, hii]
  simp

omit [DecidableEq α] in
theorem flatten_take_append_drop (ls : List (List α)) (n : Nat) :
    (ls.take n).flatten ++ (ls.drop n).flatten = ls.flatten := by
  rw [← List.flatten_append, List.take_append_drop]

omit [DecidableEq α] in
/-- The table never goes back. -/
theorem length_flatten_take_mono (ps : List (List α)) {i j : Nat} (hij : i ≤ j) :
    (ps.take i).flatten.length ≤ (ps.take j).flatten.length := by
  have h : ps.take i = (ps.take j).take i := by rw [List.take_take, Nat.min_eq_left hij]
  rw [h]
  conv_rhs => rw [← List.take_append_drop i (ps.take j), List.flatten_append, List.length_append]
  omega

/-- The positions just after each separator, counted from `base`. -/
def cutPoints (sep : α) (base : Nat) : List α → List Nat
  | [] => []
  | x :: xs =>
    if x = sep then (base + 1) :: cutPoints sep (base + 1) xs else cutPoints sep (base + 1) xs

/-- Start, cut points, end: exactly the offset table of the cut. -/
theorem cons_cutPoints_append (sep : α) (base : Nat) (xs : List α) :
    base :: cutPoints sep base xs ++ [base + xs.length] = offsets base (pieces sep xs) := by
  induction xs generalizing base with
  | nil => simp [cutPoints, offsets]
  | cons x xs ih =>
    have hlen : base + (x :: xs).length = base + 1 + xs.length := by
      simp [Nat.add_comm, Nat.add_left_comm]
    rw [hlen]
    by_cases hx : x = sep
    · subst hx
      have h := ih (base + 1)
      simp only [cutPoints, pieces_cons_sep, offsets, if_true, List.length_singleton]
      rw [← h]
      simp
    · obtain ⟨p, ps, hp⟩ := exists_pieces_eq_cons sep xs
      have h := ih (base + 1)
      rw [hp] at h
      rw [pieces_cons_ne hx, hp]
      simp only [cutPoints, if_neg hx, List.modifyHead_cons, offsets, List.cons_append,
        List.cons.injEq, true_and, List.length_cons] at h ⊢
      rw [h]
      congr 1
      omega

end Lib.Pieces
