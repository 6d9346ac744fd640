/-
# Lerdr.Lib.Lines — lists of lines, and the end of one.

A file of lines is its lines, each with a separator behind it. Reading such a file from some offset
and throwing away what precedes the first separator leaves the lines from some line on; `cutAt` is
that line (`afterFirst_drop_terminate`). It moves only forward when the offset does, or when lines
are added behind.
-/
import Mathlib.Data.List.Basic
import Mathlib.Tactic.Common

namespace Lib.Lines

section Lists

variable {α : Type} (sep : α)

/-- Lines, each followed by the separator. -/
def terminate (ls : List (List α)) : List α := ls.flatMap (· ++ [sep])

/-- How many lines are gone when a file of lines is read from offset `n` on and the text up to the
first separator is dropped. -/
def cutAt : Nat → List (List α) → Nat
  | _, [] => 0
  | n, l :: ls => if n ≤ l.length then 1 else cutAt (n - (l.length + 1)) ls + 1

/-- What lies between `i` and `k`, cut at `j`. -/
theorem drop_take_eq_append {xs : List α} {i j k : Nat} (hij : i ≤ j) (hjk : j ≤ k)
    (hj : j ≤ xs.length) : (xs.take k).drop i = (xs.take j).drop i ++ (xs.take k).drop j := by
  have htake : xs.take k = xs.take j ++ (xs.take k).drop j := by
    conv_lhs => rw [← List.take_append_drop j (xs.take k)]
    rw [List.take_take, Nat.min_eq_left hjk]
  conv_lhs => rw [htake]
  rw [List.drop_append_of_le_length (by rw [List.length_take]; omega)]

theorem terminate_cons (l : List α) (ls : List (List α)) :
    terminate sep (l :: ls) = l ++ sep :: terminate sep ls := by
  simp [terminate]

theorem terminate_append (ls more : List (List α)) :
    terminate sep (ls ++ more) = terminate sep ls ++ terminate sep more :=
  List.flatMap_append

theorem cutAt_le_length (n : Nat) (ls : List (List α)) : cutAt n ls ≤ ls.length := by
  induction ls generalizing n with
  | nil => exact Nat.le_refl 0
  | cons l ls ih =>
    rw [cutAt, List.length_cons]
    split
    · omega
    · exact Nat.add_le_add_right (ih _) 1

theorem cutAt_mono {n m : Nat} (h : n ≤ m) (ls : List (List α)) : cutAt n ls ≤ cutAt m ls := by
  induction ls generalizing n m with
  | nil => exact Nat.le_refl 0
  | cons l ls ih =>
    rw [cutAt, cutAt]
    split
    · split <;> omega
    · rw [if_neg (by omega)]
      exact Nat.add_le_add_right (ih (Nat.sub_le_sub_right h _)) 1

theorem cutAt_append_le (n : Nat) (ls more : List (List α)) :
    cutAt n ls ≤ cutAt n (ls ++ more) := by
  induction ls generalizing n with
  | nil => exact Nat.zero_le _
  | cons l ls ih =>
    rw [List.cons_append, cutAt, cutAt]
    split
    · exact Nat.le_refl 1
    · exact Nat.add_le_add_right (ih _) 1

end Lists

section Reading

variable {α : Type} [DecidableEq α] (sep : α)

/-- What follows the first separator; nothing if there is none. -/
def afterFirst : List α → List α
  | [] => []
  | x :: xs => if x = sep then xs else afterFirst xs

variable {sep}

theorem afterFirst_append {a : List α} (h : sep ∉ a) (b : List α) :
    afterFirst sep (a ++ sep :: b) = b := by
  induction a with
  | nil => rw [List.nil_append, afterFirst, if_pos rfl]
  | cons x a ih =>
    rw [List.mem_cons, not_or] at h
    rw [List.cons_append, afterFirst, if_neg (Ne.symm h.1), ih h.2]

theorem splitOn_terminate {ls : List (List α)} (h : ∀ l ∈ ls, sep ∉ l) :
    (terminate sep ls).splitOn sep = ls ++ [[]] := by
  induction ls with
  | nil => rfl
  | cons l ls ih =>
    rw [terminate_cons, List.splitOn_append_cons_self_of_not_mem (h l List.mem_cons_self),
      ih (fun other hother => h other (List.mem_cons_of_mem _ hother)), List.cons_append]

/-- **The end of a file of lines is a file of its last lines.** -/
theorem afterFirst_drop_terminate {ls : List (List α)} (h : ∀ l ∈ ls, sep ∉ l) (n : Nat) :
    afterFirst sep ((terminate sep ls).drop n) = terminate sep (ls.drop (cutAt n ls)) := by
  induction ls generalizing n with
  | nil => simp [terminate, afterFirst]
  | cons l ls ih =>
    have hl := h l List.mem_cons_self
    rw [terminate_cons, cutAt]
    split
    · next hn =>
      -- the offset lies in the first line, or at its separator
      rw [List.drop_append_of_le_length hn, List.drop_one, List.tail_cons]
      exact afterFirst_append (fun hmem => hl (List.mem_of_mem_drop hmem)) _
    · next hn =>
      rw [List.drop_append, List.drop_eq_nil_of_le (by omega), List.nil_append, List.drop_succ_cons]
      have hstep : n - l.length = (n - (l.length + 1)) + 1 := by omega
      rw [hstep, List.drop_succ_cons]
      exact ih (fun other hother => h other (List.mem_cons_of_mem _ hother)) _

end Reading

end Lib.Lines
