/-
# Lib.Consecutive — lists whose members are numbered without a gap.

`Consecutive number start xs` says that the members of `xs` carry the numbers `start`, `start + 1`,
… in this order. A list of that kind is cut and joined by the rules for `++` and `::`; the numbers
of its members are exactly those of a range. What has been taken of such a list, in order, is one of
its prefixes, and grows by the next member (`prefix_concat`).
-/
import Mathlib.Data.List.Infix

namespace Lib

variable {α : Type*} {number : α → Nat} {start : Nat} {x : α} {xs ys : List α}

/-- A list that begins another one, with the next member of it. -/
theorem prefix_concat {y : α} (h : xs <+: ys) (hy : ys[xs.length]? = some y) :
    xs ++ [y] <+: ys := by
  obtain ⟨hlt, rfl⟩ := List.getElem?_eq_some_iff.mp hy
  exact List.concat_get_prefix h hlt

/-- The members carry the numbers from `start` on, in order. -/
def Consecutive (number : α → Nat) (start : Nat) : List α → Prop
  | [] => True
  | x :: xs => number x = start ∧ Consecutive number (start + 1) xs

namespace Consecutive

instance decidable (number : α → Nat) :
    (start : Nat) → (xs : List α) → Decidable (Consecutive number start xs)
  | _, [] => isTrue trivial
  | start, x :: xs =>
    have := decidable number (start + 1) xs
    inferInstanceAs (Decidable (number x = start ∧ Consecutive number (start + 1) xs))

@[simp] theorem nil : Consecutive number start [] := trivial

theorem append_iff : Consecutive number start (xs ++ ys) ↔
    Consecutive number start xs ∧ Consecutive number (start + xs.length) ys := by
  induction xs generalizing start with
  | nil => simp
  | cons x xs ih =>
    have hshift : start + 1 + xs.length = start + (x :: xs).length := by
      simp only [List.length_cons]
      omega
    show number x = start ∧ Consecutive number (start + 1) (xs ++ ys) ↔ _
    rw [ih, hshift, ← and_assoc]
    rfl

theorem concat_iff : Consecutive number start (xs ++ [x]) ↔
    Consecutive number start xs ∧ number x = start + xs.length := by
  rw [append_iff]
  exact and_congr_right fun _ => and_iff_left trivial

theorem of_prefix (h : Consecutive number start ys) (hxs : xs <+: ys) :
    Consecutive number start xs := by
  obtain ⟨zs, rfl⟩ := hxs
  exact (append_iff.mp h).1

end Consecutive

end Lib
