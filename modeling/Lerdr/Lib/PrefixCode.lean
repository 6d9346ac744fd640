/-
# Lib.PrefixCode — symbol-by-symbol encodings that can be read back off the front.

`PrefixFree f`: the code of a symbol can be told from whatever follows it. A word over such codes is
then determined by its encoding, up to a terminator that no code starts (`PrefixFree.flatMap_inj`).
A list is also determined by what stands on either side of its last separator (`last_sep_inj`), or
of its first (`first_sep_inj`); between two of them there is none (`not_mem_of_mem_splitOn`).
-/
import Mathlib.Data.List.Basic

namespace Lib

variable {α β : Type*}

/-- The code of one symbol is recognised in front of any rest. -/
def PrefixFree (f : α → List β) : Prop :=
  ∀ a b x y, f a ++ x = f b ++ y → a = b ∧ x = y

/-- No word that starts with a code is `t`. -/
def Terminator (f : α → List β) (t : List β) : Prop := ∀ a x, f a ++ x ≠ t

/-- **A terminated word is determined by its encoding, and so is what terminates it.** -/
theorem PrefixFree.flatMap_inj {f : α → List β} (hf : PrefixFree f) {t t' : List β}
    (ht : Terminator f t) (ht' : Terminator f t') {xs ys : List α}
    (h : xs.flatMap f ++ t = ys.flatMap f ++ t') : xs = ys ∧ t = t' := by
  induction xs generalizing ys with
  | nil =>
    cases ys with
    | nil => exact ⟨rfl, h⟩
    | cons b ys =>
      rw [List.flatMap_cons, List.append_assoc] at h
      exact absurd h.symm (ht b _)
  | cons a xs ih =>
    cases ys with
    | nil =>
      rw [List.flatMap_cons, List.append_assoc] at h
      exact absurd h (ht' a _)
    | cons b ys =>
      simp only [List.flatMap_cons, List.append_assoc] at h
      obtain ⟨rfl, hrest⟩ := hf a b _ _ h
      obtain ⟨rfl, rfl⟩ := ih hrest
      exact ⟨rfl, rfl⟩

/-- What stands before and after the last separator. -/
theorem last_sep_inj {sep : β} {xs ys ds es : List β} (hds : sep ∉ ds) (hes : sep ∉ es)
    (h : xs ++ sep :: ds = ys ++ sep :: es) : xs = ys ∧ ds = es := by
  rcases List.append_eq_append_iff.mp h with ⟨w, rfl, hw⟩ | ⟨w, rfl, hw⟩
  · cases w with
    | nil => simpa using hw
    | cons b w =>
      obtain ⟨-, rfl⟩ := List.cons.inj hw
      simp at hds
  · cases w with
    | nil => simpa using hw.symm
    | cons b w =>
      obtain ⟨-, rfl⟩ := List.cons.inj hw
      simp at hes

/-- What stands before and after the first separator. -/
theorem first_sep_inj {sep : β} {xs ys ds es : List β} (hds : sep ∉ ds) (hes : sep ∉ es)
    (h : ds ++ sep :: xs = es ++ sep :: ys) : ds = es ∧ xs = ys := by
  have hrev := congrArg List.reverse h
  simp only [List.reverse_append, List.reverse_cons, List.append_assoc, List.singleton_append]
    at hrev
  obtain ⟨hxs, hds⟩ := last_sep_inj (by simpa using hds) (by simpa using hes) hrev
  exact ⟨List.reverse_inj.mp hds, List.reverse_inj.mp hxs⟩

theorem not_mem_of_mem_splitOn [DecidableEq β] {sep : β} {xs part : List β}
    (h : part ∈ xs.splitOn sep) : sep ∉ part := by
  induction hn : xs.length using Nat.strongRecOn generalizing xs with
  | _ n ih =>
    by_cases hsep : sep ∈ xs
    · obtain ⟨before, rest, rfl, hbefore⟩ := List.eq_append_cons_of_mem hsep
      rw [List.splitOn_append_cons_self_of_not_mem hbefore] at h
      rcases List.mem_cons.mp h with rfl | h
      · exact hbefore
      · rw [List.length_append, List.length_cons] at hn
        exact ih _ (by omega) h rfl
    · rw [List.splitOn_eq_singleton hsep, List.mem_singleton] at h
      rwa [h]

end Lib
