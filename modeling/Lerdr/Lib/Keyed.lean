/-
# Lib.Keyed — a list of records as a table: the first record with a key, read and rewritten.

`lookup key k xs` is the first record of `xs` whose key is `k`, `update key k f xs` applies `f` to
that record and leaves the others. Where `f` keeps the key, an update shows in the lookup at `k` and
nowhere else, and a projection that `f` keeps is kept on the whole list. Where the keys are
distinct, each record is the one its key finds, from either end; and a fold whose turns touch only
what belongs to the record's key does to each key what its own record's turn does.
-/
import Mathlib.Data.List.Basic
import Mathlib.Tactic

namespace Lib.Keyed

variable {α κ : Type*} [DecidableEq κ] {key : α → κ} {k : κ} {f : α → α} {xs : List α}

def lookup (key : α → κ) (k : κ) (xs : List α) : Option α := xs.find? fun x => key x = k

def update (key : α → κ) (k : κ) (f : α → α) : List α → List α
  | [] => []
  | x :: xs => if key x = k then f x :: xs else x :: update key k f xs

/-- Writes a record over the first one with its key, or adds it at the end. -/
def put (key : α → κ) (x : α) : List α → List α
  | [] => [x]
  | y :: ys => if key y = key x then x :: ys else y :: put key x ys

@[simp] theorem lookup_nil : lookup key k [] = none := rfl

theorem lookup_cons (x : α) :
    lookup key k (x :: xs) = if key x = k then some x else lookup key k xs := by
  by_cases h : key x = k <;> simp [lookup, h]

theorem mem_of_lookup {x : α} (h : lookup key k xs = some x) : x ∈ xs :=
  List.mem_of_find?_eq_some h

theorem key_of_lookup {x : α} (h : lookup key k xs = some x) : key x = k := by
  simpa using List.find?_some h

theorem lookup_eq_none_iff : lookup key k xs = none ↔ k ∉ xs.map key := by
  simp [lookup]

theorem lookup_append_singleton {x : α} (h : key x ∉ xs.map key) (k : κ) :
    lookup key k (xs ++ [x]) = if key x = k then some x else lookup key k xs := by
  induction xs with
  | nil => rw [List.nil_append, lookup_cons]
  | cons y ys ih =>
    rw [List.map_cons, List.mem_cons, not_or] at h
    rw [List.cons_append, lookup_cons, ih h.2, lookup_cons]
    by_cases hy : key y = k
    · have hx : key x ≠ k := fun hx => h.1 (hx.trans hy.symm)
      simp [hy, hx]
    · simp [hy]

theorem lookup_update_self (hf : ∀ x, key (f x) = key x) :
    lookup key k (update key k f xs) = (lookup key k xs).map f := by
  induction xs with
  | nil => rfl
  | cons x xs ih =>
    by_cases hx : key x = k
    · rw [update, if_pos hx, lookup_cons, if_pos ((hf x).trans hx), lookup_cons, if_pos hx]
      rfl
    · rw [update, if_neg hx, lookup_cons, if_neg hx, lookup_cons, if_neg hx, ih]

theorem lookup_update_of_ne (hf : ∀ x, key (f x) = key x) {j : κ} (hj : j ≠ k) :
    lookup key j (update key k f xs) = lookup key j xs := by
  induction xs with
  | nil => rfl
  | cons x xs ih =>
    by_cases hx : key x = k
    · have hxj : key x ≠ j := fun h => hj (h.symm.trans hx)
      rw [update, if_pos hx, lookup_cons, if_neg (by rw [hf]; exact hxj), lookup_cons, if_neg hxj]
    · rw [update, if_neg hx, lookup_cons, ih, lookup_cons]

theorem map_update {β : Type*} {g : α → β} (hg : ∀ x, g (f x) = g x) :
    (update key k f xs).map g = xs.map g := by
  induction xs with
  | nil => rfl
  | cons x xs ih =>
    by_cases hx : key x = k
    · rw [update, if_pos hx, List.map_cons, hg, List.map_cons]
    · rw [update, if_neg hx, List.map_cons, ih, List.map_cons]

/-- Writing at the place of the first record with the key. -/
theorem set_findIdx? {i : Nat} (hi : xs.findIdx? (fun x => key x = k) = some i) {x : α}
    (hx : lookup key k xs = some x) : xs.set i (f x) = update key k f xs := by
  induction xs generalizing i with
  | nil => cases hx
  | cons y ys ih =>
    rw [lookup_cons] at hx
    rw [List.findIdx?_cons] at hi
    by_cases hy : key y = k
    · rw [if_pos hy] at hx
      rw [if_pos (decide_eq_true hy)] at hi
      obtain rfl := Option.some.inj hx
      obtain rfl := Option.some.inj hi
      rw [update, if_pos hy, List.set_cons_zero]
    · rw [if_neg hy] at hx
      rw [if_neg (by simpa using hy)] at hi
      obtain ⟨j, hj, rfl⟩ := Option.map_eq_some_iff.mp hi
      rw [update, if_neg hy, List.set_cons_succ, ih hj hx]

theorem mem_update {y : α} (h : y ∈ update key k f xs) :
    y ∈ xs ∨ ∃ x, lookup key k xs = some x ∧ y = f x := by
  induction xs with
  | nil => cases h
  | cons x xs ih =>
    by_cases hx : key x = k
    · rw [update, if_pos hx] at h
      rcases List.mem_cons.mp h with rfl | hmem
      · exact .inr ⟨x, by rw [lookup_cons, if_pos hx], rfl⟩
      · exact .inl (List.mem_cons_of_mem _ hmem)
    · rw [update, if_neg hx] at h
      rcases List.mem_cons.mp h with rfl | hmem
      · exact .inl List.mem_cons_self
      · rcases ih hmem with hmem | hlookup
        · exact .inl (List.mem_cons_of_mem _ hmem)
        · rw [lookup_cons, if_neg hx]
          exact .inr hlookup

theorem lookup_put (x : α) (k : κ) (xs : List α) :
    lookup key k (put key x xs) = if key x = k then some x else lookup key k xs := by
  induction xs with
  | nil => rw [put, lookup_cons]
  | cons y ys ih =>
    by_cases hy : key y = key x
    · rw [put, if_pos hy, lookup_cons, lookup_cons, hy]
      by_cases hk : key x = k
      · rw [if_pos hk, if_pos hk]
      · rw [if_neg hk, if_neg hk, if_neg hk]
    · rw [put, if_neg hy, lookup_cons, lookup_cons, ih]
      by_cases hk : key y = k
      · have hx : key x ≠ k := fun h => hy (hk.trans h.symm)
        rw [if_pos hk, if_neg hx, if_pos hk]
      · rw [if_neg hk, if_neg hk]

theorem mem_map_put {x : α} {xs : List α} {k : κ} :
    k ∈ (put key x xs).map key ↔ k = key x ∨ k ∈ xs.map key := by
  have h := @lookup_eq_none_iff _ _ _ key k (put key x xs)
  rw [lookup_put] at h
  by_cases hk : key x = k
  · rw [if_pos hk] at h
    exact iff_of_true (not_not.mp fun hn => Option.some_ne_none x (h.mpr hn)) (.inl hk.symm)
  · rw [if_neg hk, lookup_eq_none_iff] at h
    rw [or_iff_right (Ne.symm hk)]
    exact (not_iff_not.mp h).symm

theorem nodup_put (h : (xs.map key).Nodup) (x : α) : ((put key x xs).map key).Nodup := by
  induction xs with
  | nil => exact List.nodup_singleton _
  | cons y ys ih =>
    rw [List.map_cons, List.nodup_cons] at h
    by_cases hy : key y = key x
    · rw [put, if_pos hy, List.map_cons, List.nodup_cons, ← hy]
      exact h
    · rw [put, if_neg hy, List.map_cons, List.nodup_cons, mem_map_put, not_or]
      exact ⟨⟨hy, h.1⟩, ih h.2⟩

/-- Writing a list's records one after the other leaves the last one of each key. -/
theorem lookup_foldl_put (k : κ) (xs kept : List α) :
    lookup key k (xs.foldl (fun kept x => put key x kept) kept)
      = (lookup key k xs.reverse).or (lookup key k kept) := by
  induction xs generalizing kept with
  | nil => rfl
  | cons x xs ih =>
    rw [List.foldl_cons, ih, lookup_put, List.reverse_cons]
    simp only [lookup, List.find?_append, List.find?_singleton, Option.or_assoc]
    by_cases hk : key x = k <;> simp [hk]

theorem nodup_foldl_put (xs : List α) {kept : List α} (h : (kept.map key).Nodup) :
    ((xs.foldl (fun kept x => put key x kept) kept).map key).Nodup := by
  induction xs generalizing kept with
  | nil => exact h
  | cons x xs ih => exact ih (nodup_put h x)

/-- How an update changes a count: only by what it does to the record it rewrites. -/
theorem countP_update {p : α → Bool} {x : α} (h : lookup key k xs = some x) :
    (update key k f xs).countP p + (if p x then 1 else 0)
      = xs.countP p + (if p (f x) then 1 else 0) := by
  induction xs with
  | nil => cases h
  | cons y ys ih =>
    rw [lookup_cons] at h
    by_cases hy : key y = k
    · rw [if_pos hy] at h
      obtain rfl := Option.some.inj h
      rw [update, if_pos hy, List.countP_cons, List.countP_cons]
      omega
    · rw [if_neg hy] at h
      have := ih h
      rw [update, if_neg hy, List.countP_cons, List.countP_cons]
      omega

/-! ## Distinct keys -/

theorem lookup_of_mem (h : (xs.map key).Nodup) {x : α} (hx : x ∈ xs) :
    lookup key (key x) xs = some x := by
  induction xs with
  | nil => cases hx
  | cons y ys ih =>
    rw [List.map_cons, List.nodup_cons] at h
    rw [lookup_cons]
    rcases List.mem_cons.mp hx with rfl | hx
    · rw [if_pos rfl]
    · have hne : key y ≠ key x := fun heq => h.1 (heq ▸ List.mem_map_of_mem hx)
      rw [if_neg hne]
      exact ih h.2 hx

/-- A key at most one record has: looked up from either end, it is the same record. -/
theorem lookup_reverse (h : (xs.map key).count k ≤ 1) :
    lookup key k xs.reverse = lookup key k xs := by
  induction xs with
  | nil => rfl
  | cons y ys ih =>
    rw [List.map_cons, List.count_cons] at h
    have happend : lookup key k (ys.reverse ++ [y])
        = (lookup key k ys.reverse).or (lookup key k [y]) := List.find?_append
    rw [List.reverse_cons, happend, ih (by omega), lookup_cons]
    by_cases hy : key y = k
    · have hrest : lookup key k ys = none := by
        rw [lookup_eq_none_iff, ← List.count_eq_zero]
        rw [if_pos (beq_iff_eq.mpr hy)] at h
        omega
      rw [hrest, if_pos hy, Option.none_or, lookup_cons, if_pos hy]
    · rw [if_neg hy, lookup_cons, if_neg hy]
      exact Option.or_none

section Fold

variable {σ β : Type*} {turn : σ → α → σ}

omit [DecidableEq κ] in
/-- A fold leaves alone what belongs to a key no record has. -/
theorem foldl_of_not_mem (key : α → κ) (view : κ → σ → β)
    (hother : ∀ s x k, k ≠ key x → view k (turn s x) = view k s)
    (hk : k ∉ xs.map key) (s : σ) : view k (xs.foldl turn s) = view k s := by
  induction xs generalizing s with
  | nil => rfl
  | cons x xs ih =>
    rw [List.map_cons, List.mem_cons, not_or] at hk
    rw [List.foldl_cons, ih hk.2, hother s x k hk.1]

/-- **A fold does to a key one record has what that record's turn does.** -/
theorem foldl_of_mem (key : α → κ) (view : κ → σ → β) (own : α → β → β)
    (hother : ∀ s x k, k ≠ key x → view k (turn s x) = view k s)
    (hself : ∀ s x, view (key x) (turn s x) = own x (view (key x) s))
    {x : α} (honce : (xs.map key).count (key x) ≤ 1) (hx : x ∈ xs) (s : σ) :
    view (key x) (xs.foldl turn s) = own x (view (key x) s) := by
  induction xs generalizing s with
  | nil => cases hx
  | cons y ys ih =>
    rw [List.map_cons, List.count_cons] at honce
    rw [List.foldl_cons]
    rcases List.mem_cons.mp hx with rfl | hx
    · rw [if_pos (beq_self_eq_true _)] at honce
      rw [foldl_of_not_mem key view hother (List.count_eq_zero.mp (by omega)), hself]
    · have hpos : 0 < (ys.map key).count (key x) :=
        List.count_pos_iff.mpr (List.mem_map_of_mem hx)
      have hne : key x ≠ key y := by
        intro heq
        rw [heq, if_pos (beq_self_eq_true _)] at honce
        rw [heq] at hpos
        omega
      rw [ih (by omega) hx, hother s y (key x) hne]

end Fold

end Lib.Keyed
