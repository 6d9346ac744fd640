/-
# Lib.Table — finite maps: association lists with distinct keys, read by lookup.

Mathlib's `AList` has lookup, insertion and erasure. Each operation is described by the lookups
after it, so nothing that is proved depends on the order of the rows.
-/
import Mathlib.Data.List.AList
import Mathlib.Tactic

namespace Lib

abbrev Table (κ β : Type) := AList fun _ : κ => β

namespace Table

variable {κ β : Type} [DecidableEq κ] {t : Table κ β} {k j : κ} {v : β}

theorem lookup_insert_eq : (t.insert k v).lookup j = if j = k then some v else t.lookup j := by
  split
  · rename_i h
    rw [h, AList.lookup_insert]
  · rename_i h
    rw [AList.lookup_insert_ne h]

theorem lookup_erase_eq : (t.erase k).lookup j = if j = k then none else t.lookup j := by
  split
  · rename_i h
    rw [h, AList.lookup_erase]
  · rename_i h
    rw [AList.lookup_erase_ne h]

end Table

end Lib
