import Mathlib.Data.List.Nodup

set_option relaxedAutoImplicit false
set_option autoImplicit false

/-!
# Maps that remember insertion order

A JavaScript `Map` iterates over its entries in the order in which their keys were first set.

## Main definitions

* `InsertionMap` — entries with distinct keys, in insertion order.
* `InsertionMap.set`, `InsertionMap.delete`, `InsertionMap.values` — the methods.

## Main results

* `InsertionMap.entries_set_of_not_mem` — a new key goes last.
* `InsertionMap.entries_delete_head` — deleting the first key leaves the others in order.
-/

/-- A map as the list of its entries in insertion order. -/
@[ext] structure InsertionMap (K V : Type*) where
  /-- The entries. -/
  entries : List (K × V)
  /-- No key is set twice. -/
  nodup : (entries.map Prod.fst).Nodup

namespace InsertionMap

variable {K V : Type*}

/-- `new Map()`. -/
def empty (K V : Type*) : InsertionMap K V := ⟨[], List.nodup_nil⟩

/-- `map.values()`. -/
def values (map : InsertionMap K V) : List V := map.entries.map Prod.snd

variable [DecidableEq K]

/-- The entry of a key with its value replaced. -/
def replace (key : K) (value : V) (entry : K × V) : K × V :=
  if entry.1 = key then (key, value) else entry

lemma replace_fst (key : K) (value : V) (entry : K × V) :
    (replace key value entry).1 = entry.1 := by
  rw [replace]
  split
  · next h => exact h.symm
  · rfl

/-- `map.set(key, value)`: a key that is set keeps its place, a new one goes last. -/
def set (map : InsertionMap K V) (key : K) (value : V) : InsertionMap K V :=
  if h : key ∈ map.entries.map Prod.fst then
    { entries := map.entries.map (replace key value)
      nodup := by
        have hkeys : (map.entries.map (replace key value)).map Prod.fst =
            map.entries.map Prod.fst := by
          rw [List.map_map]
          exact List.map_congr_left fun entry _ => replace_fst key value entry
        exact hkeys ▸ map.nodup }
  else
    { entries := map.entries ++ [(key, value)]
      nodup := by
        rw [List.map_append, List.map_singleton, List.nodup_append]
        refine ⟨map.nodup, List.nodup_singleton _, fun a ha b hb hab => h ?_⟩
        rwa [hab, List.mem_singleton.mp hb] at ha }

/-- `map.delete(key)`. -/
def delete (map : InsertionMap K V) (key : K) : InsertionMap K V where
  entries := map.entries.filter fun entry => entry.1 ≠ key
  nodup := map.nodup.sublist (List.filter_sublist.map Prod.fst)

/-- A new key goes last. -/
lemma entries_set_of_not_mem (map : InsertionMap K V) {key : K} (value : V)
    (h : key ∉ map.entries.map Prod.fst) :
    (map.set key value).entries = map.entries ++ [(key, value)] := by
  rw [set, dif_neg h]

/-- Deleting the first key leaves the others in order. -/
lemma entries_delete_head (map : InsertionMap K V) {key : K} {value : V}
    {rest : List (K × V)} (h : map.entries = (key, value) :: rest) :
    (map.delete key).entries = rest := by
  have hnodup := map.nodup
  rw [h, List.map_cons, List.nodup_cons] at hnodup
  have hentries : (map.delete key).entries = map.entries.filter fun entry => entry.1 ≠ key := rfl
  rw [hentries, h, List.filter_cons_of_neg (by simp)]
  refine List.filter_eq_self.mpr fun entry hmem => ?_
  have hne : entry.1 ≠ key := by
    rintro rfl
    exact hnodup.1 (List.mem_map.mpr ⟨entry, hmem, rfl⟩)
  simpa using hne

end InsertionMap
