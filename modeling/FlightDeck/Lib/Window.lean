import Mathlib.Data.List.DropRight

set_option relaxedAutoImplicit false
set_option autoImplicit false

/-!
# The last elements of a stream

A bounded history of a stream holds the last `n` elements of what it was fed, `List.rtake n`.
The lemmas here say how such a window moves when the stream grows.

## Main results

* `Window.rtake_rtake_append` — a window of a window and what follows it is the window of all.
* `Window.rtake_concat_of_lt`, `Window.rtake_concat_of_length_eq` — one element more, before and
  after the window is full.
-/

namespace Window

variable {α β : Type*}

/-- A window is no longer than the stream, and no longer than its size. -/
@[simp] lemma length_rtake (n : ℕ) (l : List α) : (l.rtake n).length = min n l.length := by
  rw [List.rtake, List.length_drop]
  omega

/-- A short stream is all in the window. -/
lemma rtake_of_length_le {n : ℕ} {l : List α} (h : l.length ≤ n) : l.rtake n = l := by
  rw [List.rtake, Nat.sub_eq_zero_of_le h, List.drop_zero]

/-- The elements of a window, counted in the stream. -/
lemma getElem?_rtake (n : ℕ) (l : List α) (i : ℕ) :
    (l.rtake n)[i]? = l[l.length - n + i]? := by
  rw [List.rtake, List.getElem?_drop]

/-- What has left the window never comes back. -/
lemma rtake_rtake_append (n : ℕ) (l ys : List α) :
    (l.rtake n ++ ys).rtake n = (l ++ ys).rtake n := by
  simp only [List.rtake, List.length_append, List.length_drop, List.drop_append, List.drop_drop]
  congr 2 <;> omega

/-- A window of a longer window. -/
lemma rtake_rtake_of_le {m n : ℕ} (h : n ≤ m) (l : List α) :
    (l.rtake m).rtake n = l.rtake n := by
  simp only [List.rtake, List.length_drop, List.drop_drop]
  congr 1
  omega

/-- A window commutes with a map. -/
lemma rtake_map (f : α → β) (n : ℕ) (l : List α) : (l.map f).rtake n = (l.rtake n).map f := by
  rw [List.rtake, List.rtake, List.length_map, List.map_drop]

/-- A stream that fills the window alone hides what came before it. -/
lemma rtake_append_of_le_length {n : ℕ} (l : List α) {ys : List α} (h : n ≤ ys.length) :
    (l ++ ys).rtake n = ys.rtake n := by
  rw [List.rtake, List.rtake, List.length_append, List.drop_append,
    List.drop_of_length_le (by omega), List.nil_append]
  congr 1
  omega

/-- What came before a stream cannot be told from the window exactly if there is nothing of it or
the stream fills the window alone. -/
lemma rtake_append_eq_iff {n : ℕ} (l ys : List α) :
    (l ++ ys).rtake n = ys.rtake n ↔ l = [] ∨ n ≤ ys.length := by
  constructor
  · intro h
    have hlength := congrArg List.length h
    rw [length_rtake, length_rtake, List.length_append] at hlength
    rcases Nat.lt_or_ge ys.length n with hlt | hge
    · left
      rw [← List.length_eq_zero_iff]
      omega
    · exact Or.inr hge
  · rintro (rfl | h)
    · rfl
    · exact rtake_append_of_le_length l h

/-- The last element is in the window. -/
lemma getLast?_rtake {n : ℕ} (hn : 0 < n) (l : List α) : (l.rtake n).getLast? = l.getLast? := by
  rw [List.getLast?_eq_getElem?, List.getLast?_eq_getElem?, getElem?_rtake, length_rtake]
  rcases Nat.eq_zero_or_pos l.length with hzero | hpos
  · simp [List.length_eq_zero_iff.mp hzero]
  · congr 1
    omega

/-- Before the window is full, an element more makes it longer. -/
lemma rtake_concat_of_lt {n : ℕ} {l : List α} (h : l.length < n) (x : α) :
    (l ++ [x]).rtake n = l ++ [x] :=
  rtake_of_length_le (by rw [List.length_append, List.length_singleton]; omega)

/-- Once the window is full, an element more pushes the first one out. -/
lemma rtake_concat_of_length_eq {n : ℕ} {l : List α} (h : l.length = n) (hn : 0 < n) (x : α) :
    (l ++ [x]).rtake n = l.tail ++ [x] := by
  have hlength : (l ++ [x]).length - n = 1 := by
    rw [List.length_append, List.length_singleton, h]
    omega
  rw [List.rtake, hlength, List.drop_append_of_le_length (by omega), List.drop_one]

end Window
