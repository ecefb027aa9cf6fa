import Mathlib.Data.List.Basic
import Mathlib.Data.List.Induction
import Mathlib.Data.List.TakeWhile

set_option relaxedAutoImplicit false
set_option autoImplicit false

/-!
# Delimiter framing of a stream

A stream of records, each ended by a delimiter, arrives in chunks cut anywhere. The receiver
appends each chunk to a buffer and takes complete records off its front until none is left.

## Main definitions

* `Framing.frame` — the stream of a list of records.
* `Framing.cut` — the first record of a buffer and what follows it.
* `Framing.consume` — the receiver's loop: handle and remove complete records while there are
  any.

## Main results

* `Framing.consume_induction` — what every record leaves true, the loop leaves true.
* `Framing.consume_frame` — the loop handles exactly the complete records, in order.
* `Framing.exists_split_of_append_eq` — a prefix of a stream is some of its records and the
  beginning of the next one.
* `Framing.consume_eq`, `Framing.foldl_consume` — any text, and any text in chunks.
-/

namespace Framing

variable {α σ : Type*} (d : α)

/-! ## Streams -/

/-- The stream of a list of records. -/
def frame (records : List (List α)) : List α := (records.map (· ++ [d])).flatten

@[simp] lemma frame_nil : frame d [] = [] := rfl

@[simp] lemma frame_cons (record : List α) (records : List (List α)) :
    frame d (record :: records) = record ++ d :: frame d records := by
  simp [frame]

@[simp] lemma frame_append (xs ys : List (List α)) :
    frame d (xs ++ ys) = frame d xs ++ frame d ys := by
  simp [frame]

/-- Only the empty list of records has an empty stream. -/
@[simp] lemma frame_eq_nil_iff {records : List (List α)} : frame d records = [] ↔ records = [] := by
  cases records <;> simp

/-- There are no more records than elements in their stream. -/
lemma length_le_length_frame (records : List (List α)) :
    records.length ≤ (frame d records).length := by
  induction records with
  | nil => simp
  | cons record records ih =>
    rw [frame_cons, List.length_append, List.length_cons, List.length_cons]
    omega

/-- Every text is the stream of some records and an unfinished one. -/
lemma exists_frame_append (text : List α) :
    ∃ records rest, (∀ record ∈ records, d ∉ record) ∧ d ∉ rest ∧
      text = frame d records ++ rest := by
  induction text using List.reverseRecOn with
  | nil => exact ⟨[], [], by simp, by simp, rfl⟩
  | append_singleton text c ih =>
    obtain ⟨records, rest, hrecords, hrest, rfl⟩ := ih
    rcases eq_or_ne d c with rfl | hne
    · refine ⟨records ++ [rest], [], ?_, by simp, by simp⟩
      intro record hmem
      rcases List.mem_append.mp hmem with hmem | hmem
      · exact hrecords record hmem
      · exact List.mem_singleton.mp hmem ▸ hrest
    · exact ⟨records, rest ++ [c], hrecords, by simp [hrest, hne], by simp⟩

/-- **A prefix of a stream** is the stream of its first records and the beginning of the next
one; what is still to come completes the other records.

**Proof sketch.** Induction on the records. Either the prefix ends within the first record, and
then it holds no delimiter, or it goes past it. -/
theorem exists_split_of_append_eq {records : List (List α)}
    (hrecords : ∀ record ∈ records, d ∉ record) {x y : List α}
    (h : x ++ y = frame d records) :
    ∃ j ≤ records.length, ∃ rest, d ∉ rest ∧ x = frame d (records.take j) ++ rest ∧
      rest ++ y = frame d (records.drop j) := by
  induction records generalizing x with
  | nil =>
    obtain ⟨rfl, rfl⟩ := List.append_eq_nil_iff.mp h
    exact ⟨0, le_rfl, [], by simp, rfl, rfl⟩
  | cons record records ih =>
    obtain ⟨hrecord, hrecords⟩ := List.forall_mem_cons.mp hrecords
    have h' : x ++ y = (record ++ [d]) ++ frame d records := by simpa using h
    rcases List.append_eq_append_iff.mp h' with ⟨c, hc, hy⟩ | ⟨c, hc, hframe⟩
    · rcases List.eq_nil_or_concat c with rfl | ⟨c, e, rfl⟩
      · refine ⟨1, by simp, [], by simp, ?_, by simpa using hy⟩
        simpa using hc.symm
      · -- The chunk ends within the first record.
        have hcut : record = x ++ c := by
          rw [List.concat_eq_append, ← List.append_assoc] at hc
          exact (List.append_inj' hc rfl).1
        refine ⟨0, Nat.zero_le _, x, fun hmem => hrecord ?_, by simp, by simpa using h⟩
        rw [hcut]
        exact List.mem_append_left _ hmem
    · obtain ⟨j, hj, rest, hrest, hx, hy⟩ := ih hrecords hframe.symm
      refine ⟨j + 1, by simpa using hj, rest, hrest, ?_, by simpa using hy⟩
      rw [hc, hx]
      simp

/-! ## The receiver -/

variable [DecidableEq α]

/-- The text before the first delimiter and the text after it, if there is a delimiter. -/
def cut (text : List α) : Option (List α × List α) :=
  match text.dropWhile (· ≠ d) with
  | [] => none
  | _ :: rest => some (text.takeWhile (· ≠ d), rest)

/-- A text without a delimiter has no complete record. -/
lemma cut_of_not_mem {text : List α} (h : d ∉ text) : cut d text = none := by
  have hdrop : text.dropWhile (· ≠ d) = [] := by
    rw [List.dropWhile_eq_nil_iff]
    intro x hx
    simpa using fun heq : x = d => h (heq ▸ hx)
  rw [cut, hdrop]

/-- The first record of a text that starts with a complete one. -/
lemma cut_append {record : List α} (h : d ∉ record) (rest : List α) :
    cut d (record ++ d :: rest) = some (record, rest) := by
  have hall : ∀ x ∈ record, decide (x ≠ d) = true := fun x hx => by
    simpa using fun heq : x = d => h (heq ▸ hx)
  rw [cut, List.dropWhile_append_of_pos hall, List.takeWhile_append_of_pos hall]
  simp

/-- What is cut off a text. -/
lemma cut_eq_some_iff {text record rest : List α} :
    cut d text = some (record, rest) ↔ text = record ++ d :: rest ∧ d ∉ record := by
  constructor
  · intro h
    by_cases hmem : d ∈ text
    · obtain ⟨before, after, rfl, hbefore⟩ := List.eq_append_cons_of_mem hmem
      rw [cut_append d hbefore] at h
      obtain ⟨rfl, rfl⟩ := Prod.mk.inj (Option.some_inj.mp h)
      exact ⟨rfl, hbefore⟩
    · rw [cut_of_not_mem d hmem] at h
      simp at h
  · rintro ⟨rfl, hrecord⟩
    exact cut_append d hrecord rest

/-- Nothing is cut off a text without a delimiter. -/
lemma cut_eq_none_iff {text : List α} : cut d text = none ↔ d ∉ text := by
  refine ⟨fun h hmem => ?_, cut_of_not_mem d⟩
  obtain ⟨before, after, rfl, hbefore⟩ := List.eq_append_cons_of_mem hmem
  rw [cut_append d hbefore] at h
  simp at h

/-- Handle and remove complete records, at most `fuel` of them. -/
def drain (step : σ → List α → σ) : ℕ → σ → List α → σ × List α
  | 0, s, text => (s, text)
  | fuel + 1, s, text =>
    match cut d text with
    | none => (s, text)
    | some (record, rest) => drain step fuel (step s record) rest

/-- The receiver's loop. Every record takes at least its delimiter off the buffer, so there are
no more of them than elements. -/
def consume (step : σ → List α → σ) (s : σ) (text : List α) : σ × List α :=
  drain d step text.length s text

/-- What every record leaves true, the loop leaves true. -/
lemma consume_induction {P : σ → Prop} {step : σ → List α → σ}
    (hstep : ∀ s record, P s → P (step s record)) {s : σ} (h : P s) (text : List α) :
    P (consume d step s text).1 := by
  have hdrain : ∀ fuel s text, P s → P (drain d step fuel s text).1 := by
    intro fuel
    induction fuel with
    | zero => exact fun s text h => h
    | succ fuel ih =>
      intro s text h
      rw [drain]
      split
      · exact h
      · exact ih _ _ (hstep _ _ h)
  exact hdrain _ s text h

/-- With enough fuel the complete records are handled in order and the rest is kept. -/
lemma drain_frame (step : σ → List α → σ) (s : σ) {records : List (List α)}
    (hrecords : ∀ record ∈ records, d ∉ record) {rest : List α} (hrest : d ∉ rest) {fuel : ℕ}
    (hfuel : records.length ≤ fuel) :
    drain d step fuel s (frame d records ++ rest) = (records.foldl step s, rest) := by
  induction records generalizing s fuel with
  | nil =>
    cases fuel with
    | zero => rfl
    | succ fuel => simp [drain, cut_of_not_mem d hrest]
  | cons record records ih =>
    obtain ⟨hrecord, hrecords⟩ := List.forall_mem_cons.mp hrecords
    cases fuel with
    | zero => simp at hfuel
    | succ fuel =>
      rw [frame_cons, List.append_assoc, List.cons_append, drain, cut_append d hrecord]
      exact ih (step s record) hrecords (by simpa using hfuel)

/-- **The receiver's loop** handles the complete records in order and keeps the rest. -/
theorem consume_frame (step : σ → List α → σ) (s : σ) {records : List (List α)}
    (hrecords : ∀ record ∈ records, d ∉ record) {rest : List α} (hrest : d ∉ rest) :
    consume d step s (frame d records ++ rest) = (records.foldl step s, rest) := by
  refine drain_frame d step s hrecords hrest ?_
  have hlength := length_le_length_frame d records
  rw [List.length_append]
  omega

/-! ## Any text, in any chunks -/

/-- The records are what the text splits into, and the unfinished one comes last. -/
lemma splitOn_frame_append {records : List (List α)} (hrecords : ∀ record ∈ records, d ∉ record)
    {rest : List α} (hrest : d ∉ rest) :
    (frame d records ++ rest).splitOn d = records ++ [rest] := by
  induction records with
  | nil => simpa using List.splitOn_eq_singleton hrest
  | cons record records ih =>
    obtain ⟨hrecord, hrecords⟩ := List.forall_mem_cons.mp hrecords
    rw [frame_cons, List.append_assoc, List.cons_append,
      List.splitOn_append_cons_self_of_not_mem hrecord, ih hrecords]
    rfl

/-- **The receiver's loop on any text**: it handles what the text splits into, but for the last
part, which it keeps. -/
theorem consume_eq (step : σ → List α → σ) (s : σ) (text : List α) :
    consume d step s text =
      ((text.splitOn d).dropLast.foldl step s, (text.splitOn d).getLastD []) := by
  obtain ⟨records, rest, hrecords, hrest, rfl⟩ := exists_frame_append d text
  rw [consume_frame d step s hrecords hrest, splitOn_frame_append d hrecords hrest]
  simp

/-- What the loop keeps has no delimiter. -/
lemma notMem_consume (step : σ → List α → σ) (s : σ) (text : List α) :
    d ∉ (consume d step s text).2 := by
  obtain ⟨records, rest, hrecords, hrest, rfl⟩ := exists_frame_append d text
  rw [consume_frame d step s hrecords hrest]
  exact hrest

/-- A text without a delimiter is kept. -/
lemma consume_of_notMem (step : σ → List α → σ) (s : σ) {text : List α} (h : d ∉ text) :
    consume d step s text = (s, text) := by
  simpa using consume_frame d step s (List.forall_mem_nil _) h

/-- A text in two parts. -/
lemma consume_append (step : σ → List α → σ) (s : σ) (x y : List α) :
    consume d step s (x ++ y) =
      consume d step (consume d step s x).1 ((consume d step s x).2 ++ y) := by
  obtain ⟨records, rest, hrecords, hrest, rfl⟩ := exists_frame_append d x
  obtain ⟨later, last, hlater, hlast, hy⟩ := exists_frame_append d (rest ++ y)
  rw [consume_frame d step s hrecords hrest]
  dsimp only
  rw [List.append_assoc, hy, consume_frame d step _ hlater hlast, ← List.append_assoc,
    ← frame_append, consume_frame d step s ?_ hlast, List.foldl_append]
  intro record hmem
  rcases List.mem_append.mp hmem with hmem | hmem
  · exact hrecords record hmem
  · exact hlater record hmem

/-- **A text in chunks**: it does not matter where it is cut. -/
theorem foldl_consume (step : σ → List α → σ) (s : σ) {pending : List α} (hpending : d ∉ pending)
    (chunks : List (List α)) :
    chunks.foldl (fun now chunk => consume d step now.1 (now.2 ++ chunk)) (s, pending) =
      consume d step s (pending ++ chunks.flatten) := by
  induction chunks using List.reverseRecOn with
  | nil => simpa using (consume_of_notMem d step s hpending).symm
  | append_singleton chunks chunk ih =>
    rw [List.foldl_concat, ih, List.flatten_append, List.flatten_singleton, ← List.append_assoc,
      consume_append d step s _ chunk]

/-- If there is a chunk, it does not matter either what was there before. -/
theorem foldl_consume_of_ne_nil (step : σ → List α → σ) (s : σ) (pending : List α)
    {chunks : List (List α)} (hne : chunks ≠ []) :
    chunks.foldl (fun now chunk => consume d step now.1 (now.2 ++ chunk)) (s, pending) =
      consume d step s (pending ++ chunks.flatten) := by
  obtain ⟨chunk, chunks, rfl⟩ := List.exists_cons_of_ne_nil hne
  rw [List.foldl_cons, List.flatten_cons, ← List.append_assoc,
    consume_append d step s (pending ++ chunk)]
  exact foldl_consume d step _ (notMem_consume d step s (pending ++ chunk)) chunks

/-- A change of the state that commutes with the handling of a record. -/
lemma consume_map (step : σ → List α → σ) (f : σ → σ)
    (hf : ∀ s record, step (f s) record = f (step s record)) (s : σ) (text : List α) :
    consume d step (f s) text = (f (consume d step s text).1, (consume d step s text).2) := by
  rw [consume_eq, consume_eq]
  congr 1
  generalize (text.splitOn d).dropLast = records
  induction records generalizing s with
  | nil => rfl
  | cons record records ih => rw [List.foldl_cons, List.foldl_cons, hf, ih]

end Framing
