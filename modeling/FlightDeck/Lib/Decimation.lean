import Mathlib.Data.List.Basic
import Mathlib.Data.List.Destutter
import Mathlib.Data.List.Forall2
import Mathlib.Data.List.Induction

set_option relaxedAutoImplicit false
set_option autoImplicit false

/-!
# Thinning out a stream

A stream is thinned out by a decision about each element, made of it and of an earlier element.
When the decision looks at the earlier element through a key only, and an element whose key is
new is always kept, every element dropped has the key of the last one kept. So it makes no
difference whether an element is compared with the last one kept or with its neighbour, and
whatever is observed where the key changes is observed of the thinned stream as well.

## Main definitions

* `Decimation.thin` — what is kept when each element is compared with its neighbour.
* `Decimation.push` — one element more, compared with the last one kept.
* `Decimation.KeepsChanges` — a decision that keeps every change of a key.
* `Decimation.along` — what is observed of neighbours along a stream.

## Main results

* `Decimation.KeepsChanges.foldl_push` — both comparisons keep the same elements.
* `Decimation.along_thin` — observations made where the key changes survive thinning, up to what
  they take from the earlier element other than its key.
* `Decimation.along_thin_eq_iff` — they survive exactly if the last element kept always leads to
  the same observation as the neighbour.
* `Decimation.filterMap_along_changes` — observations of the changes of a value are its successive
  values.
* `Decimation.nodup_map_along` — keys of observations that tell the element are distinct.
-/

namespace Decimation

variable {α β κ ε : Type*}

/-! ## Thinning -/

/-- What is kept of a stream when each element is compared with its neighbour. -/
def thin (keep : Option α → α → Bool) : Option α → List α → List α
  | _, [] => []
  | previous, x :: xs =>
    if keep previous x then x :: thin keep (some x) xs else thin keep (some x) xs

/-- One element more, compared with the last one kept. -/
def push (keep : Option α → α → Bool) (kept : List α) (x : α) : List α :=
  if keep kept.getLast? x then kept ++ [x] else kept

variable {keep : Option α → α → Bool}

@[simp] lemma thin_nil (previous : Option α) : thin keep previous [] = [] := rfl

/-- An element that is kept. -/
lemma thin_cons_of_keep {previous : Option α} {x : α} (h : keep previous x = true)
    (xs : List α) : thin keep previous (x :: xs) = x :: thin keep (some x) xs := by
  rw [thin, if_pos h]

/-- An element that is dropped. -/
lemma thin_cons_of_drop {previous : Option α} {x : α} (h : keep previous x = false)
    (xs : List α) : thin keep previous (x :: xs) = thin keep (some x) xs := by
  rw [thin, if_neg (by simp [h])]

/-- The last element of a stream, counting the one before its start. -/
lemma getLast?_cons_or (previous : Option α) (x : α) (xs : List α) :
    (x :: xs).getLast?.or previous = xs.getLast?.or (some x) := by
  cases h : xs.getLast? <;> simp [List.getLast?_cons, h]

/-- A stream in two parts. -/
lemma thin_append (previous : Option α) (xs ys : List α) :
    thin keep previous (xs ++ ys) =
      thin keep previous xs ++ thin keep (xs.getLast?.or previous) ys := by
  induction xs generalizing previous with
  | nil => simp
  | cons x xs ih =>
    rw [getLast?_cons_or, List.cons_append]
    cases hkeep : keep previous x with
    | true => rw [thin_cons_of_keep hkeep, thin_cons_of_keep hkeep, ih, List.cons_append]
    | false => rw [thin_cons_of_drop hkeep, thin_cons_of_drop hkeep, ih]

/-- Only elements of the stream are kept. -/
lemma mem_of_mem_thin {previous : Option α} {xs : List α} {y : α}
    (h : y ∈ thin keep previous xs) : y ∈ xs := by
  induction xs generalizing previous with
  | nil => simp at h
  | cons x xs ih =>
    cases hkeep : keep previous x with
    | true =>
      rw [thin_cons_of_keep hkeep, List.mem_cons] at h
      rcases h with rfl | h
      · exact List.mem_cons_self
      · exact List.mem_cons_of_mem x (ih h)
    | false =>
      rw [thin_cons_of_drop hkeep] at h
      exact List.mem_cons_of_mem x (ih h)

/-- A decision that looks at images only may be made of the images. -/
lemma map_thin (f : β → α) (previous : Option β) (xs : List β) :
    (thin (fun previous x => keep (previous.map f) (f x)) previous xs).map f =
      thin keep (previous.map f) (xs.map f) := by
  induction xs generalizing previous with
  | nil => rfl
  | cons x xs ih =>
    cases hkeep : keep (previous.map f) (f x) with
    | true => simp [thin, hkeep, ih]
    | false => simp [thin, hkeep, ih]

/-! ## Keys -/

/-- The decision looks at the earlier element through a key only, and drops an element only if
its key is that of the earlier one. -/
structure KeepsChanges (key : α → κ) (keep : Option α → α → Bool) : Prop where
  /-- Only the key of the earlier element matters. -/
  congr : ∀ {p q : Option α} (x : α), p.map key = q.map key → keep p x = keep q x
  /-- A new key is kept. -/
  of_drop : ∀ {p : Option α} {x : α}, keep p x = false → p.map key = some (key x)

namespace KeepsChanges

variable {key : α → κ} (h : KeepsChanges key keep)
include h

/-- **The last one kept** has the key of the last one seen. -/
theorem getLast?_thin (previous : Option α) (xs : List α) :
    ((thin keep previous xs).getLast?.or previous).map key =
      (xs.getLast?.or previous).map key := by
  induction xs generalizing previous with
  | nil => rfl
  | cons x xs ih =>
    rw [getLast?_cons_or, ← ih (some x)]
    cases hkeep : keep previous x with
    | true => rw [thin_cons_of_keep hkeep, getLast?_cons_or]
    | false =>
      rw [thin_cons_of_drop hkeep]
      cases (thin keep (some x) xs).getLast? with
      | none => simpa using h.of_drop hkeep
      | some y => rfl

/-- **The two comparisons** keep the same elements. -/
theorem foldl_push {kept : List α} (previous : Option α)
    (hkey : kept.getLast?.map key = previous.map key) (xs : List α) :
    xs.foldl (push keep) kept = kept ++ thin keep previous xs := by
  induction xs generalizing kept previous with
  | nil => simp
  | cons x xs ih =>
    rw [List.foldl_cons, push, h.congr x hkey]
    cases hkeep : keep previous x with
    | true =>
      rw [if_pos rfl, thin_cons_of_keep hkeep, ih (some x) (by simp),
        List.append_assoc, List.singleton_append]
    | false =>
      rw [if_neg (by simp), thin_cons_of_drop hkeep,
        ih (some x) (hkey.trans (h.of_drop hkeep))]

/-- Nothing is kept after an element exactly if that element is reason enough to drop each. -/
lemma thin_eq_nil_iff (previous : α) (xs : List α) :
    thin keep (some previous) xs = [] ↔ ∀ x ∈ xs, keep (some previous) x = false := by
  induction xs generalizing previous with
  | nil => simp
  | cons x xs ih =>
    rw [List.forall_mem_cons]
    cases hkeep : keep (some previous) x with
    | true => simp [thin_cons_of_keep hkeep]
    | false =>
      have hsame : ∀ y, keep (some previous) y = keep (some x) y := fun y =>
        h.congr y (h.of_drop hkeep)
      rw [thin_cons_of_drop hkeep, ih x]
      simp only [hsame, true_and]

/-- Where the last one kept is found in the stream. -/
lemma getLast?_thin_eq_some_iff (previous : Option α) (xs : List α) (kept : α) :
    (thin keep previous xs).getLast? = some kept ↔
      ∃ before dropped, xs = before ++ kept :: dropped ∧
        keep (before.getLast?.or previous) kept = true ∧
          ∀ x ∈ dropped, keep (some kept) x = false := by
  constructor
  · intro hlast
    induction xs using List.reverseRecOn with
    | nil => simp at hlast
    | append_singleton xs x ih =>
      rw [thin_append] at hlast
      cases hkeep : keep (xs.getLast?.or previous) x with
      | true =>
        rw [thin_cons_of_keep hkeep, thin_nil, List.getLast?_concat] at hlast
        obtain rfl : x = kept := Option.some_inj.mp hlast
        exact ⟨xs, [], by simp, hkeep, by simp⟩
      | false =>
        rw [thin_cons_of_drop hkeep, thin_nil, List.append_nil] at hlast
        obtain ⟨before, dropped, rfl, hkept, hdropped⟩ := ih hlast
        refine ⟨before, dropped ++ [x], by simp, hkept, ?_⟩
        rw [List.forall_mem_append, List.forall_mem_singleton]
        refine ⟨hdropped, ?_⟩
        -- The neighbour of `x` has the key of the last one kept.
        have hkey := h.getLast?_thin previous (before ++ kept :: dropped)
        rw [hlast] at hkey
        rw [← hkeep]
        exact h.congr x hkey
  · rintro ⟨before, dropped, rfl, hkept, hdropped⟩
    rw [thin_append, thin_cons_of_keep hkept, (h.thin_eq_nil_iff kept dropped).mpr hdropped,
      List.getLast?_concat]

end KeepsChanges

/-! ## Observations -/

/-- What is observed of an element and the one before it, along a stream. -/
def along (observe : Option α → α → List ε) : Option α → List α → List ε
  | _, [] => []
  | previous, x :: xs => observe previous x ++ along observe (some x) xs

variable {observe : Option α → α → List ε}

/-- A stream in two parts. -/
lemma along_append (previous : Option α) (xs ys : List α) :
    along observe previous (xs ++ ys) =
      along observe previous xs ++ along observe (xs.getLast?.or previous) ys := by
  induction xs generalizing previous with
  | nil => simp [along]
  | cons x xs ih =>
    rw [getLast?_cons_or, List.cons_append, along, along, ih, List.append_assoc]

/-- Observing at every element and remembering it. -/
lemma foldl_observe (events : List ε) (previous : Option α) (xs : List α) :
    (xs.foldl (fun (now : List ε × Option α) x => (now.1 ++ observe now.2 x, some x))
      (events, previous)).1 = events ++ along observe previous xs := by
  induction xs generalizing events previous with
  | nil => simp [along]
  | cons x xs ih => rw [List.foldl_cons, ih, along, List.append_assoc]

/-- **Changes**: what is observed of a value where it changes are its successive values. -/
lemma filterMap_along_changes [DecidableEq β] {value : α → β} {read : ε → Option β}
    (hchange : ∀ previous x, (observe (some previous) x).filterMap read =
      if value previous ≠ value x then [value x] else []) (previous : α) (xs : List α) :
    value previous :: (along observe (some previous) xs).filterMap read =
      (xs.map value).destutter' (· ≠ ·) (value previous) := by
  induction xs generalizing previous with
  | nil => rfl
  | cons x xs ih =>
    rw [along, List.filterMap_append, hchange, List.map_cons, List.destutter'_cons, ← ih x]
    split_ifs with hne
    · rfl
    · rw [List.nil_append, not_not.mp hne]
      exact ih x

/-- **Distinct keys**: if a key tells which element an observation was made of, and those of one
element are distinct, all are. -/
lemma nodup_map_along {key : ε → κ} {label : α → β} {source : κ → β → Prop}
    (hsource : ∀ previous x, ∀ event ∈ observe previous x, source (key event) (label x))
    (hfunctional : ∀ {k : κ} {a b : β}, source k a → source k b → a = b)
    (hnodup : ∀ previous x, ((observe previous x).map key).Nodup) (previous : Option α)
    {xs : List α} (h : (xs.map label).Nodup) :
    ((along observe previous xs).map key).Nodup := by
  have hmem : ∀ (xs : List α) previous, ∀ event ∈ along observe previous xs,
      ∃ x ∈ xs, source (key event) (label x) := by
    intro xs
    induction xs with
    | nil => simp [along]
    | cons x xs ih =>
      intro previous event hevent
      rcases List.mem_append.mp hevent with hevent | hevent
      · exact ⟨x, List.mem_cons_self, hsource previous x event hevent⟩
      · obtain ⟨y, hy, hkey⟩ := ih (some x) event hevent
        exact ⟨y, List.mem_cons_of_mem x hy, hkey⟩
  induction xs generalizing previous with
  | nil => simp [along]
  | cons x xs ih =>
    rw [List.map_cons, List.nodup_cons] at h
    rw [along, List.map_append, List.nodup_append']
    refine ⟨hnodup previous x, ih (some x) h.2, fun k hk hlater => h.1 ?_⟩
    obtain ⟨event, hevent, rfl⟩ := List.mem_map.mp hk
    obtain ⟨later, hlater, hkey⟩ := List.mem_map.mp hlater
    obtain ⟨y, hy, hsame⟩ := hmem xs (some x) later hlater
    rw [hkey] at hsame
    rw [hfunctional (hsource previous x event hevent) hsame]
    exact List.mem_map_of_mem hy

section Thinned

variable {key : α → κ} (h : KeepsChanges key keep)
  (hquiet : ∀ {p : Option α} {x : α}, p.map key = some (key x) → observe p x = [])
include h hquiet

/-- **Observations survive**: where nothing is observed without a change of the key, thinning
loses no observation and adds none, up to what an observation takes from the earlier element
other than its key. -/
theorem along_thin {R : ε → ε → Prop}
    (hobserve : ∀ {p q : Option α} (x : α), p.map key = q.map key →
      List.Forall₂ R (observe p x) (observe q x))
    {p q : Option α} (hkey : p.map key = q.map key) (xs : List α) :
    List.Forall₂ R (along observe p (thin keep q xs)) (along observe q xs) := by
  induction xs generalizing p q with
  | nil => exact List.Forall₂.nil
  | cons x xs ih =>
    cases hkeep : keep q x with
    | true =>
      rw [thin_cons_of_keep hkeep, along, along]
      exact List.rel_append (hobserve x hkey) (ih rfl)
    | false =>
      have hsame := h.of_drop hkeep
      rw [thin_cons_of_drop hkeep, along, hquiet hsame, List.nil_append]
      exact ih (hkey.trans hsame)

/-- **What survives unchanged**: thinning changes no observation exactly if the last element kept
leads at every element to the same observations as the neighbour. -/
theorem along_thin_eq_iff
    (hlength : ∀ {p q : Option α} (x : α), p.map key = q.map key →
      (observe p x).length = (observe q x).length)
    {p q : Option α} (hkey : p.map key = q.map key) (xs : List α) :
    along observe p (thin keep q xs) = along observe q xs ↔
      ∀ before x after, xs = before ++ x :: after →
        observe ((thin keep q before).getLast?.or p) x = observe (before.getLast?.or q) x := by
  induction xs generalizing p q with
  | nil => simp [along]
  | cons x xs ih =>
    -- The first element, and the others seen from it.
    have hsplit : (∀ before y after, x :: xs = before ++ y :: after →
        observe ((thin keep q before).getLast?.or p) y = observe (before.getLast?.or q) y) ↔
        observe p x = observe q x ∧ ∀ before y after, xs = before ++ y :: after →
          observe ((thin keep q (x :: before)).getLast?.or p) y =
            observe (before.getLast?.or (some x)) y := by
      constructor
      · intro hall
        refine ⟨hall [] x xs rfl, fun before y after heq => ?_⟩
        rw [← getLast?_cons_or q]
        exact hall (x :: before) y after (by rw [heq, List.cons_append])
      · rintro ⟨hfirst, hrest⟩ before y after heq
        rcases List.cons_eq_append_iff.mp heq with ⟨rfl, hxs⟩ | ⟨before, rfl, hxs⟩
        · obtain ⟨rfl, rfl⟩ := List.cons.inj hxs
          exact hfirst
        · rw [getLast?_cons_or]
          exact hrest before y after hxs
    rw [hsplit]
    cases hkeep : keep q x with
    | true =>
      rw [thin_cons_of_keep hkeep, along, along]
      constructor
      · intro heq
        obtain ⟨hfirst, hrest⟩ := List.append_inj heq (hlength x hkey)
        refine ⟨hfirst, fun before y after hxs => ?_⟩
        rw [thin_cons_of_keep hkeep, getLast?_cons_or]
        exact (ih rfl).mp hrest before y after hxs
      · rintro ⟨hfirst, hrest⟩
        rw [hfirst, (ih rfl).mpr fun before y after hxs => ?_]
        have := hrest before y after hxs
        rwa [thin_cons_of_keep hkeep, getLast?_cons_or] at this
    | false =>
      have hsame := h.of_drop hkeep
      rw [thin_cons_of_drop hkeep, along, hquiet hsame, List.nil_append,
        hquiet (hkey.trans hsame), ih (p := p) (q := some x) (hkey.trans hsame)]
      simp only [thin_cons_of_drop hkeep, true_and]

end Thinned

end Decimation
