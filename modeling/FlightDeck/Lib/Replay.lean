import Mathlib.Data.List.Basic
import Mathlib.Data.List.Induction
import Mathlib.Algebra.Order.Group.Nat

set_option relaxedAutoImplicit false
set_option autoImplicit false

/-!
# Replaying unacknowledged commands

A sender issues commands in an order and, whenever the link is restored, replays from some
command on; the receiver executes what reaches it, so a command may be executed several times
and an old one after a newer one. What saves the outcome is that a replay goes on to repeat
every later command as well. After `p` commands are *settled* in this sense, the last execution
of each of them is followed only by later commands.

## Main definitions

* `Replay.Settled` — the first `p` commands issued are settled by what was executed.
* `Replay.IsRegister` — an observation that each command either sets or leaves alone.

## Main results

* `Replay.Settled.execute`, `Replay.Settled.rewind`, `Replay.Settled.issue` — the steps of a
  sender and a receiver.
* `Replay.Settled.getLast?_filter_of_last` — a settled command is the last one of its kind.
* `Replay.Settled.observe_foldl` — once every command issued is settled, every register holds
  what executing each command once, in order of issue, would have left in it.
-/

namespace Replay

variable {α σ β : Type*}

/-- Only issued commands were executed, and after the last execution of each of the first `p`
of them came only commands issued later. -/
structure Settled (issued executed : List α) (p : ℕ) : Prop where
  /-- There are that many commands. -/
  le : p ≤ issued.length
  /-- Only issued commands were executed. -/
  mem : ∀ x ∈ executed, x ∈ issued
  /-- The last execution of a settled command is followed by later commands only. -/
  last : ∀ i x, i < p → issued[i]? = some x →
    ∃ before after, executed = before ++ x :: after ∧
      ∀ y ∈ after, ∃ j, i < j ∧ issued[j]? = some y

namespace Settled

variable {issued executed : List α} {p : ℕ}

/-- At the start nothing is settled. -/
lemma start (issued : List α) : Settled issued [] 0 where
  le := Nat.zero_le _
  mem := by simp
  last := fun _ _ h => absurd h (Nat.not_lt_zero _)

/-- Issuing a command changes nothing of what is settled. -/
lemma issue (h : Settled issued executed p) (x : α) : Settled (issued ++ [x]) executed p where
  le := by
    rw [List.length_append]
    exact Nat.le_add_right_of_le h.le
  mem y hy := List.mem_append_left _ (h.mem y hy)
  last i y hi hget := by
    rw [List.getElem?_append_left (lt_of_lt_of_le hi h.le)] at hget
    obtain ⟨before, after, hexecuted, hafter⟩ := h.last i y hi hget
    refine ⟨before, after, hexecuted, fun z hz => ?_⟩
    obtain ⟨j, hij, hj⟩ := hafter z hz
    refine ⟨j, hij, ?_⟩
    rw [List.getElem?_append_left (List.getElem?_eq_some_iff.mp hj).1]
    exact hj

/-- A replay may start from any settled command. -/
lemma rewind (h : Settled issued executed p) {p' : ℕ} (hp : p' ≤ p) :
    Settled issued executed p' where
  le := hp.trans h.le
  mem := h.mem
  last i x hi := h.last i x (lt_of_lt_of_le hi hp)

/-- Executing the next command settles it. -/
lemma execute (h : Settled issued executed p) {x : α} (hx : issued[p]? = some x) :
    Settled issued (executed ++ [x]) (p + 1) where
  le := (List.getElem?_eq_some_iff.mp hx).1
  mem y hy := by
    rcases List.mem_append.mp hy with hy | hy
    · exact h.mem y hy
    · rw [List.mem_singleton.mp hy]
      exact List.mem_of_getElem? hx
  last i y hi hget := by
    rcases Nat.lt_succ_iff_lt_or_eq.mp hi with hi | rfl
    · obtain ⟨before, after, hexecuted, hafter⟩ := h.last i y hi hget
      refine ⟨before, after ++ [x], by rw [hexecuted]; simp, fun z hz => ?_⟩
      rcases List.mem_append.mp hz with hz | hz
      · exact hafter z hz
      · exact ⟨p, hi, by rw [List.mem_singleton.mp hz, hx]⟩
    · obtain rfl : y = x := Option.some_inj.mp (hget.symm.trans hx)
      exact ⟨executed, [], by simp, by simp⟩

/-- Executing the commands from the next one up to some later one. -/
lemma executeSlice (h : Settled issued executed p) {k : ℕ} (hk : p + k ≤ issued.length) :
    Settled issued (executed ++ (issued.drop p).take k) (p + k) := by
  induction k with
  | zero => simpa using h
  | succ k ih =>
    have hlt : p + k < issued.length := hk
    have hget : (issued.drop p)[k]? = some issued[p + k] := by
      rw [List.getElem?_drop, List.getElem?_eq_getElem hlt]
    rw [List.take_add_one, hget, Option.toList_some, ← List.append_assoc]
    exact (ih hlt.le).execute (List.getElem?_eq_getElem hlt)

/-- **The last word**: once everything is settled, the last command executed of any kind is the
last one issued of that kind.

**Proof sketch.** After the last command issued of the kind none of the kind was issued, and
after its last execution only later commands were executed. -/
theorem getLast?_filter (h : Settled issued executed issued.length) (kind : α → Bool) :
    (executed.filter kind).getLast? = (issued.filter kind).getLast? := by
  rcases List.eq_nil_or_concat (issued.filter kind) with hnil | ⟨kept, x, hkept⟩
  · have hnone : executed.filter kind = [] := by
      rw [List.filter_eq_nil_iff] at hnil ⊢
      exact fun y hy => hnil y (h.mem y hy)
    rw [hnil, hnone]
  · rw [List.concat_eq_append] at hkept
    obtain ⟨before, rest, hissued, -, hrest⟩ := List.filter_eq_append_iff.mp hkept
    obtain ⟨between, later, hsplit, -, hx, hlater⟩ := List.filter_eq_cons_iff.mp hrest
    have hindex : issued[(before ++ between).length]? = some x := by
      rw [hissued, hsplit, ← List.append_assoc]
      simp
    obtain ⟨pre, post, hexecuted, hpost⟩ :=
      h.last _ x (List.getElem?_eq_some_iff.mp hindex).1 hindex
    have hnone : post.filter kind = [] := by
      rw [List.filter_eq_nil_iff]
      intro y hy
      obtain ⟨j, hj, hget⟩ := hpost y hy
      -- Whatever was issued after `x` is not of the kind.
      have hmem : y ∈ later := by
        rw [hissued, hsplit, ← List.append_assoc,
          List.getElem?_append_right hj.le, List.getElem?_cons] at hget
        rw [if_neg (by omega)] at hget
        exact List.mem_of_getElem? hget
      exact List.filter_eq_nil_iff.mp hlater y hmem
    rw [hkept, hexecuted, List.filter_append, List.filter_cons_of_pos hx, hnone]
    simp

/-- A settled command is the last one executed of its kind, if none of the kind was issued after
it. -/
theorem getLast?_filter_of_last (h : Settled issued executed p) {i : ℕ} (hi : i < p) {x : α}
    (hx : issued[i]? = some x) {kind : α → Bool} (hkind : kind x = true)
    (hlater : ∀ j y, i < j → issued[j]? = some y → kind y = false) :
    (executed.filter kind).getLast? = some x := by
  obtain ⟨before, after, hexecuted, hafter⟩ := h.last i x hi hx
  have hnone : after.filter kind = [] := by
    rw [List.filter_eq_nil_iff]
    intro y hy
    obtain ⟨j, hj, hget⟩ := hafter y hy
    rw [hlater j y hj hget]
    exact Bool.false_ne_true
  rw [hexecuted, List.filter_append, List.filter_cons_of_pos hkind, hnone]
  exact List.getLast?_concat

end Settled

/-- An observation `observe` of the state that commands of one kind set, each to a value of its
own, and all others leave alone. -/
structure IsRegister (step : σ → α → σ) (observe : σ → β) (kind : α → Bool) (value : α → β) :
    Prop where
  /-- A command of the kind sets it. -/
  set : ∀ s x, kind x = true → observe (step s x) = value x
  /-- Any other command leaves it alone. -/
  keep : ∀ s x, kind x = false → observe (step s x) = observe s

/-- A register holds the value of the last command of its kind. -/
lemma IsRegister.observe_foldl {step : σ → α → σ} {observe : σ → β} {kind : α → Bool}
    {value : α → β} (h : IsRegister step observe kind value) (xs : List α) (s : σ) :
    observe (xs.foldl step s) = ((xs.filter kind).getLast?.map value).getD (observe s) := by
  induction xs using List.reverseRecOn with
  | nil => rfl
  | append_singleton xs x ih =>
    rw [List.foldl_concat, List.filter_append]
    cases hkind : kind x with
    | true => simp [hkind, h.set _ _ hkind]
    | false => simp [hkind, h.keep _ _ hkind, ih]

/-- **Convergence**: once every command issued is settled, every register holds what executing
each command once, in order of issue, would have left in it. -/
theorem Settled.observe_foldl {issued executed : List α}
    (h : Settled issued executed issued.length) {step : σ → α → σ} {observe : σ → β}
    {kind : α → Bool} {value : α → β} (hregister : IsRegister step observe kind value) (s : σ) :
    observe (executed.foldl step s) = observe (issued.foldl step s) := by
  rw [hregister.observe_foldl, hregister.observe_foldl, h.getLast?_filter]

end Replay
