import FlightDeck.System.ControlRuns

set_option relaxedAutoImplicit false
set_option autoImplicit false

/-!
# Fault commands converge

Replays may have executed commands several times, and an old one after a newer one, but each
fault flag is a register that only the commands of its fault set, so only the last execution of
each kind counts.

## Main results

* `isRegister_applyCommand` — a fault flag is a register.
* `ControlLink.faults_converge` — once nothing is pending, the fault flags are those of the
  accepted commands executed once each in order of issue.
-/

namespace FlightDeck.System

open Server Generator TransitionSystem Replay

/-- A fault flag is set by the commands of its fault, and left alone by the others. -/
lemma isRegister_applyCommand (i : ℕ) :
    IsRegister applyCommand (fun faultFlags => faultFlags.getLsbD i)
      (fun command => (faultMask command.fault.name).getLsbD i) fun command => command.enabled where
  set faultFlags command hkind := by
    cases henabled : command.enabled <;> simp [applyCommand, henabled, hkind]
  keep faultFlags command hkind := by
    cases henabled : command.enabled
    · have hlt : faultFlags.getLsbD i = true → i < 32 := BitVec.lt_of_getLsbD
      simpa [applyCommand, henabled, hkind] using hlt
    · simp [applyCommand, henabled, hkind]

namespace ControlLink

/-- **Convergence**: whenever nothing is pending, the fault flags are those of the accepted
commands, executed once each in the order they were issued — whatever connections were lost,
however the text was cut and however often commands were executed again. -/
theorem faults_converge {actions : List Action} {link : ControlLink} {trace : List Event}
    (hrun : system.run actions = some (link, trace))
    (hids : ((accepted trace).map (·.id)).Nodup) (hpending : link.client.pending.values = []) :
    link.faultFlags = (accepted trace).foldl applyCommand 0 := by
  obtain ⟨acked, executed, p, hacc⟩ := isInvariant.of_run hrun hids
  have hinv := hacc.invariant
  -- Everything is acknowledged, so everything is settled.
  have hdrop : (accepted trace).drop acked = [] := by
    simpa [InsertionMap.values, hinv.entries, Function.comp_def] using hpending
  have hp : p = (accepted trace).length :=
    le_antisymm hinv.settled.le ((List.drop_eq_nil_iff.mp hdrop).trans hinv.acked_le)
  have hsettled : Settled (accepted trace) executed (accepted trace).length := hp ▸ hinv.settled
  rw [hinv.flags]
  exact BitVec.eq_of_getLsbD_eq fun i _ =>
    hsettled.observe_foldl (isRegister_applyCommand i) 0

/-- Three executions of two commands, and both flags agree. -/
theorem faults_converge_replayedCommand : ∃ link trace,
    system.run replayedCommand = some (link, trace) ∧ (handledLines trace).length = 3 ∧
      link.faultFlags = (accepted trace).foldl applyCommand 0 := by
  have hany : (system.run replayedCommand).any (fun now =>
      (handledLines now.2).length = 3 ∧ ((accepted now.2).map (·.id)).Nodup ∧
        now.1.client.pending.values.isEmpty = true) = true := by decide +kernel
  obtain ⟨⟨link, trace⟩, hrun, hfacts⟩ := (Option.any_eq_true _ _).mp hany
  rw [decide_eq_true_eq] at hfacts
  exact ⟨link, trace, hrun, hfacts.1, faults_converge hrun hfacts.2.1
    (List.isEmpty_iff.mp hfacts.2.2)⟩

end ControlLink

end FlightDeck.System
