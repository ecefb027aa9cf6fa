import FlightDeck.Generator.ControlServer
import Mathlib.Data.Fin.VecNotation
import Mathlib.Logic.Function.Basic

set_option relaxedAutoImplicit false
set_option autoImplicit false

/-!
# What the control server accepts

`handle_command` takes a line apart with four calls of `std::getline`, of which the last reads to
the end of the line, and then checks the parts. Here is what it accepts, as a type: a line is
answered with an acknowledgement exactly if it is the text of a `CommandLine`. No other line
changes a flag, so the flags after any lines are what the well-formed ones among them make of
zero.

## Main definitions

* `CommandLine` — a well-formed line, with its text, its effect and its answer.
* `wellFormed` — the command line a text is, if it is one.
* `Answered` — what the server does with a line.

## Main results

* `readCommand_eq_some_iff` — what the four calls read.
* `handleCommand_text` — a well-formed line.
* `handleLines_eq` — any sequence of lines.
-/

namespace FlightDeck.Generator

/-! ## The four calls -/

/-- What a call on a good stream reads. -/
lemma getline_eq_some_iff {rest : List Char} {delimiter : Char} {text : List Char}
    {input : InputStream} :
    getline { rest } delimiter = some (text, input) ↔
      (rest = text ++ delimiter :: input.rest ∧ delimiter ∉ text ∧ input.good = true) ∨
        (delimiter ∉ rest ∧ rest ≠ [] ∧ text = rest ∧ input = { rest := [], good := false }) := by
  obtain ⟨later, good⟩ := input
  simp only [getline, Bool.not_true, Bool.false_eq_true, if_false]
  cases hcut : Framing.cut delimiter rest with
  | none =>
    have hmem := (Framing.cut_eq_none_iff delimiter).mp hcut
    dsimp only
    constructor
    · intro h
      split at h
      · simp at h
      · next hne =>
        obtain ⟨rfl, hinput⟩ := Prod.mk.inj (Option.some_inj.mp h)
        exact Or.inr ⟨hmem, hne, rfl, hinput.symm⟩
    · rintro (⟨rfl, -, -⟩ | ⟨-, hne, rfl, hinput⟩)
      · simp at hmem
      · rw [if_neg hne, hinput]
  | some part =>
    obtain ⟨before, after⟩ := part
    obtain ⟨rfl, hbefore⟩ := (Framing.cut_eq_some_iff delimiter).mp hcut
    dsimp only
    constructor
    · intro h
      obtain ⟨rfl, hinput⟩ := Prod.mk.inj (Option.some_inj.mp h)
      obtain ⟨rfl, rfl⟩ := InputStream.mk.inj hinput
      exact Or.inl ⟨rfl, hbefore, rfl⟩
    · rintro (⟨heq, htext, rfl⟩ | ⟨hmem, -⟩)
      · rw [heq, Framing.cut_append delimiter htext] at hcut
        obtain ⟨rfl, rfl⟩ := Prod.mk.inj (Option.some_inj.mp hcut)
        rfl
      · simp at hmem

/-- A call on a stream that is not good fails. -/
lemma getline_of_not_good (rest : List Char) (delimiter : Char) :
    getline { rest, good := false } delimiter = none := rfl

/-- A call that a later one can follow has found its delimiter. -/
lemma exists_of_getline_getline {rest text : List Char} {delimiter delimiter' : Char}
    {input : InputStream} (h : getline { rest } delimiter = some (text, input))
    {result : List Char × InputStream} (hnext : getline input delimiter' = some result) :
    ∃ later, rest = text ++ delimiter :: later ∧ delimiter ∉ text ∧ input = { rest := later } := by
  obtain ⟨later, good⟩ := input
  rcases getline_eq_some_iff.mp h with ⟨hrest, htext, hgood⟩ | ⟨-, -, -, hinput⟩
  · obtain rfl : good = true := hgood
    exact ⟨later, hrest, htext, rfl⟩
  · rw [hinput, getline_of_not_good] at hnext
    simp at hnext

/-- **The four calls** read the fields of a line that has at least four, the last of them not
empty; tabs after the third one belong to the fourth field. -/
lemma readCommand_eq_some_iff {line : List Char} (hline : '\n' ∉ line)
    {verb id fault enabledText : List Char} :
    readCommand line = some (verb, id, fault, enabledText) ↔
      line = verb ++ '\t' :: (id ++ '\t' :: (fault ++ '\t' :: enabledText)) ∧
        '\t' ∉ verb ∧ '\t' ∉ id ∧ '\t' ∉ fault ∧ enabledText ≠ [] := by
  constructor
  · intro h
    simp only [readCommand, Option.bind_eq_bind, Option.bind_eq_some_iff, Option.pure_def,
      Option.some_inj, Prod.mk.injEq] at h
    obtain ⟨⟨_, first⟩, hverb, ⟨_, second⟩, hid, ⟨_, third⟩, hfault, ⟨_, last⟩, henabled,
      rfl, rfl, rfl, rfl⟩ := h
    obtain ⟨afterVerb, rfl, htabVerb, rfl⟩ := exists_of_getline_getline hverb hid
    obtain ⟨afterId, rfl, htabId, rfl⟩ := exists_of_getline_getline hid hfault
    obtain ⟨afterFault, rfl, htabFault, rfl⟩ := exists_of_getline_getline hfault henabled
    -- The line has no newline, so the last call reads to its end.
    rcases getline_eq_some_iff.mp henabled with ⟨hrest, -, -⟩ | ⟨-, hne, rfl, -⟩
    · exact absurd (by simp [hrest]) hline
    · exact ⟨rfl, htabVerb, htabId, htabFault, hne⟩
  · rintro ⟨rfl, hverb, hid, hfault, hne⟩
    exact readCommand_fields hverb hid hfault (fun hmem => hline (by simp [hmem])) hne

/-! ## Flags -/

/-- A flag, by its bits. -/
lemma getLsbD_one_shiftLeft {k : ℕ} (hk : k < 32) (i : ℕ) :
    (1#32 <<< k).getLsbD i = decide (i = k) := by
  rw [BitVec.getLsbD_shiftLeft, BitVec.getLsbD_one]
  rcases Nat.lt_trichotomy i k with hlt | rfl | hgt
  · simp [hlt, hlt.ne]
  · simp [hk]
  · have hne : i - k ≠ 0 := by omega
    simp [hne, hgt.ne']

/-- Setting or clearing a flag leaves the others alone. -/
lemma getLsbD_ite_flag (faultFlags : BitVec 32) (enabled : Bool) {k i : ℕ} (hk : k < 32)
    (hi : i < 32) :
    (if enabled then faultFlags ||| 1#32 <<< k else faultFlags &&& ~~~(1#32 <<< k)).getLsbD i =
      if i = k then enabled else faultFlags.getLsbD i := by
  cases enabled with
  | true =>
    rw [if_pos rfl, BitVec.getLsbD_or, getLsbD_one_shiftLeft hk]
    split_ifs with heq <;> simp [heq]
  | false =>
    rw [if_neg Bool.false_ne_true, BitVec.getLsbD_and, BitVec.getLsbD_not,
      getLsbD_one_shiftLeft hk]
    split_ifs with heq <;> simp [heq, hi]

/-! ## Well-formed lines -/

/-- The names of the faults, by the numbers of their flags. -/
def faultName : Fin 3 → List Char :=
  !["thruster_loss".toList, "sensor_noise".toList, "packet_loss".toList]

/-- A well-formed line, taken apart. -/
@[ext]
structure CommandLine where
  /-- The id. -/
  id : List Char
  /-- It is not empty. -/
  id_ne_nil : id ≠ []
  /-- It has no tab. -/
  tab_notMem_id : '\t' ∉ id
  /-- The number of the fault's flag. -/
  fault : Fin 3
  /-- Set or clear. -/
  enabled : Bool

namespace CommandLine

variable (command : CommandLine)

/-- `0` or `1`. -/
def value : List Char := if command.enabled then ['1'] else ['0']

/-- The line. -/
def text : List Char :=
  ['C', 'O', 'M', 'M', 'A', 'N', 'D'] ++
    '\t' :: (command.id ++ '\t' :: (faultName command.fault ++ '\t' :: command.value))

/-- The record that answers it. -/
def answer : List Char :=
  ['A', 'C', 'K'] ++
    '\t' :: (command.id ++ '\t' :: (faultName command.fault ++ '\t' :: (command.value ++ ['\n'])))

/-- The flags after it. -/
def apply (faultFlags : BitVec 32) : BitVec 32 :=
  if command.enabled then faultFlags ||| 1#32 <<< command.fault.val
  else faultFlags &&& ~~~(1#32 <<< command.fault.val)

/-- **Exactly the flag of the fault** is set or cleared. -/
lemma getLsbD_apply (faultFlags : BitVec 32) {i : ℕ} (hi : i < 32) :
    (command.apply faultFlags).getLsbD i =
      if i = command.fault.val then command.enabled else faultFlags.getLsbD i :=
  getLsbD_ite_flag faultFlags command.enabled (by have := command.fault.isLt; omega) hi

end CommandLine

/-! ## One line -/

/-- The mask of a fault's name is its flag. -/
lemma faultMask_faultName :
    ∀ fault : Fin 3, faultMask (faultName fault) = 1#32 <<< fault.val := by
  decide

/-- It is not 0. -/
lemma faultMask_faultName_ne_zero : ∀ fault : Fin 3, faultMask (faultName fault) ≠ 0 := by
  decide

/-- `fault_mask` knows no other names. -/
lemma exists_faultName_of_faultMask_ne_zero {name : List Char} (h : faultMask name ≠ 0) :
    ∃ fault, name = faultName fault := by
  unfold faultMask at h
  split_ifs at h with hthruster hnoise hloss
  · exact ⟨0, hthruster⟩
  · exact ⟨1, hnoise⟩
  · exact ⟨2, hloss⟩
  · exact absurd rfl h

/-- No name has a tab. -/
lemma tab_notMem_faultName : ∀ fault : Fin 3, '\t' ∉ faultName fault := by
  decide

/-- The two errors. -/
def IsError (response : List Char) : Prop :=
  response = "ERROR\tmalformed_command\n".toList ∨ response = "ERROR\tinvalid_fault\n".toList

/-- The calls read the fields of a well-formed line. -/
lemma readCommand_text (command : CommandLine) :
    readCommand command.text = some (['C', 'O', 'M', 'M', 'A', 'N', 'D'], command.id,
      faultName command.fault, command.value) := by
  unfold CommandLine.text
  refine readCommand_fields (by decide) command.tab_notMem_id
    (tab_notMem_faultName command.fault) ?_ ?_
  · unfold CommandLine.value
    split <;> decide
  · unfold CommandLine.value
    split <;> simp

/-- **A well-formed line** has its effect and its answer. -/
lemma handleCommand_text (faultFlags : BitVec 32) (command : CommandLine) :
    handleCommand faultFlags command.text = (command.apply faultFlags, command.answer) := by
  have hmask := faultMask_faultName_ne_zero command.fault
  have hvalue : ¬(command.value ≠ ['0'] ∧ command.value ≠ ['1']) := by
    unfold CommandLine.value
    split <;> simp
  unfold handleCommand
  rw [readCommand_text]
  simp only [ne_eq, not_true_eq_false, command.id_ne_nil, or_self, if_false]
  rw [if_neg (not_or.mpr ⟨hmask, hvalue⟩), faultMask_faultName]
  refine Prod.ext ?_ ?_
  · unfold CommandLine.apply CommandLine.value
    cases command.enabled <;> simp
  · unfold CommandLine.answer
    simp only [List.append_assoc, List.cons_append, List.nil_append]

/-- **Any other line** changes no flag and is answered with an error. -/
lemma handleCommand_of_forall_ne (faultFlags : BitVec 32) {line : List Char} (hline : '\n' ∉ line)
    (h : ∀ command : CommandLine, command.text ≠ line) :
    (handleCommand faultFlags line).1 = faultFlags ∧ IsError (handleCommand faultFlags line).2 := by
  unfold handleCommand
  cases hread : readCommand line with
  | none => exact ⟨rfl, Or.inl rfl⟩
  | some fields =>
    obtain ⟨verb, id, fault, enabledText⟩ := fields
    obtain ⟨rfl, -, hid, -, -⟩ := (readCommand_eq_some_iff hline).mp hread
    dsimp only
    split
    · exact ⟨rfl, Or.inl rfl⟩
    · next hverb =>
      split
      · exact ⟨rfl, Or.inr rfl⟩
      · next hfault =>
        -- Otherwise the fields are those of a well-formed line.
        exfalso
        obtain ⟨hverb, hne⟩ := not_or.mp hverb
        obtain ⟨hmask, hvalue⟩ := not_or.mp hfault
        obtain ⟨number, rfl⟩ := exists_faultName_of_faultMask_ne_zero hmask
        obtain rfl := not_not.mp hverb
        have henabled : ∃ enabled : Bool, enabledText = if enabled then ['1'] else ['0'] := by
          by_cases hzero : enabledText = ['0']
          · exact ⟨false, hzero⟩
          · exact ⟨true, by simpa [hzero] using hvalue⟩
        obtain ⟨enabled, rfl⟩ := henabled
        exact h ⟨id, hne, hid, number, enabled⟩ rfl

/-! ## Any lines -/

/-- Different command lines have different texts. -/
lemma CommandLine.text_injective : Function.Injective CommandLine.text := by
  intro command command' htext
  have hread := readCommand_text command
  rw [htext, readCommand_text, Option.some_inj] at hread
  simp only [Prod.mk.injEq, true_and] at hread
  obtain ⟨hid, hname, hvalue⟩ := hread
  have hnames : ∀ a b, faultName a = faultName b → a = b := by decide
  have henabled : command'.enabled = command.enabled := by
    unfold CommandLine.value at hvalue
    revert hvalue
    cases command'.enabled <;> cases command.enabled <;> decide
  exact CommandLine.ext hid.symm (hnames _ _ hname).symm henabled.symm

/-- The command line that a text is, if it is one. -/
noncomputable def wellFormed (line : List Char) : Option CommandLine :=
  Function.partialInv CommandLine.text line

/-- It is the one with this text. -/
lemma wellFormed_eq_some_iff {line : List Char} {command : CommandLine} :
    wellFormed line = some command ↔ command.text = line :=
  CommandLine.text_injective.isPartialInv command line

/-- What the server does with a line: it acknowledges exactly the well-formed ones, each of which
changes the flag of its fault, and answers any other with an error that changes nothing. -/
structure Answered (faultFlags : BitVec 32) (line : List Char) : Prop where
  /-- An acknowledgement. -/
  acknowledged : ['A', 'C', 'K', '\t'] <+: (handleCommand faultFlags line).2 ↔
    ∃ command : CommandLine, command.text = line
  /-- A well-formed line. -/
  accepted : ∀ command : CommandLine, command.text = line →
    handleCommand faultFlags line = (command.apply faultFlags, command.answer)
  /-- Its flag, and no other. -/
  flags : ∀ command : CommandLine, command.text = line →
    ∀ i < 32, (handleCommand faultFlags line).1.getLsbD i =
      if i = command.fault.val then command.enabled else faultFlags.getLsbD i
  /-- Any other line. -/
  rejected : (¬∃ command : CommandLine, command.text = line) →
    (handleCommand faultFlags line).1 = faultFlags ∧ IsError (handleCommand faultFlags line).2

/-- Every line is answered so. -/
lemma answered (faultFlags : BitVec 32) {line : List Char} (hline : '\n' ∉ line) :
    Answered faultFlags line where
  acknowledged := by
    constructor
    · intro hbegins
      by_contra hnone
      have hreject := handleCommand_of_forall_ne faultFlags hline (not_exists.mp hnone)
      rcases hreject.2 with herror | herror <;> rw [herror] at hbegins <;> revert hbegins <;> decide
    · rintro ⟨command, rfl⟩
      rw [handleCommand_text]
      exact ⟨command.id ++ '\t' :: (faultName command.fault ++ '\t' :: (command.value ++ ['\n'])),
        rfl⟩
  accepted := by
    rintro command rfl
    exact handleCommand_text faultFlags command
  flags := by
    rintro command rfl i hi
    rw [handleCommand_text]
    exact command.getLsbD_apply faultFlags hi
  rejected hnone := handleCommand_of_forall_ne faultFlags hline (not_exists.mp hnone)

/-- Every line gets one line as its response. -/
lemma exists_handleCommand_snd_eq (faultFlags : BitVec 32) {line : List Char}
    (hline : '\n' ∉ line) :
    ∃ text, '\n' ∉ text ∧ (handleCommand faultFlags line).2 = text ++ ['\n'] := by
  by_cases hcommand : ∃ command : CommandLine, command.text = line
  · obtain ⟨command, rfl⟩ := hcommand
    refine ⟨['A', 'C', 'K'] ++ '\t' :: (command.id ++ '\t' :: (faultName command.fault ++
      '\t' :: command.value)), ?_, ?_⟩
    · unfold CommandLine.text at hline
      simpa using hline
    · rw [handleCommand_text, CommandLine.answer]
      simp
  · rcases ((answered faultFlags hline).rejected hcommand).2 with herror | herror
    · exact ⟨"ERROR\tmalformed_command".toList, by decide, herror⟩
    · exact ⟨"ERROR\tinvalid_fault".toList, by decide, herror⟩

/-- The flags after any lines are what the well-formed ones make of them. -/
lemma faultFlags_foldl_handleLine {lines : List (List Char)} (hlines : ∀ line ∈ lines, '\n' ∉ line)
    (handled : Handled) :
    (lines.foldl handleLine handled).faultFlags =
      (lines.filterMap wellFormed).foldl (fun faultFlags command => command.apply faultFlags)
        handled.faultFlags := by
  induction lines generalizing handled with
  | nil => rfl
  | cons line lines ih =>
    obtain ⟨hline, hlines⟩ := List.forall_mem_cons.mp hlines
    have hanswered := answered handled.faultFlags hline
    rw [List.foldl_cons, ih hlines]
    cases hcommand : wellFormed line with
    | some command =>
      have haccepted := hanswered.accepted command (wellFormed_eq_some_iff.mp hcommand)
      rw [List.filterMap_cons_some hcommand, List.foldl_cons]
      simp [handleLine, haccepted]
    | none =>
      have hnone : ¬∃ command : CommandLine, command.text = line := by
        rintro ⟨command, htext⟩
        rw [wellFormed_eq_some_iff.mpr htext] at hcommand
        simp at hcommand
      have hrejected := (hanswered.rejected hnone).1
      rw [List.filterMap_cons_none hcommand]
      simp [handleLine, hrejected]

/-- Command lines change no other flag than the three. -/
lemma getLsbD_foldl_apply {i : ℕ} (hi : 3 ≤ i) (commands : List CommandLine)
    (faultFlags : BitVec 32) :
    (commands.foldl (fun faultFlags command => command.apply faultFlags) faultFlags).getLsbD i =
      faultFlags.getLsbD i := by
  rcases Nat.lt_or_ge i 32 with hlt | hge
  · induction commands generalizing faultFlags with
    | nil => rfl
    | cons command commands ih =>
      have hfault := command.fault.isLt
      rw [List.foldl_cons, ih, command.getLsbD_apply faultFlags hlt, if_neg (by omega)]
  · rw [BitVec.getLsbD_of_ge _ i hge, BitVec.getLsbD_of_ge _ i hge]

/-- **The command parser.** Each of any lines is answered with an acknowledgement exactly if it
is well-formed, changes its own flag then, and changes nothing otherwise. The flags after the
lines are what the well-formed ones make of zero, and the reserved ones are clear. -/
theorem handleLines_eq {lines : List (List Char)} (hlines : ∀ line ∈ lines, '\n' ∉ line) :
    (∀ faultFlags, ∀ line ∈ lines, Answered faultFlags line) ∧
      (lines.foldl handleLine { faultFlags := 0 }).faultFlags =
        (lines.filterMap wellFormed).foldl (fun faultFlags command => command.apply faultFlags) 0 ∧
      ∀ i, 3 ≤ i → (lines.foldl handleLine { faultFlags := 0 }).faultFlags.getLsbD i = false := by
  have hflags := faultFlags_foldl_handleLine hlines { faultFlags := 0 }
  refine ⟨fun faultFlags line hmem => answered faultFlags (hlines line hmem), hflags,
    fun i hi => ?_⟩
  rw [hflags, getLsbD_foldl_apply hi]
  exact BitVec.getLsbD_zero

/-- Two lines, of which the second has a tab too many. -/
theorem handleLines_eq_tabTooMany :
    (∀ faultFlags, ∀ line ∈ ["COMMAND\ta\tsensor_noise\t1".toList,
      "COMMAND\tb\tsensor_noise\t0\t".toList], Answered faultFlags line) ∧
      (["COMMAND\ta\tsensor_noise\t1".toList,
        "COMMAND\tb\tsensor_noise\t0\t".toList].foldl handleLine
          { faultFlags := 0 }).faultFlags = 2#32 :=
  ⟨(handleLines_eq (by decide)).1, by decide⟩

end FlightDeck.Generator
