import FlightDeck.Generator.Simulator

set_option relaxedAutoImplicit false
set_option autoImplicit false

/-!
# The command line

What `main` of `generator/src/main.cpp` makes of its arguments. The options may come in any order
and more than once; the argument of `--max-steps` is whatever comes after it, read by
`std::strtoull`, which finds a number in any text.

## Main definitions

* `strtoull` — the number that a text starts with, of at most 64 bits.
* `parseArguments` — the loop over the arguments.
* `CommandOption` — an option that is not refused, as it stands on the command line.
* `settingsOf` — what some options set, said without a loop.

## Main results

* `strtoull_repr` — a number in decimal digits is read back.
* `parseArguments_append` — options that are not refused are gone through one after the other.
* `command_line` — which arguments start the simulator, and with which settings.
-/

namespace FlightDeck.Generator

/-! ## Numbers -/

/-- `std::isspace` of the default locale. -/
def isSpace (c : Char) : Bool := c.toNat == 0x20 || (0x09 ≤ c.toNat && c.toNat ≤ 0x0d)

/-- `ULLONG_MAX`. -/
def ullongMax : ℕ := 2 ^ 64 - 1

/-- `std::strtoull(text, nullptr, 10)`: blanks, a sign and digits are read as far as they go. A
number that does not fit is the largest one, and a minus sign counts modulo `2 ^ 64`. -/
def strtoull (text : String) : ℕ :=
  let text := text.toList.dropWhile isSpace
  let negative := text.head? == some '-'
  let digits := if negative || text.head? == some '+' then text.tail else text
  let value := Nat.ofDigitChars 10 (digits.takeWhile Char.isDigit) 0
  if value > ullongMax then ullongMax
  else if negative then (2 ^ 64 - value) % 2 ^ 64
  else value

/-- What is read has 64 bits. -/
lemma strtoull_le (text : String) : strtoull text ≤ ullongMax := by
  unfold strtoull ullongMax
  dsimp only
  split_ifs <;> omega

/-- A digit is neither a blank nor a sign. -/
lemma not_isSpace_of_isDigit {c : Char} (h : c.isDigit = true) :
    isSpace c = false ∧ c ≠ '-' ∧ c ≠ '+' := by
  rw [Char.isDigit, Bool.and_eq_true, decide_eq_true_eq, decide_eq_true_eq] at h
  have hlow : 48 ≤ c.toNat := h.1
  refine ⟨?_, ?_, ?_⟩
  · simp only [isSpace, Bool.or_eq_false_iff, beq_eq_false_iff_ne, Bool.and_eq_false_iff,
      decide_eq_false_iff_not]
    omega
  · rintro rfl
    exact absurd hlow (by decide)
  · rintro rfl
    exact absurd hlow (by decide)

/-- **A number in decimal digits is read back**, up to the largest one. -/
lemma strtoull_repr (n : ℕ) : strtoull n.repr = min n ullongMax := by
  have hdigits : ∀ c ∈ Nat.toDigits 10 n, c.isDigit = true :=
    fun c hc => Nat.isDigit_of_mem_toDigits (by decide) (by decide) hc
  have htake : (Nat.toDigits 10 n).takeWhile Char.isDigit = Nat.toDigits 10 n :=
    List.takeWhile_eq_self_iff.mpr hdigits
  have hvalue : Nat.ofDigitChars 10 (Nat.toDigits 10 n) 0 = n := Nat.ofDigitChars_ten_toDigits
  cases hlist : Nat.toDigits 10 n with
  | nil => exact absurd hlist Nat.toDigits_ne_nil
  | cons c rest =>
    obtain ⟨hblank, hminus, hplus⟩ :=
      not_isSpace_of_isDigit (hdigits c (hlist ▸ List.mem_cons_self))
    rw [hlist] at htake hvalue
    have hdrop : (c :: rest).dropWhile isSpace = c :: rest := by
      rw [List.dropWhile_cons, hblank]
      rfl
    have hsign : (some c == some '-') = false ∧ (some c == some '+') = false :=
      ⟨beq_eq_false_iff_ne.mpr fun h => hminus (Option.some_inj.mp h),
        beq_eq_false_iff_ne.mpr fun h => hplus (Option.some_inj.mp h)⟩
    simp only [strtoull, Nat.toList_repr, hlist, hdrop, List.head?_cons, hsign.1, hsign.2,
      Bool.or_false, Bool.false_eq_true, if_false, htake, hvalue]
    split_ifs with hlarge
    · exact (Nat.min_eq_right hlarge.le).symm
    · exact (Nat.min_eq_left (not_lt.mp hlarge)).symm

/-! ## Arguments -/

/-- The variables that the arguments set. -/
structure Arguments where
  /-- `realtime`. -/
  realtime : Bool := true
  /-- `network_enabled`. -/
  networkEnabled : Bool := true
  /-- `corrupt_once`. -/
  corruptOnce : Bool := false
  /-- `control_enabled`. -/
  controlEnabled : Bool := true
  /-- `maximum_steps`. -/
  maximumSteps : ℕ := 0
deriving DecidableEq

/-- What the loop reads of them. -/
def Arguments.options (arguments : Arguments) : Options where
  maximumSteps := arguments.maximumSteps
  corruptOnce := arguments.corruptOnce

/-- How the loop over the arguments ends. -/
inductive StartUp where
  /-- All of them were understood. -/
  | run (arguments : Arguments)
  /-- The usage was asked for; the program exits with 0. -/
  | usage
  /-- `Unknown option: ` and the argument are printed; the program exits with 2. -/
  | unknownOption (argument : String)
deriving DecidableEq

/-- The loop over the arguments. -/
def parseArguments (arguments : Arguments) : List String → StartUp
  | [] => .run arguments
  | argument :: rest =>
    if argument = "--no-realtime" then parseArguments { arguments with realtime := false } rest
    else if argument = "--no-network" then
      parseArguments { arguments with networkEnabled := false } rest
    else if argument = "--no-control" then
      parseArguments { arguments with controlEnabled := false } rest
    else if argument = "--corrupt-once" then
      parseArguments { arguments with corruptOnce := true } rest
    else
      match argument, rest with
      | "--max-steps", count :: rest =>
        parseArguments { arguments with maximumSteps := strtoull count } rest
      | _, _ =>
        if argument = "--help" ∨ argument = "-h" then .usage else .unknownOption argument

/-! ## What is accepted -/

/-- An option that is not refused, with its argument. -/
inductive CommandOption where
  | noRealtime
  | noNetwork
  | noControl
  | corruptOnce
  | maxSteps (count : String)
deriving DecidableEq

namespace CommandOption

/-- How it is written. -/
def words : CommandOption → List String
  | noRealtime => ["--no-realtime"]
  | noNetwork => ["--no-network"]
  | noControl => ["--no-control"]
  | corruptOnce => ["--corrupt-once"]
  | maxSteps count => ["--max-steps", count]

/-- What it sets. -/
def apply (arguments : Arguments) : CommandOption → Arguments
  | noRealtime => { arguments with realtime := false }
  | noNetwork => { arguments with networkEnabled := false }
  | noControl => { arguments with controlEnabled := false }
  | corruptOnce => { arguments with corruptOnce := true }
  | maxSteps count => { arguments with maximumSteps := strtoull count }

/-- The limit it sets, if it sets one. -/
def limit? : CommandOption → Option ℕ
  | maxSteps count => some (strtoull count)
  | _ => none

end CommandOption

/-- The command line of some options. -/
def wordsOf (options : List CommandOption) : List String := options.flatMap CommandOption.words

/-- What some options set: a switch is set wherever it stands, and the last limit counts. -/
def settingsOf (options : List CommandOption) : Arguments where
  realtime := .noRealtime ∉ options
  networkEnabled := .noNetwork ∉ options
  corruptOnce := .corruptOnce ∈ options
  controlEnabled := .noControl ∉ options
  maximumSteps := ((options.filterMap CommandOption.limit?).getLast?).getD 0

/-- No option that is not refused starts with this argument. -/
structure Refused (argument : String) (rest : List String) : Prop where
  /-- It is not a switch. -/
  switch : argument ∉ ["--no-realtime", "--no-network", "--no-control", "--corrupt-once"]
  /-- It is not a limit, or the limit is missing. -/
  limit : argument = "--max-steps" → rest = []

/-- A request for the usage. -/
def IsHelp (argument : String) : Prop := argument = "--help" ∨ argument = "-h"

/-- One option. -/
lemma parseArguments_words (arguments : Arguments) (option : CommandOption)
    (rest : List String) :
    parseArguments arguments (option.words ++ rest) =
      parseArguments (option.apply arguments) rest := by
  cases option <;> simp [CommandOption.words, CommandOption.apply, parseArguments]

/-- Options that are not refused are gone through one after the other. -/
lemma parseArguments_append (arguments : Arguments) (options : List CommandOption)
    (rest : List String) :
    parseArguments arguments (wordsOf options ++ rest) =
      parseArguments (options.foldl CommandOption.apply arguments) rest := by
  induction options generalizing arguments with
  | nil => rfl
  | cons option options ih =>
    rw [wordsOf, List.flatMap_cons, List.append_assoc, parseArguments_words, ← wordsOf, ih,
      List.foldl_cons]

/-- An argument that is refused ends the loop. -/
lemma parseArguments_of_refused {argument : String} {rest : List String}
    (h : Refused argument rest) (arguments : Arguments) :
    parseArguments arguments (argument :: rest) =
      if argument = "--help" ∨ argument = "-h" then .usage else .unknownOption argument := by
  obtain ⟨hswitch, hlimit⟩ := h
  simp only [List.mem_cons, List.not_mem_nil, or_false, not_or] at hswitch
  rw [parseArguments, if_neg hswitch.1, if_neg hswitch.2.1, if_neg hswitch.2.2.1,
    if_neg hswitch.2.2.2]
  intro count later hargument hlater
  rw [hlimit hargument] at hlater
  exact List.cons_ne_nil _ _ hlater.symm

/-- Every command line is that of some options, up to an argument that is refused. -/
lemma exists_wordsOf (arguments : List String) :
    ∃ options, arguments = wordsOf options ∨
      ∃ argument rest, arguments = wordsOf options ++ argument :: rest ∧
        Refused argument rest := by
  induction hlength : arguments.length using Nat.strong_induction_on generalizing arguments with
  | _ n ih =>
  have hcons : ∀ (option : CommandOption) (rest : List String),
      arguments = option.words ++ rest → rest.length < arguments.length →
      ∃ options, arguments = wordsOf options ∨
        ∃ argument rest, arguments = wordsOf options ++ argument :: rest ∧
          Refused argument rest := by
    intro option rest heq hless
    obtain ⟨options, hrest⟩ := ih _ (hlength ▸ hless) rest rfl
    refine ⟨option :: options, ?_⟩
    rw [wordsOf, List.flatMap_cons, ← wordsOf, heq]
    rcases hrest with hall | ⟨argument, rest', hall, hrefused⟩
    · exact Or.inl (by rw [hall])
    · exact Or.inr ⟨argument, rest', by rw [hall, List.append_assoc], hrefused⟩
  cases arguments with
  | nil => exact ⟨[], Or.inl rfl⟩
  | cons argument rest =>
    by_cases hswitch : argument ∈ ["--no-realtime", "--no-network", "--no-control",
        "--corrupt-once"]
    · simp only [List.mem_cons, List.not_mem_nil, or_false] at hswitch
      have hless : rest.length < (argument :: rest).length := Nat.lt_succ_self _
      rcases hswitch with rfl | rfl | rfl | rfl
      · exact hcons .noRealtime rest rfl hless
      · exact hcons .noNetwork rest rfl hless
      · exact hcons .noControl rest rfl hless
      · exact hcons .corruptOnce rest rfl hless
    by_cases hlimit : argument = "--max-steps" → rest = []
    · exact ⟨[], Or.inr ⟨argument, rest, rfl, hswitch, hlimit⟩⟩
    · obtain ⟨rfl, hne⟩ := Classical.not_imp.mp hlimit
      cases rest with
      | nil => exact absurd rfl hne
      | cons count rest => exact hcons (.maxSteps count) rest rfl (by simp)

/-- What is set by a switch or a limit, said without the loop. -/
lemma foldl_apply (options : List CommandOption) :
    options.foldl CommandOption.apply {} = settingsOf options := by
  induction options using List.reverseRecOn with
  | nil => rfl
  | append_singleton options option ih =>
    rw [List.foldl_concat, ih]
    cases option <;>
      simp [CommandOption.apply, settingsOf, CommandOption.limit?, List.filterMap_append]

/-- **The command line.** The simulator starts exactly if the arguments are those of some options
in any order, with what these set; otherwise the first argument that is no such option decides:
`--help` and `-h` ask for the usage, and anything else, a last `--max-steps` included, is named
as unknown. A number after `--max-steps` is the limit, up to 64 bits. -/
theorem command_line (arguments : List String) :
    (∀ settings, parseArguments {} arguments = .run settings ↔
        ∃ options, arguments = wordsOf options ∧ settings = settingsOf options) ∧
      (parseArguments {} arguments = .usage ↔
        ∃ options argument rest, arguments = wordsOf options ++ argument :: rest ∧
          IsHelp argument) ∧
      (∀ argument, parseArguments {} arguments = .unknownOption argument ↔
        ∃ options rest, arguments = wordsOf options ++ argument :: rest ∧
          Refused argument rest ∧ ¬IsHelp argument) ∧
      ∀ n : ℕ, (settingsOf [.maxSteps n.repr]).maximumSteps = min n ullongMax := by
  have hrun : ∀ options, parseArguments {} (wordsOf options) = .run (settingsOf options) := by
    intro options
    rw [← List.append_nil (wordsOf options), parseArguments_append, foldl_apply]
    rfl
  have hrefuse : ∀ options argument rest, Refused argument rest →
      parseArguments {} (wordsOf options ++ argument :: rest) =
        if argument = "--help" ∨ argument = "-h" then .usage else .unknownOption argument :=
    fun options argument rest h => by
      rw [parseArguments_append, parseArguments_of_refused h]
  have hhelp : ∀ {argument : String} {rest : List String}, IsHelp argument →
      Refused argument rest := by
    rintro argument rest (rfl | rfl)
    · exact ⟨by decide, fun h => absurd h (by decide)⟩
    · exact ⟨by decide, fun h => absurd h (by decide)⟩
  refine ⟨fun settings => ⟨fun h => ?_, ?_⟩, ⟨fun h => ?_, ?_⟩, fun argument => ⟨fun h => ?_, ?_⟩,
    fun n => ?_⟩
  · obtain ⟨options, rfl | ⟨argument, rest, rfl, hrefused⟩⟩ := exists_wordsOf arguments
    · rw [hrun, StartUp.run.injEq] at h
      exact ⟨options, rfl, h.symm⟩
    · rw [hrefuse options argument rest hrefused] at h
      split_ifs at h
  · rintro ⟨options, rfl, rfl⟩
    exact hrun options
  · obtain ⟨options, rfl | ⟨argument, rest, rfl, hrefused⟩⟩ := exists_wordsOf arguments
    · rw [hrun] at h
      exact StartUp.noConfusion h
    · rw [hrefuse options argument rest hrefused] at h
      split_ifs at h with hisHelp
      exact ⟨options, argument, rest, rfl, hisHelp⟩
  · rintro ⟨options, argument, rest, rfl, hisHelp⟩
    rw [hrefuse options argument rest (hhelp hisHelp)]
    exact if_pos hisHelp
  · obtain ⟨options, rfl | ⟨argument', rest, rfl, hrefused⟩⟩ := exists_wordsOf arguments
    · rw [hrun] at h
      exact StartUp.noConfusion h
    · rw [hrefuse options argument' rest hrefused] at h
      split_ifs at h with hisHelp
      obtain rfl : argument' = argument := StartUp.unknownOption.inj h
      exact ⟨options, rest, rfl, hrefused, hisHelp⟩
  · rintro ⟨options, rest, rfl, hrefused, hnot⟩
    rw [hrefuse options argument rest hrefused]
    exact if_neg hnot
  · exact strtoull_repr n

example : settingsOf [.maxSteps "500", .noRealtime, .maxSteps "-1"] =
    { realtime := false, maximumSteps := ullongMax } := by decide +kernel

end FlightDeck.Generator
