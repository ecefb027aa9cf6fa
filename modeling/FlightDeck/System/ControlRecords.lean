import FlightDeck.Generator.CommandParser
import FlightDeck.Server.ControlClient

set_option relaxedAutoImplicit false
set_option autoImplicit false

/-!
# The records of the control protocol

What one end of the control link writes, the other end reads: a command line is handled by the
simulator as the command it was written for, and the answer is read by the server as the
acknowledgement of that command.

## Main definitions

* `commandText`, `acknowledgementText` — the records, without the newline that ends them.
* `applyCommand` — what a command does to the fault flags.
* `commandStream`, `acknowledgementStream` — several of them on the wire.

## Main results

* `handleCommand_commandText` — the simulator's reading of a command.
* `parseAcknowledgement_acknowledgementText` — the server's reading of the answer.
* `acceptData_eq`, `receive_eq` — what either end does with a stream of records cut anywhere.
-/

namespace FlightDeck.System

open Server Generator Framing

/-- The last field of a record. -/
def enabledText (enabled : Bool) : List Char := if enabled then ['1'] else ['0']

/-- The record of a command. -/
def commandText (command : FaultCommand) : List Char :=
  ['C', 'O', 'M', 'M', 'A', 'N', 'D'] ++ '\t' :: (command.id ++ '\t' :: (command.fault.name ++ '\t' ::
    enabledText command.enabled))

/-- The record that acknowledges a command. -/
def acknowledgementText (command : FaultCommand) : List Char :=
  ['A', 'C', 'K'] ++ '\t' :: (command.id ++ '\t' :: (command.fault.name ++ '\t' ::
    enabledText command.enabled))

/-- What a command does to the fault flags. -/
def applyCommand (faultFlags : BitVec 32) (command : FaultCommand) : BitVec 32 :=
  if command.enabled then faultFlags ||| faultMask command.fault.name
  else faultFlags &&& ~~~faultMask command.fault.name

/-- What an acknowledgement says. -/
def acknowledgementOf (command : FaultCommand) : List Char × FaultType × Bool :=
  (command.id, command.fault, command.enabled)

/-- A command the server has validated. -/
def Valid (command : FaultCommand) : Prop := isCommandId command.id = true

/-- The server writes the record and a newline. -/
lemma commandLine_eq (command : FaultCommand) :
    SimulatorControlClient.commandLine command = commandText command ++ ['\n'] := by
  simp [SimulatorControlClient.commandLine, commandText, enabledText]

/-- The id of a valid command has no separator in it, and is not empty. -/
lemma Valid.separators {command : FaultCommand} (h : Valid command) :
    '\t' ∉ command.id ∧ '\n' ∉ command.id ∧ command.id ≠ [] := by
  simp only [Valid, isCommandId, Bool.and_eq_true, decide_eq_true_eq, List.all_eq_true] at h
  obtain ⟨⟨hpos, -⟩, hall⟩ := h
  refine ⟨fun hmem => ?_, fun hmem => ?_, fun hnil => ?_⟩
  · exact absurd (hall _ hmem) (by decide)
  · exact absurd (hall _ hmem) (by decide)
  · simp [hnil] at hpos

/-- The names of the faults have no separator in them. -/
lemma separators_name (fault : FaultType) : '\t' ∉ fault.name ∧ '\n' ∉ fault.name := by
  cases fault <;> decide

/-- Each name is read back as its fault, and has a flag. -/
@[simp] lemma isFault_name (fault : FaultType) : isFault fault.name = some fault := by
  cases fault <;> decide

lemma faultMask_name_ne_zero (fault : FaultType) : faultMask fault.name ≠ 0 := by
  cases fault <;> decide

/-- The last field is one character other than a separator. -/
lemma separators_enabledText (enabled : Bool) :
    '\t' ∉ enabledText enabled ∧ '\n' ∉ enabledText enabled ∧ enabledText enabled ≠ [] := by
  cases enabled <;> decide

/-- A valid command is a line that the simulator accepts. -/
lemma Valid.exists_commandLine {command : FaultCommand} (h : Valid command) :
    ∃ line : CommandLine, line.text = commandText command ∧
      line.answer = acknowledgementText command ++ ['\n'] ∧
      ∀ faultFlags, line.apply faultFlags = applyCommand faultFlags command := by
  obtain ⟨htab, -, hne⟩ := h.separators
  obtain ⟨number, hname⟩ := exists_faultName_of_faultMask_ne_zero
    (faultMask_name_ne_zero command.fault)
  refine ⟨⟨command.id, hne, htab, number, command.enabled⟩, ?_, ?_, fun faultFlags => ?_⟩
  · rw [commandText, hname]
    rfl
  · rw [acknowledgementText, hname]
    simp only [CommandLine.answer, List.append_assoc, List.cons_append]
    rfl
  · rw [applyCommand, hname, faultMask_faultName]
    rfl

/-- **The simulator reads a command as it was meant**: it applies it and acknowledges it. -/
lemma handleCommand_commandText {command : FaultCommand} (h : Valid command)
    (faultFlags : BitVec 32) :
    handleCommand faultFlags (commandText command) =
      (applyCommand faultFlags command, acknowledgementText command ++ ['\n']) := by
  obtain ⟨line, htext, hanswer, happly⟩ := h.exists_commandLine
  rw [← htext, handleCommand_text, happly, hanswer]

/-- **The server reads an acknowledgement as it was meant.** -/
lemma parseAcknowledgement_acknowledgementText {command : FaultCommand} (h : Valid command) :
    SimulatorControlClient.parseAcknowledgement (acknowledgementText command) =
      some (acknowledgementOf command) := by
  obtain ⟨htab, -, hne⟩ := h.separators
  have hsplit : (acknowledgementText command).splitOn '\t' =
      [['A', 'C', 'K'], command.id, command.fault.name, enabledText command.enabled] := by
    rw [acknowledgementText, List.splitOn_append_cons_self_of_not_mem (by decide),
      List.splitOn_append_cons_self_of_not_mem htab,
      List.splitOn_append_cons_self_of_not_mem (separators_name command.fault).1,
      List.splitOn_eq_singleton (separators_enabledText command.enabled).1]
  rw [SimulatorControlClient.parseAcknowledgement, hsplit]
  cases henabled : command.enabled <;>
    simp [hne, enabledText, acknowledgementOf, henabled]

/-- A command's record is one line. -/
lemma Valid.newline_commandText {command : FaultCommand} (h : Valid command) :
    '\n' ∉ commandText command := by
  obtain ⟨-, hid, -⟩ := h.separators
  have hname := (separators_name command.fault).2
  have henabled := (separators_enabledText command.enabled).2.1
  simp [commandText, hid, hname, henabled]

/-- An acknowledgement is one line. -/
lemma Valid.newline_acknowledgementText {command : FaultCommand} (h : Valid command) :
    '\n' ∉ acknowledgementText command := by
  obtain ⟨-, hid, -⟩ := h.separators
  have hname := (separators_name command.fault).2
  have henabled := (separators_enabledText command.enabled).2.1
  simp [acknowledgementText, hid, hname, henabled]

/-- The records of commands with different ids differ. -/
lemma id_eq_of_commandText_eq {command command' : FaultCommand} (h : Valid command)
    (h' : Valid command') (heq : commandText command = commandText command') :
    command.id = command'.id := by
  have hsplit := congrArg (List.splitOn '\t') heq
  have hverb : '\t' ∉ ['C', 'O', 'M', 'M', 'A', 'N', 'D'] := by decide
  simp only [commandText, List.splitOn_append_cons_self_of_not_mem hverb,
    List.splitOn_append_cons_self_of_not_mem h.separators.1,
    List.splitOn_append_cons_self_of_not_mem h'.separators.1, List.cons.injEq, true_and] at hsplit
  exact hsplit.1

/-- What passes the validation has an id of the right form. -/
lemma isCommandId_of_isFaultCommand {value : JsonValue} {command : FaultCommand}
    (h : isFaultCommand value = some command) : Valid command := by
  cases value with
  | object members =>
    simp only [isFaultCommand] at h
    split at h
    · split at h
      · next hid =>
        obtain ⟨fault, -, rfl⟩ := Option.map_eq_some_iff.mp h
        exact hid.2
      · cases h
    · cases h
  | _ => cases h

/-- A message is passed on only while the link is up, and then it is a valid command. -/
lemma acceptClientMessage_eq_ok {connected : Bool} {parsed : Option JsonValue}
    {command : FaultCommand} (h : acceptClientMessage connected parsed = .ok command) :
    connected = true ∧ Valid command := by
  simp only [acceptClientMessage] at h
  split at h
  · cases h
  · next value =>
    cases hvalue : isFaultCommand value with
    | none =>
      rw [hvalue] at h
      cases h
    | some parsed =>
      rw [hvalue] at h
      cases connected with
      | false => cases h
      | true =>
        cases h
        exact ⟨rfl, isCommandId_of_isFaultCommand hvalue⟩

/-! ## Streams of records -/

/-- The stream of commands. -/
def commandStream (commands : List FaultCommand) : List Char :=
  frame '\n' (commands.map commandText)

/-- The stream of their acknowledgements. -/
def acknowledgementStream (commands : List FaultCommand) : List Char :=
  frame '\n' (commands.map acknowledgementText)

@[simp] lemma commandStream_append (xs ys : List FaultCommand) :
    commandStream (xs ++ ys) = commandStream xs ++ commandStream ys := by
  simp [commandStream]

@[simp] lemma acknowledgementStream_append (xs ys : List FaultCommand) :
    acknowledgementStream (xs ++ ys) = acknowledgementStream xs ++ acknowledgementStream ys := by
  simp [acknowledgementStream]

/-- What the client writes for a command is the stream of that command. -/
lemma commandStream_singleton (command : FaultCommand) :
    commandStream [command] = SimulatorControlClient.commandLine command := by
  rw [commandLine_eq]
  simp [commandStream]

/-- The records of valid commands are lines. -/
lemma newline_of_mem_map_commandText {commands : List FaultCommand}
    (hvalid : ∀ command ∈ commands, Valid command) :
    ∀ line ∈ commands.map commandText, '\n' ∉ line := by
  intro line hline
  obtain ⟨command, hmem, rfl⟩ := List.mem_map.mp hline
  exact (hvalid command hmem).newline_commandText

/-- So are their acknowledgements. -/
lemma newline_of_mem_map_acknowledgementText {commands : List FaultCommand}
    (hvalid : ∀ command ∈ commands, Valid command) :
    ∀ line ∈ commands.map acknowledgementText, '\n' ∉ line := by
  intro line hline
  obtain ⟨command, hmem, rfl⟩ := List.mem_map.mp hline
  exact (hvalid command hmem).newline_acknowledgementText

/-- Acknowledgements of the first pending commands remove them, one after the other. -/
lemma foldl_acceptLine {commands : List FaultCommand} (hvalid : ∀ command ∈ commands, Valid command)
    {later : List (List Char × FaultCommand)} (client : SimulatorControlClient)
    (effects : List Effect)
    (hentries : client.pending.entries =
      commands.map (fun command => (command.id, command)) ++ later) :
    ∃ pending, pending.entries = later ∧
      (commands.map acknowledgementText).foldl SimulatorControlClient.acceptLine
          (client, effects) =
        ({ client with pending },
          effects ++ commands.map fun command =>
            .onAcknowledgement command.id command.fault command.enabled) := by
  induction commands generalizing client effects with
  | nil => exact ⟨client.pending, by simpa using hentries, by simp⟩
  | cons command commands ih =>
    obtain ⟨hcommand, hvalid⟩ := List.forall_mem_cons.mp hvalid
    have hline : SimulatorControlClient.acceptLine (client, effects) (acknowledgementText command) =
        ({ client with pending := client.pending.delete command.id },
          effects ++ [.onAcknowledgement command.id command.fault command.enabled]) := by
      rw [SimulatorControlClient.acceptLine, parseAcknowledgement_acknowledgementText hcommand]
      rfl
    obtain ⟨pending, hlater, hfold⟩ := ih hvalid
      { client with pending := client.pending.delete command.id } _
      (InsertionMap.entries_delete_head _ hentries)
    refine ⟨pending, hlater, ?_⟩
    rw [List.map_cons, List.foldl_cons, hline, hfold]
    simp

/-- What `#acceptData` does when the buffer and the chunk are acknowledgements of the first
pending commands and the beginning of another line. -/
lemma acceptData_eq {commands : List FaultCommand} (hvalid : ∀ command ∈ commands, Valid command)
    {later : List (List Char × FaultCommand)} {client : SimulatorControlClient}
    {chunk rest : List Char}
    (hentries : client.pending.entries =
      commands.map (fun command => (command.id, command)) ++ later)
    (hrest : '\n' ∉ rest)
    (htext : client.buffer ++ chunk = acknowledgementStream commands ++ rest) :
    ∃ pending, pending.entries = later ∧
      client.acceptData chunk = ({ client with pending, buffer := rest },
        commands.map fun command =>
          .onAcknowledgement command.id command.fault command.enabled) := by
  have hlines := newline_of_mem_map_acknowledgementText hvalid
  obtain ⟨pending, hlater, hfold⟩ := foldl_acceptLine hvalid client [] hentries
  refine ⟨pending, hlater, ?_⟩
  have hconsume := Framing.consume_frame '\n' SimulatorControlClient.acceptLine (client, [])
    hlines hrest
  rw [hfold, ← acknowledgementStream, ← htext] at hconsume
  rw [SimulatorControlClient.acceptData, hconsume]
  simp

/-- The simulator's handling of commands, one after the other. -/
lemma foldl_handleLine_commandText {commands : List FaultCommand}
    (hvalid : ∀ command ∈ commands, Valid command) (handled : Handled) :
    (commands.map commandText).foldl handleLine handled =
      { faultFlags := commands.foldl applyCommand handled.faultFlags
        replies := handled.replies ++ commands.map fun command =>
          (commandText command, acknowledgementText command ++ ['\n']) } := by
  induction commands generalizing handled with
  | nil => simp
  | cons command commands ih =>
    obtain ⟨hcommand, hvalid⟩ := List.forall_mem_cons.mp hvalid
    rw [List.map_cons, List.foldl_cons, ih hvalid, handleLine, handleCommand_commandText hcommand]
    simp

/-- What a `recv` does when the buffer and the chunk are commands and the beginning of another
line. -/
lemma receive_eq {commands : List FaultCommand} (hvalid : ∀ command ∈ commands, Valid command)
    {faultFlags : BitVec 32} {pending chunk rest : List Char} (hrest : '\n' ∉ rest)
    (htext : pending ++ chunk = commandStream commands ++ rest) :
    receive faultFlags pending chunk =
      ({ faultFlags := commands.foldl applyCommand faultFlags
         replies := commands.map fun command =>
           (commandText command, acknowledgementText command ++ ['\n']) }, rest) := by
  have hconsume := Framing.consume_frame '\n' handleLine { faultFlags }
    (newline_of_mem_map_commandText hvalid) hrest
  rw [← commandStream, ← htext, foldl_handleLine_commandText hvalid] at hconsume
  rw [receive, hconsume]
  rfl

end FlightDeck.System
