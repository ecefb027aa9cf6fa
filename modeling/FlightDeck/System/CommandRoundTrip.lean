import FlightDeck.System.LineFraming

set_option relaxedAutoImplicit false
set_option autoImplicit false

/-!
# Commands on the wire

A command that the server accepts from a browser is one line on the wire, the simulator answers
the line with one acknowledgement, and the server reads the acknowledgement as that of the
command. No id can change what a line says. Lines written back to back, and cut into chunks in any
way on both directions, are read as the same commands one after the other.

## Main definitions

* `relay` — what the server does with the messages of browsers.
* `faultBit` — the flag of a fault, by its number.
* `RoundTrips` — a line is read as a command and its answer as the acknowledgement.

## Main results

* `relay_eq` — the lines written for accepted messages.
* `roundTrips_commandText` — the round trip of one line.
* `accepted_round_trip` — any number of accepted messages, on streams cut anywhere.
-/

namespace FlightDeck.System

open Server Generator Framing

/-! ## Definitions -/

/-- One message of a browser, as `JSON.parse` reads it: `#acceptClientMessage` passes it to
`send` or refuses it. -/
def relayStep (now : SimulatorControlClient × List Effect) (parsed : JsonValue) :
    SimulatorControlClient × List Effect :=
  match acceptClientMessage now.1.connected (some parsed) with
  | .error _ => now
  | .ok command => ((now.1.send command).1, now.2 ++ (now.1.send command).2)

/-- Messages of browsers, one after the other, with the effects they have on the simulator's
side. -/
def relay (client : SimulatorControlClient) (messages : List JsonValue) :
    SimulatorControlClient × List Effect :=
  messages.foldl relayStep (client, [])

/-- The bytes that effects write to sockets. -/
def written (effects : List Effect) : List Char :=
  effects.flatMap fun
    | .write _ text => text
    | _ => []

/-- The bytes of the responses that the simulator sends. -/
def responses (handled : Handled) : List Char := handled.replies.flatMap Prod.snd

/-- The number of a fault's flag. -/
def faultBit : FaultType → ℕ
  | .thrusterLoss => 0
  | .sensorNoise => 1
  | .packetLoss => 2

/-- The callback for the acknowledgement of a command. -/
def acknowledged (command : FaultCommand) : Effect :=
  .onAcknowledgement command.id command.fault command.enabled

/-- The simulator reads the line as the command: it sets or clears the flag of the fault and
nothing else, and answers with one line, which is no error. The server reads the answer as the
acknowledgement of the command, which it then no longer keeps. -/
structure RoundTrips (command : FaultCommand) (line : List Char) : Prop where
  /-- It is one line. -/
  newline : '\n' ∉ line
  /-- Only the flag of the fault changes. -/
  flags : ∀ faultFlags, ∀ i < 32, (handleCommand faultFlags line).1.getLsbD i =
    if i = faultBit command.fault then command.enabled else faultFlags.getLsbD i
  /-- The answer, and what becomes of it. -/
  answer : ∃ answer, '\n' ∉ answer ∧ ['A', 'C', 'K', '\t'] <+: answer ∧
    (∀ faultFlags, (handleCommand faultFlags line).2 = answer ++ ['\n']) ∧
    ∀ client : SimulatorControlClient, client.buffer = [] →
      client.acceptData (answer ++ ['\n']) =
        ({ client with pending := client.pending.delete command.id }, [acknowledged command])

/-! ## One command -/

/-- While the link is up, an accepted message is passed on. -/
lemma acceptClientMessage_of_isFaultCommand {value : JsonValue} {command : FaultCommand}
    (h : isFaultCommand value = some command) :
    acceptClientMessage true (some value) = .ok command := by
  simp only [acceptClientMessage]
  rw [h]
  rfl

/-- A command changes the flag of its fault. -/
lemma getLsbD_applyCommand (faultFlags : BitVec 32) (command : FaultCommand) {i : ℕ}
    (hi : i < 32) : (applyCommand faultFlags command).getLsbD i =
      if i = faultBit command.fault then command.enabled else faultFlags.getLsbD i := by
  have hmask : faultMask command.fault.name = 1#32 <<< faultBit command.fault := by
    cases command.fault <;> rfl
  have hbit : faultBit command.fault < 32 := by cases command.fault <;> decide
  unfold applyCommand
  rw [hmask]
  exact getLsbD_ite_flag faultFlags command.enabled hbit hi

/-- Acknowledgements, one after the other: each is reported, and its command is not kept any
longer. -/
lemma foldl_acceptLine_acknowledgementText {commands : List FaultCommand}
    (hvalid : ∀ command ∈ commands, Valid command) (client : SimulatorControlClient)
    (effects : List Effect) :
    (commands.map acknowledgementText).foldl SimulatorControlClient.acceptLine (client, effects) =
      ({ client with
          pending := commands.foldl (fun pending command => pending.delete command.id)
            client.pending },
        effects ++ commands.map acknowledged) := by
  induction commands generalizing client effects with
  | nil => simp
  | cons command commands ih =>
    obtain ⟨hcommand, hvalid⟩ := List.forall_mem_cons.mp hvalid
    have hline : SimulatorControlClient.acceptLine (client, effects) (acknowledgementText command) =
        ({ client with pending := client.pending.delete command.id },
          effects ++ [acknowledged command]) := by
      rw [SimulatorControlClient.acceptLine, parseAcknowledgement_acknowledgementText hcommand]
      rfl
    rw [List.map_cons, List.foldl_cons, hline, ih hvalid]
    simp

/-- What `#acceptData` does when the buffer and the chunk are acknowledgements and the beginning
of another line. -/
lemma acceptData_acknowledgements {commands : List FaultCommand}
    (hvalid : ∀ command ∈ commands, Valid command) {client : SimulatorControlClient}
    {chunk rest : List Char} (hrest : '\n' ∉ rest)
    (htext : client.buffer ++ chunk = acknowledgementStream commands ++ rest) :
    client.acceptData chunk =
      ({ client with
          pending := commands.foldl (fun pending command => pending.delete command.id)
            client.pending
          buffer := rest },
        commands.map acknowledged) := by
  have hconsume := Framing.consume_frame '\n' SimulatorControlClient.acceptLine (client, [])
    (newline_of_mem_map_acknowledgementText hvalid) hrest
  rw [foldl_acceptLine_acknowledgementText hvalid, ← acknowledgementStream, ← htext] at hconsume
  rw [SimulatorControlClient.acceptData, hconsume]
  simp

/-- **The round trip of a command** that the server has validated. -/
lemma roundTrips_commandText {command : FaultCommand} (h : Valid command) :
    RoundTrips command (commandText command) where
  newline := h.newline_commandText
  flags faultFlags i hi := by
    rw [handleCommand_commandText h]
    exact getLsbD_applyCommand faultFlags command hi
  answer := by
    refine ⟨acknowledgementText command, h.newline_acknowledgementText, ?_, fun faultFlags => ?_,
      fun client hbuffer => ?_⟩
    · exact ⟨command.id ++ '\t' :: (command.fault.name ++ '\t' :: enabledText command.enabled), rfl⟩
    · rw [handleCommand_commandText h]
    · have htext : client.buffer ++ (acknowledgementText command ++ ['\n']) =
          acknowledgementStream [command] ++ [] := by
        rw [hbuffer]
        simp [acknowledgementStream]
      rw [acceptData_acknowledgements (List.forall_mem_singleton.mpr h) (List.not_mem_nil) htext,
        ← hbuffer]
      rfl

/-! ## Many commands -/

section Streams

variable {commands : List FaultCommand}

/-- Accepted messages are written one after the other, each as its own line. -/
lemma relay_eq {messages : List JsonValue}
    (haccepted : messages.map isFaultCommand = commands.map some)
    {client : SimulatorControlClient} {socket : ℕ} (hconnected : client.connected = true)
    (hsocket : client.socket = some socket) :
    (relay client messages).2 =
      commands.map fun command => .write socket (commandText command ++ ['\n']) := by
  have hfold : ∀ (client : SimulatorControlClient) (effects : List Effect),
      client.connected = true → client.socket = some socket →
        (messages.foldl relayStep (client, effects)).2 = effects ++
          commands.map fun command => .write socket (commandText command ++ ['\n']) := by
    clear hconnected hsocket client
    induction messages generalizing commands with
    | nil =>
      intro client effects _ _
      obtain rfl : commands = [] := by simpa using haccepted.symm
      simp
    | cons message messages ih =>
      intro client effects hconnected hsocket
      cases commands with
      | nil => simp at haccepted
      | cons command commands =>
        rw [List.map_cons, List.map_cons, List.cons.injEq] at haccepted
        obtain ⟨hmessage, haccepted⟩ := haccepted
        have hstep : relayStep (client, effects) message =
            ((client.send command).1,
              effects ++ [.write socket (commandText command ++ ['\n'])]) := by
          unfold relayStep
          rw [hconnected, acceptClientMessage_of_isFaultCommand hmessage, ← commandLine_eq]
          simp only [SimulatorControlClient.send, SimulatorControlClient.write, hconnected, hsocket]
          rfl
        rw [List.foldl_cons, hstep, ih haccepted (client.send command).1 _ hconnected hsocket]
        simp
  exact hfold client [] hconnected hsocket

/-- What a command of several does to the flags, and the reply it gets. -/
def handleAll (handled : Handled) (commands : List FaultCommand) : Handled where
  faultFlags := commands.foldl applyCommand handled.faultFlags
  replies := handled.replies ++ commands.map fun command =>
    (commandText command, acknowledgementText command ++ ['\n'])

/-- **The simulator's side** of a stream of commands that arrives in any chunks. -/
lemma foldl_receiveChunk (hvalid : ∀ command ∈ commands, Valid command)
    {chunks : List (List Char)} (hstream : chunks.flatten = commandStream commands)
    (faultFlags : BitVec 32) :
    chunks.foldl receiveChunk ({ faultFlags }, []) = (handleAll { faultFlags } commands, []) := by
  have hconsume := consume_frame '\n' handleLine { faultFlags }
    (newline_of_mem_map_commandText hvalid) (List.not_mem_nil)
  rw [List.append_nil, ← commandStream, ← hstream, ← handleClient_eq,
    foldl_handleLine_commandText hvalid] at hconsume
  exact hconsume

/-- What a client has done after the acknowledgements of several commands. -/
def acknowledgeAll (now : SimulatorControlClient × List Effect) (commands : List FaultCommand) :
    SimulatorControlClient × List Effect :=
  ({ now.1 with
      pending := commands.foldl (fun pending command => pending.delete command.id)
        now.1.pending },
    now.2 ++ commands.map acknowledged)

/-- **The server's side** of the stream of the answers, in any chunks. -/
lemma foldl_acceptChunk (hvalid : ∀ command ∈ commands, Valid command)
    {chunks : List (List Char)} (hstream : chunks.flatten = acknowledgementStream commands)
    {client : SimulatorControlClient} (hbuffer : client.buffer = []) :
    chunks.foldl acceptChunk (client, []) = acknowledgeAll (client, []) commands := by
  have hconsume := consume_frame '\n' SimulatorControlClient.acceptLine (client, [])
    (newline_of_mem_map_acknowledgementText hvalid) (List.not_mem_nil)
  rw [List.append_nil, ← acknowledgementStream, ← hstream,
    foldl_acceptLine_acknowledgementText hvalid] at hconsume
  have haccept := acceptChunks_eq client (show chunks = [] → '\n' ∉ client.buffer from
    fun _ => by simp [hbuffer])
  rw [hbuffer, List.nil_append, hconsume] at haccept
  refine haccept.trans ?_
  rw [withBuffer, acknowledgeAll, ← hbuffer]

/-- Deleting keys leaves none of them. -/
lemma id_notMem_acknowledgeAll (now : SimulatorControlClient × List Effect) {command : FaultCommand}
    (hmem : command ∈ commands) :
    command.id ∉ (acknowledgeAll now commands).1.pending.entries.map Prod.fst := by
  have hkeys : ∀ (map : InsertionMap (List Char) FaultCommand) (key : List Char),
      key ∈ (commands.foldl (fun pending command => pending.delete command.id) map).entries.map
        Prod.fst → key ∈ map.entries.map Prod.fst ∧ ∀ command ∈ commands, key ≠ command.id := by
    clear hmem now command
    induction commands with
    | nil =>
      intro map key hkey
      exact ⟨hkey, fun command hmem => absurd hmem (List.not_mem_nil)⟩
    | cons command commands ih =>
      intro map key hkey
      obtain ⟨hdelete, hne⟩ := ih (map.delete command.id) key hkey
      obtain ⟨entry, hentry, rfl⟩ := List.mem_map.mp hdelete
      obtain ⟨hmap, hkept⟩ := List.mem_filter.mp hentry
      exact ⟨List.mem_map_of_mem hmap,
        List.forall_mem_cons.mpr ⟨of_decide_eq_true hkept, hne⟩⟩
  intro hkey
  exact (hkeys _ _ hkey).2 command hmem rfl

/-- **Commands survive the wire.** Let the server receive messages that `isFaultCommand` accepts
while the link is up. It writes exactly one line for each command, whose round trip is right;
and whatever chunks the lines arrive in, the simulator handles exactly these lines in order, and
whatever chunks its answers arrive in, the server reports exactly these commands in order, once
each, and keeps none of them. -/
theorem accepted_round_trip {messages : List JsonValue} {commands : List FaultCommand}
    (haccepted : messages.map isFaultCommand = commands.map some)
    {client : SimulatorControlClient} {socket : ℕ} (hconnected : client.connected = true)
    (hsocket : client.socket = some socket) :
    ((relay client messages).2 =
        commands.map fun command => .write socket (commandText command ++ ['\n'])) ∧
      (∀ command ∈ commands, RoundTrips command (commandText command)) ∧
      ∀ (faultFlags : BitVec 32) (chunks : List (List Char)),
        chunks.flatten = written (relay client messages).2 →
        chunks.foldl receiveChunk ({ faultFlags }, []) = (handleAll { faultFlags } commands, []) ∧
        ∀ (client : SimulatorControlClient) (answers : List (List Char)), client.buffer = [] →
          answers.flatten = responses (chunks.foldl receiveChunk ({ faultFlags }, [])).1 →
          answers.foldl acceptChunk (client, []) = acknowledgeAll (client, []) commands ∧
          ∀ command ∈ commands, command.id ∉
            (answers.foldl acceptChunk (client, [])).1.pending.entries.map Prod.fst := by
  have hvalid : ∀ command ∈ commands, Valid command := by
    intro command hmem
    have hsome : some command ∈ messages.map isFaultCommand := by
      rw [haccepted]
      exact List.mem_map_of_mem hmem
    obtain ⟨message, -, hmessage⟩ := List.mem_map.mp hsome
    exact isCommandId_of_isFaultCommand hmessage
  have hrelay := relay_eq haccepted hconnected hsocket
  refine ⟨hrelay, fun command hmem => roundTrips_commandText (hvalid command hmem),
    fun faultFlags chunks hchunks => ?_⟩
  have hstream : written (relay client messages).2 = commandStream commands := by
    rw [hrelay, written, List.flatMap_map, commandStream, frame, List.map_map]
    rfl
  have hreceived := foldl_receiveChunk hvalid (hchunks.trans hstream) faultFlags
  refine ⟨hreceived, fun client answers hbuffer hanswers => ?_⟩
  have hanswered : responses (handleAll { faultFlags } commands) =
      acknowledgementStream commands := by
    simp only [responses, handleAll, List.nil_append]
    rw [List.flatMap_map, acknowledgementStream, frame, List.map_map]
    rfl
  rw [hreceived, hanswered] at hanswers
  have haccept := foldl_acceptChunk hvalid hanswers hbuffer
  rw [haccept]
  exact ⟨rfl, fun command hmem => id_notMem_acknowledgeAll (client, []) hmem⟩

end Streams

/-- A command to switch the sensor noise on. -/
def noiseCommand : FaultCommand where
  id := ['a', '-', '1']
  fault := .sensorNoise
  enabled := true
  issuedAtMs := 0

/-- Its message. -/
def noiseMessage : JsonValue := .object [("type".toList, .string "command".toList),
  ("id".toList, .string ['a', '-', '1']), ("fault".toList, .string "sensor_noise".toList),
  ("enabled".toList, .boolean true), ("issuedAtMs".toList, .number 0)]

/-- The line of one command. -/
theorem accepted_round_trip_noise :
    (relay { connected := true, socket := some 0 } [noiseMessage]).2 =
      [.write 0 "COMMAND\ta-1\tsensor_noise\t1\n".toList] := by
  have haccepted : [noiseMessage].map isFaultCommand = [noiseCommand].map some := by decide
  have hround := accepted_round_trip haccepted
    (show SimulatorControlClient.connected { connected := true, socket := some 0 } = true from rfl)
    (show SimulatorControlClient.socket { connected := true, socket := some 0 } = some 0 from rfl)
  exact hround.1

end FlightDeck.System
