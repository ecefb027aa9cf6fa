import FlightDeck.System.ControlRecords

set_option relaxedAutoImplicit false
set_option autoImplicit false

/-!
# Lines do not depend on chunks

Both ends of the control link append what they receive to a buffer and take complete lines off
it. What they do with a stream does not depend on where it is cut: `handle_client` handles the
parts of the stream before each newline and keeps what follows the last one, and the same holds
of `#acceptData`.

## Main definitions

* `receiveChunk`, `acceptChunk` — what either end does with one more chunk.
* `handleClient`, `acceptChunks` — what either end does with chunks.
* `Framed` — what `handle_client` makes of a stream.
* `Accepted` — what `#acceptData` makes of a stream.

## Main results

* `lineFraming` — two ways to cut a stream.
-/

namespace FlightDeck.System

open Server Generator Framing

/-! ## Definitions -/

/-- What `handle_client` does with one more `recv`: the flags and all replies so far, and the
unfinished line. -/
def receiveChunk (now : Handled × List Char) (chunk : List Char) : Handled × List Char :=
  let (handled, pending) := receive now.1.faultFlags now.2 chunk
  ({ handled with replies := now.1.replies ++ handled.replies }, pending)

/-- What `handle_client` does with the chunks it receives. -/
def handleClient (faultFlags : BitVec 32) (chunks : List (List Char)) : Handled × List Char :=
  chunks.foldl receiveChunk ({ faultFlags }, [])

/-- What the server does with one more chunk of answers. -/
def acceptChunk (now : SimulatorControlClient × List Effect) (chunk : List Char) :
    SimulatorControlClient × List Effect :=
  ((now.1.acceptData chunk).1, now.2 ++ (now.1.acceptData chunk).2)

/-- What `#acceptData` does with chunks. -/
def acceptChunks (client : SimulatorControlClient) (chunks : List (List Char)) :
    SimulatorControlClient × List Effect :=
  chunks.foldl acceptChunk (client, [])

/-- The lines are the parts of the stream before each newline, and the rest is kept. They are
handled in order, and each gets one line as its response. -/
structure Framed (faultFlags : BitVec 32) (stream : List Char) (result : Handled × List Char) :
    Prop where
  /-- Nothing is lost or repeated. -/
  stream_eq : stream = frame '\n' (result.1.replies.map Prod.fst) ++ result.2
  /-- The lines. -/
  lines : ∀ line ∈ result.1.replies.map Prod.fst, '\n' ∉ line
  /-- The rest. -/
  remainder : '\n' ∉ result.2
  /-- What the lines do. -/
  handled : result.1 = (result.1.replies.map Prod.fst).foldl handleLine { faultFlags }
  /-- The responses. -/
  responses : ∀ response ∈ result.1.replies.map Prod.snd,
    ∃ text, '\n' ∉ text ∧ response = text ++ ['\n']

/-- The same for the client: some lines of the buffer and the stream are accepted in order, and
the rest is the buffer. -/
def Accepted (client : SimulatorControlClient) (stream : List Char)
    (result : SimulatorControlClient × List Effect) : Prop :=
  ∃ lines rest, (∀ line ∈ lines, '\n' ∉ line) ∧ '\n' ∉ rest ∧
    client.buffer ++ stream = frame '\n' lines ++ rest ∧
    result =
      ({ (lines.foldl SimulatorControlClient.acceptLine (client, [])).1 with buffer := rest },
        (lines.foldl SimulatorControlClient.acceptLine (client, [])).2)

/-! ## The simulator -/

/-- A `recv` goes on where the last one stopped. -/
lemma receiveChunk_eq (now : Handled × List Char) (chunk : List Char) :
    receiveChunk now chunk = consume '\n' handleLine now.1 (now.2 ++ chunk) := by
  obtain ⟨⟨faultFlags, replies⟩, pending⟩ := now
  have hmap := consume_map '\n' handleLine
    (fun handled => { handled with replies := replies ++ handled.replies })
    (fun handled line => by simp [handleLine]) { faultFlags } (pending ++ chunk)
  simp only [List.append_nil] at hmap
  rw [hmap]
  rfl

/-- The replies are to the lines. -/
lemma map_fst_foldl_handleLine (lines : List (List Char)) (handled : Handled) :
    (lines.foldl handleLine handled).replies.map Prod.fst =
      handled.replies.map Prod.fst ++ lines := by
  induction lines generalizing handled with
  | nil => simp
  | cons line lines ih =>
    rw [List.foldl_cons, ih]
    simp [handleLine]

/-- Each response is one line. -/
lemma newline_of_mem_foldl_handleLine {lines : List (List Char)}
    (hlines : ∀ line ∈ lines, '\n' ∉ line) (faultFlags : BitVec 32) :
    ∀ response ∈ (lines.foldl handleLine { faultFlags }).replies.map Prod.snd,
      ∃ text, '\n' ∉ text ∧ response = text ++ ['\n'] := by
  induction lines using List.reverseRecOn with
  | nil => simp
  | append_singleton lines line ih =>
    have hline := hlines line (by simp)
    intro response hmem
    rw [List.foldl_concat, handleLine, List.map_append, List.mem_append] at hmem
    rcases hmem with hmem | hmem
    · exact ih (fun line hmem => hlines line (by simp [hmem])) response hmem
    · obtain rfl := List.mem_singleton.mp hmem
      exact exists_handleCommand_snd_eq _ hline

/-- Only the stream matters. -/
lemma handleClient_eq (faultFlags : BitVec 32) (chunks : List (List Char)) :
    handleClient faultFlags chunks = consume '\n' handleLine { faultFlags } chunks.flatten := by
  unfold handleClient
  rw [funext₂ receiveChunk_eq, foldl_consume '\n' handleLine _ (List.not_mem_nil) chunks,
    List.nil_append]

/-- **The simulator's side**: what it makes of the stream. -/
lemma framed_handleClient (faultFlags : BitVec 32) (chunks : List (List Char)) :
    Framed faultFlags chunks.flatten (handleClient faultFlags chunks) := by
  obtain ⟨lines, rest, hlines, hrest, hstream⟩ := exists_frame_append '\n' chunks.flatten
  have hfst := map_fst_foldl_handleLine lines { faultFlags }
  rw [List.map_nil, List.nil_append] at hfst
  rw [handleClient_eq, hstream, consume_frame '\n' handleLine _ hlines hrest]
  refine ⟨?_, ?_, hrest, ?_, newline_of_mem_foldl_handleLine hlines faultFlags⟩
  · rw [hfst]
  · rwa [hfst]
  · rw [hfst]

/-! ## The server -/

/-- A state of the loop as a client with its effects. -/
def withBuffer (now : (SimulatorControlClient × List Effect) × List Char) :
    SimulatorControlClient × List Effect :=
  ({ now.1.1 with buffer := now.2 }, now.1.2)

/-- The data of a chunk goes on where the last chunk stopped. -/
lemma acceptChunk_withBuffer (now : (SimulatorControlClient × List Effect) × List Char)
    (chunk : List Char) :
    acceptChunk (withBuffer now) chunk =
      withBuffer (consume '\n' SimulatorControlClient.acceptLine now.1 (now.2 ++ chunk)) := by
  obtain ⟨⟨client, effects⟩, buffer⟩ := now
  -- Neither the buffer nor the effects so far matter to a line.
  have hbuffer := consume_map '\n' SimulatorControlClient.acceptLine
    (fun now => ({ now.1 with buffer }, now.2))
    (fun now line => by
      unfold SimulatorControlClient.acceptLine
      split <;> rfl) (client, []) (buffer ++ chunk)
  have heffects := consume_map '\n' SimulatorControlClient.acceptLine
    (fun now => (now.1, effects ++ now.2))
    (fun now line => by
      unfold SimulatorControlClient.acceptLine
      split <;> simp) (client, []) (buffer ++ chunk)
  simp only [List.append_nil] at heffects
  unfold acceptChunk withBuffer SimulatorControlClient.acceptData
  dsimp only
  rw [hbuffer, heffects]

/-- Only the stream matters. -/
lemma acceptChunks_eq (client : SimulatorControlClient) {chunks : List (List Char)}
    (h : chunks = [] → '\n' ∉ client.buffer) :
    acceptChunks client chunks = withBuffer (consume '\n' SimulatorControlClient.acceptLine
      (client, []) (client.buffer ++ chunks.flatten)) := by
  change chunks.foldl acceptChunk (withBuffer ((client, []), client.buffer)) = _
  rw [List.foldl_hom withBuffer acceptChunk_withBuffer]
  rcases eq_or_ne chunks [] with hnil | hne
  · rw [foldl_consume '\n' _ _ (h hnil)]
  · rw [foldl_consume_of_ne_nil '\n' _ _ _ hne]

/-- **The server's side**: what it makes of the stream. -/
lemma accepted_acceptChunks {client : SimulatorControlClient} (h : '\n' ∉ client.buffer)
    (chunks : List (List Char)) :
    Accepted client chunks.flatten (acceptChunks client chunks) := by
  obtain ⟨lines, rest, hlines, hrest, hstream⟩ :=
    exists_frame_append '\n' (client.buffer ++ chunks.flatten)
  refine ⟨lines, rest, hlines, hrest, hstream, ?_⟩
  rw [acceptChunks_eq client fun _ => h, hstream, consume_frame '\n' _ _ hlines hrest]
  rfl

/-! ## Both -/

/-- Chunks that are not empty make a stream that is. -/
lemma eq_nil_of_flatten_eq_nil {chunks : List (List Char)} (hne : [] ∉ chunks)
    (h : chunks.flatten = []) : chunks = [] := by
  cases chunks with
  | nil => rfl
  | cons chunk chunks =>
    obtain rfl : chunk = [] := (List.append_eq_nil_iff.mp h).1
    simp at hne

/-- **Lines do not depend on chunks.** However a stream is cut into chunks that are not empty,
the simulator handles the same lines, sends the same responses, and ends with the same flags and
the same rest; the server reports the same acknowledgements and ends with the same buffer and
the same commands kept. -/
theorem lineFraming {chunks chunks' : List (List Char)} (hne : [] ∉ chunks) (hne' : [] ∉ chunks')
    (hstream : chunks.flatten = chunks'.flatten) :
    (∀ faultFlags, Framed faultFlags chunks.flatten (handleClient faultFlags chunks) ∧
        handleClient faultFlags chunks = handleClient faultFlags chunks') ∧
      ∀ client, ('\n' ∉ client.buffer →
          Accepted client chunks.flatten (acceptChunks client chunks)) ∧
        acceptChunks client chunks = acceptChunks client chunks' := by
  refine ⟨fun faultFlags => ⟨framed_handleClient faultFlags chunks, ?_⟩,
    fun client => ⟨fun hbuffer => accepted_acceptChunks hbuffer chunks, ?_⟩⟩
  · rw [handleClient_eq, handleClient_eq, hstream]
  · rcases eq_or_ne chunks [] with rfl | hchunks
    · rw [eq_nil_of_flatten_eq_nil hne' hstream.symm]
    · have hchunks' : chunks' ≠ [] := by
        rintro rfl
        exact hchunks (eq_nil_of_flatten_eq_nil hne hstream)
      rw [acceptChunks_eq client fun hnil => absurd hnil hchunks,
        acceptChunks_eq client fun hnil => absurd hnil hchunks', hstream]

/-- A stream of one and a half lines, whole and cut in the middle of its first line. -/
theorem lineFraming_midLine :
    handleClient 0 ["COMMAND\ta\tpacket_loss\t1\nCOM".toList] =
        handleClient 0 ["COMM".toList, "AND\ta\tpacket_loss\t1\nCOM".toList] ∧
      acceptChunks {} ["COMMAND\ta\tpacket_loss\t1\nCOM".toList] =
        acceptChunks {} ["COMM".toList, "AND\ta\tpacket_loss\t1\nCOM".toList] :=
  ⟨((lineFraming (by decide) (by decide) (by decide)).1 0).2,
    ((lineFraming (by decide) (by decide) (by decide)).2 {}).2⟩

end FlightDeck.System
