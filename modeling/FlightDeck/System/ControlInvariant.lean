import FlightDeck.Lib.Replay
import FlightDeck.System.ControlLink

set_option relaxedAutoImplicit false
set_option autoImplicit false

/-!
# Where the commands are

Every connection starts with a replay of all pending commands, so the simulator may execute a
command several times, and an old one after a newer one. The invariant of the link says where
the commands are: those acknowledged are the first ones issued and the client keeps the others;
the connection the simulator serves, or last served, has come to some command `p`; what is under
way on it are commands from `p` on, and back on it the acknowledgements up to `p`. The abstract
account of such a replay is `Replay.Settled`, which says that the first `p` commands have their
last execution in order.

## Main definitions

* `ControlLink.upstream`, `ControlLink.downstream` — the text under way, with what either end
  has read of an unfinished line.
* `ControlLink.Invariant` — where every command is.

## Main results

* `ControlLink.Invariant.data`, `ControlLink.Invariant.receive`, `ControlLink.Invariant.accept`
  and others — what each kind of event does to it.
-/

namespace FlightDeck.System

open Server Generator TransitionSystem Framing Replay

namespace ControlLink

/-! ## Where the commands are -/

section

variable (link : ControlLink) (socket : ℕ)

/-- A connection the simulator reads from, or will. -/
def Receives : Prop :=
  socket < link.client.sockets ∧ (link.nextAccept ≤ socket ∨ link.serving = some socket)

/-- The text the client wrote that the simulator has not handled. -/
def upstream : List Char :=
  (if link.serving = some socket then link.pending else []) ++ (link.connections socket).up

/-- The text the simulator sent that the client has not handled. -/
def downstream : List Char :=
  (if link.client.socket = some socket then link.client.buffer else []) ++
    (link.connections socket).down

/-- The command a connection has come to, when `acked` commands are acknowledged and the last
connection served has come to `p`: connections not accepted yet are still where the replay
started. -/
def position (acked p : ℕ) : ℕ := if socket < link.nextAccept then p else acked

end

/-- Where the commands are: of those `issued`, the first `acked` are acknowledged and the others
pending; `executed` is what the simulator executed, and the last connection it served has come
to command `p`. -/
structure Invariant (issued : List FaultCommand) (acked : ℕ) (executed : List FaultCommand)
    (p : ℕ) (link : ControlLink) : Prop where
  /-- Only validated commands are issued. -/
  valid : ∀ command ∈ issued, Valid command
  /-- Only executed commands are acknowledged. -/
  acked_le : acked ≤ p
  /-- The commands before `p` have their last execution in order. -/
  settled : Settled issued executed p
  /-- The flags are what was executed. -/
  flags : link.faultFlags = executed.foldl applyCommand 0
  /-- The client keeps what is not acknowledged, in order of issue. -/
  entries : link.client.pending.entries =
    (issued.drop acked).map fun command => (command.id, command)
  /-- Only sockets that exist have been used. -/
  unused : ∀ k, link.client.sockets ≤ k → link.connections k = {}
  /-- A socket that has not closed is the client's socket. -/
  live : ∀ k, k < link.client.sockets → (link.connections k).closed = false →
    link.client.socket = some k
  /-- The client's socket is the last one created. -/
  current : ∀ k, link.client.socket = some k → k + 1 = link.client.sockets
  /-- While connected, the client's socket is established and not destroyed. -/
  connected : link.client.connected = true → ∃ k, link.client.socket = some k ∧
    (link.connections k).established = true ∧ (link.connections k).destroyed = false
  /-- Without a socket nothing is buffered. -/
  buffer : link.client.socket = none → link.client.buffer = []
  /-- Only connections that exist are accepted. -/
  accepted_le : link.nextAccept ≤ link.client.sockets
  /-- The connection served is the last one accepted. -/
  serving : ∀ k, link.serving = some k → k + 1 = link.nextAccept
  /-- Commands under way are those from the connection's position on. -/
  up : ∀ k, link.Receives k → ∃ sent, sent <+: issued.drop (link.position k acked p) ∧
    link.upstream k = commandStream sent
  /-- On the client's connection they are all under way. -/
  upAll : ∀ k, link.Receives k → link.client.connected = true → link.client.socket = some k →
    link.upstream k = commandStream (issued.drop (link.position k acked p))
  /-- Acknowledgements under way are those up to the connection's position. -/
  down : ∀ k, link.client.socket = some k →
    link.client.buffer ++ (link.connections k).down =
      acknowledgementStream ((issued.drop acked).take (link.position k acked p - acked))
  /-- Nothing is under way on a connection before it is established. -/
  quiet : ∀ k, (link.connections k).established = false →
    link.upstream k = [] ∧ link.downstream k = []

section Steps

variable {issued executed : List FaultCommand} {acked p : ℕ} {link : ControlLink}

/-- At the start. -/
lemma Invariant.init : Invariant [] 0 [] 0 {} where
  valid := by simp
  acked_le := le_rfl
  settled := Settled.start []
  flags := rfl
  entries := rfl
  unused := by simp
  live := by simp
  current := by simp
  connected := by simp
  buffer := by simp
  accepted_le := le_rfl
  serving := by simp
  up := fun k h => absurd h.1 (Nat.not_lt_zero k)
  upAll := by simp
  down := by simp
  quiet := by simp [upstream, downstream]

/-- The invariant looks only at some of the state. -/
lemma Invariant.transfer (h : Invariant issued acked executed p link) {link' : ControlLink}
    (hsocket : link'.client.socket = link.client.socket)
    (hentries : link'.client.pending = link.client.pending)
    (hbuffer : link'.client.buffer = link.client.buffer)
    (hconnected : link'.client.connected = link.client.connected)
    (hsockets : link'.client.sockets = link.client.sockets)
    (hconnections : link'.connections = link.connections)
    (hflags : link'.faultFlags = link.faultFlags) (hserving : link'.serving = link.serving)
    (hpending : link'.pending = link.pending) (hnext : link'.nextAccept = link.nextAccept) :
    Invariant issued acked executed p link' := by
  obtain ⟨client, timers, connections, flags, serving, pending, next⟩ := link
  obtain ⟨client', timers', connections', flags', serving', pending', next'⟩ := link'
  obtain ⟨socket, entries, buffer, running, connected, timer, sockets, count⟩ := client
  obtain ⟨socket', entries', buffer', running', connected', timer', sockets', count'⟩ := client'
  dsimp only at *
  subst hsocket hentries hbuffer hconnected hsockets hconnections hflags hserving hpending hnext
  exact { h with }

/-- The simulator drops the connection it serves. -/
lemma Invariant.hangUp (h : Invariant issued acked executed p link) :
    Invariant issued acked executed p { link with serving := none, pending := [] } := by
  have hother : ∀ k, Receives { link with serving := none, pending := [] } k →
      link.Receives k ∧ upstream { link with serving := none, pending := [] } k =
        link.upstream k := by
    intro k hk
    have hge : link.nextAccept ≤ k := hk.2.resolve_right (by simp)
    have hne : link.serving ≠ some k := fun heq => by
      have := h.serving k heq
      omega
    exact ⟨⟨hk.1, Or.inl hge⟩, by simp [upstream, hne]⟩
  refine { h with
    serving := by simp
    up := ?up, upAll := ?upAll, quiet := ?quiet }
  case up =>
    intro k hk
    rw [(hother k hk).2]
    exact h.up k (hother k hk).1
  case upAll =>
    intro k hk hc hs
    rw [(hother k hk).2]
    exact h.upAll k (hother k hk).1 hc hs
  case quiet =>
    intro k hk
    obtain ⟨hup, hdown⟩ := h.quiet k hk
    refine ⟨?_, hdown⟩
    simp only [upstream, List.append_eq_nil_iff] at hup ⊢
    exact ⟨by simp, hup.2⟩

/-- The simulator accepts a connection: it will execute again from the first command that was
not acknowledged when the connection was made, which is the first pending one. -/
lemma Invariant.accept (h : Invariant issued acked executed p link) {socket : ℕ}
    (hserving : link.serving = none) (hge : link.nextAccept ≤ socket)
    (hlt : socket < link.client.sockets) :
    Invariant issued acked executed acked
      { link with serving := some socket, pending := [], nextAccept := socket + 1 } := by
  set link' : ControlLink :=
    { link with serving := some socket, pending := [], nextAccept := socket + 1 } with hlink
  have hup : ∀ k, link'.upstream k = link.upstream k := fun k => by
    simp [upstream, hlink, hserving]
  have hposition : ∀ k, link'.position k acked acked = acked := fun k => by simp [position]
  have hreceives : ∀ k, link'.Receives k →
      link.Receives k ∧ link.position k acked p = acked := by
    rintro k ⟨hk, hcase⟩
    have hge' : link.nextAccept ≤ k := by
      rcases hcase with hcase | hcase
      · have : socket + 1 ≤ k := hcase
        omega
      · obtain rfl : socket = k := by simpa [hlink] using hcase
        exact hge
    exact ⟨⟨hk, Or.inl hge'⟩, if_neg (not_lt.mpr hge')⟩
  refine { h with
    acked_le := le_rfl
    settled := h.settled.rewind h.acked_le
    accepted_le := hlt
    serving := ?serving, up := ?up, upAll := ?upAll, down := ?down, quiet := ?quiet }
  case serving =>
    intro k hk
    obtain rfl : socket = k := by simpa [hlink] using hk
    rfl
  case up =>
    intro k hk
    rw [hup, hposition, ← (hreceives k hk).2]
    exact h.up k (hreceives k hk).1
  case upAll =>
    intro k hk hc hs
    rw [hup, hposition, ← (hreceives k hk).2]
    exact h.upAll k (hreceives k hk).1 hc hs
  case down =>
    intro k hk
    have hnot : ¬ k < link.nextAccept := by
      have := h.current k hk
      omega
    have hdown := h.down k hk
    rw [position, if_neg hnot] at hdown
    rw [hposition]
    exact hdown
  case quiet =>
    intro k hk
    rw [hup]
    exact h.quiet k hk

/-- The client creates a socket. -/
lemma Invariant.create (h : Invariant issued acked executed p link)
    (hsocket : link.client.socket = none) :
    Invariant issued acked executed p
      { link with client := { link.client with
          socket := some link.client.sockets, sockets := link.client.sockets + 1 } } := by
  set link' : ControlLink := { link with client := { link.client with
    socket := some link.client.sockets, sockets := link.client.sockets + 1 } } with hlink
  have hup : ∀ k, link'.upstream k = link.upstream k := fun _ => rfl
  have hnew : link.connections link.client.sockets = {} := h.unused _ le_rfl
  have hconnected : link.client.connected = false := by
    by_contra hc
    obtain ⟨k, hk, -⟩ := h.connected (by simpa using hc)
    rw [hsocket] at hk
    cases hk
  have hquiet := h.quiet link.client.sockets (by rw [hnew])
  refine { h with
    unused := fun k hk => h.unused k (Nat.le_of_succ_le hk)
    accepted_le := Nat.le_succ_of_le h.accepted_le
    live := ?live, current := ?current, connected := ?connected, buffer := ?buffer, up := ?up,
    upAll := ?upAll, down := ?down, quiet := ?quiet }
  case live =>
    intro k hk hclosed
    rcases Nat.lt_succ_iff_lt_or_eq.mp (show k < link.client.sockets + 1 from hk) with hk | rfl
    · have := h.live k hk hclosed
      rw [hsocket] at this
      cases this
    · rfl
  case current =>
    intro k hk
    obtain rfl : link.client.sockets = k := by simpa [hlink] using hk
    rfl
  case connected =>
    intro hc
    exact absurd (show link.client.connected = true from hc) (by simp [hconnected])
  case buffer =>
    intro hs
    simp [hlink] at hs
  case up =>
    intro k hk
    rcases Nat.lt_succ_iff_lt_or_eq.mp (show k < link.client.sockets + 1 from hk.1) with hlt | rfl
    · exact h.up k ⟨hlt, hk.2⟩
    · exact ⟨[], List.nil_prefix, by rw [hup, hquiet.1]; rfl⟩
  case upAll =>
    intro k _ hc
    exact absurd (show link.client.connected = true from hc) (by simp [hconnected])
  case down =>
    intro k hk
    obtain rfl : link.client.sockets = k := by simpa [hlink] using hk
    have hnot : ¬ link.client.sockets < link.nextAccept := not_lt.mpr h.accepted_le
    have hbuffer := h.buffer hsocket
    simp [hlink, hnew, position, hnot, hbuffer, acknowledgementStream]
  case quiet =>
    intro k hk
    obtain ⟨hupk, hdownk⟩ := h.quiet k hk
    refine ⟨hupk, ?_⟩
    have hbuffer := h.buffer hsocket
    simp only [downstream, hsocket, reduceCtorEq, if_false, List.nil_append] at hdownk
    simp [downstream, hlink, hdownk, hbuffer]

/-- The client gives its connection up: nothing more will be written on it. -/
lemma Invariant.stop (h : Invariant issued acked executed p link) (connections : ℕ → Connection)
    (hunused : ∀ k, link.client.sockets ≤ k → connections k = {})
    (hsame : ∀ k, (connections k).established = (link.connections k).established ∧
      (connections k).closed = (link.connections k).closed ∧
      (connections k).up = (link.connections k).up ∧
      (connections k).down = (link.connections k).down) :
    Invariant issued acked executed p
      { link with client := { link.client with connected := false }, connections } := by
  refine { h with
    unused := hunused
    connected := by simp
    live := ?live, up := ?up, upAll := ?upAll, down := ?down, quiet := ?quiet }
  case live =>
    intro k hk hclosed
    exact h.live k hk ((hsame k).2.1.symm.trans hclosed)
  case up =>
    intro k hk
    simp only [upstream, (hsame k).2.2.1]
    exact h.up k hk
  case upAll =>
    intro _ _ hc
    simp at hc
  case down =>
    intro k hk
    simp only [(hsame k).2.2.2]
    exact h.down k hk
  case quiet =>
    intro k hk
    simp only [upstream, downstream, (hsame k).2.2.1, (hsame k).2.2.2]
    exact h.quiet k ((hsame k).1.symm.trans hk)

/-- A connection of which only the text under way has changed. -/
structure SameFlags (connection connection' : Connection) : Prop where
  established : connection'.established = connection.established
  destroyed : connection'.destroyed = connection.destroyed
  closed : connection'.closed = connection.closed

/-- Text is added to one connection, or taken from it. -/
lemma SameFlags.update {connections : ℕ → Connection} {socket : ℕ} {connection : Connection}
    (h : SameFlags (connections socket) connection) (k : ℕ) :
    SameFlags (connections k) (Function.update connections socket connection k) := by
  by_cases hk : k = socket
  · subst hk
    rw [Function.update_self]
    exact h
  · rw [Function.update_of_ne hk]
    exact ⟨rfl, rfl, rfl⟩

/-- Only a connection that exists changes. -/
lemma Invariant.unused_update (h : Invariant issued acked executed p link) {socket : ℕ}
    (hlt : socket < link.client.sockets) (connection : Connection) {k : ℕ}
    (hk : link.client.sockets ≤ k) :
    Function.update link.connections socket connection k = {} :=
  (Function.update_of_ne (by omega) _ _).trans (h.unused k hk)

/-- The client's socket stays as it is. -/
lemma Invariant.connected_of_sameFlags (h : Invariant issued acked executed p link)
    {connections : ℕ → Connection}
    (hflags : ∀ k, SameFlags (link.connections k) (connections k))
    (hconnected : link.client.connected = true) :
    ∃ k, link.client.socket = some k ∧ (connections k).established = true ∧
      (connections k).destroyed = false := by
  obtain ⟨k, hk, hestablished, hdestroyed⟩ := h.connected hconnected
  exact ⟨k, hk, (hflags k).established.trans hestablished,
    (hflags k).destroyed.trans hdestroyed⟩

/-- The client's socket closes: what it had not handled is gone. -/
lemma Invariant.close (h : Invariant issued acked executed p link) {socket : ℕ}
    (hsocket : link.client.socket = some socket) (hlt : socket < link.client.sockets) :
    Invariant issued acked executed p { link with
      client := { link.client with socket := none, buffer := [], connected := false }
      connections := Function.update link.connections socket
        { link.connections socket with closed := true } } := by
  have hsame : ∀ k, (Function.update link.connections socket
      { link.connections socket with closed := true } k).established =
        (link.connections k).established ∧
      (Function.update link.connections socket
        { link.connections socket with closed := true } k).up = (link.connections k).up ∧
      (Function.update link.connections socket
        { link.connections socket with closed := true } k).down = (link.connections k).down := by
    intro k
    by_cases hk : k = socket
    · subst hk
      simp
    · simp [Function.update_of_ne hk]
  refine { h with
    unused := fun k => h.unused_update hlt _
    current := by simp
    connected := by simp
    buffer := by simp
    down := by simp
    live := ?live, up := ?up, upAll := ?upAll, quiet := ?quiet }
  case live =>
    intro k hk hclosed
    -- Only the client's socket had not closed.
    by_cases hne : k = socket
    · subst hne
      simp at hclosed
    · simp only [Function.update_of_ne hne] at hclosed
      have := h.live k hk hclosed
      rw [hsocket, Option.some_inj] at this
      exact absurd this.symm hne
  case up =>
    intro k hk
    simp only [upstream, (hsame k).2.1]
    exact h.up k hk
  case upAll =>
    intro _ _ hc
    simp at hc
  case quiet =>
    intro k hk
    have hestablished := (hsame k).1.symm.trans hk
    obtain ⟨hup, hdown⟩ := h.quiet k hestablished
    simp only [upstream, downstream, (hsame k).2.1, (hsame k).2.2]
    refine ⟨hup, ?_⟩
    simp only [downstream, List.append_eq_nil_iff] at hdown ⊢
    exact ⟨by simp, hdown.2⟩

/-- A position is between what is acknowledged and `p`. -/
lemma Invariant.position_bounds (h : Invariant issued acked executed p link) (socket : ℕ) :
    acked ≤ link.position socket acked p ∧ link.position socket acked p ≤ p := by
  rw [position]
  split
  · exact ⟨h.acked_le, le_rfl⟩
  · exact ⟨le_rfl, h.acked_le⟩

/-- The client's socket is established, and every pending command is written on it. -/
lemma Invariant.connect (h : Invariant issued acked executed p link) {socket : ℕ}
    (hsocket : link.client.socket = some socket) (hlt : socket < link.client.sockets)
    (hnew : (link.connections socket).established = false)
    (hdestroyed : (link.connections socket).destroyed = false) :
    Invariant issued acked executed p { link with
      client := { link.client with connected := true }
      connections := Function.update link.connections socket
        { link.connections socket with
          established := true
          up := (link.connections socket).up ++ commandStream (issued.drop acked) } } := by
  set link' : ControlLink := { link with
    client := { link.client with connected := true }
    connections := Function.update link.connections socket
      { link.connections socket with
        established := true
        up := (link.connections socket).up ++ commandStream (issued.drop acked) } } with hlink
  obtain ⟨hupNil, hdownNil⟩ := h.quiet socket hnew
  -- Nothing is on its way back, so the simulator has executed nothing of this connection yet.
  have hposition : link.position socket acked p = acked := by
    have hdown := h.down socket hsocket
    simp only [downstream, hsocket, if_true] at hdownNil
    rw [hdownNil, eq_comm, acknowledgementStream, frame_eq_nil_iff, List.map_eq_nil_iff,
      List.take_eq_nil_iff] at hdown
    have hle := h.settled.le
    obtain ⟨hge, hpos⟩ := h.position_bounds socket
    rcases hdown with hdown | hdown
    · omega
    · rw [List.drop_eq_nil_iff] at hdown
      omega
  have hself : link'.upstream socket = commandStream (issued.drop acked) := by
    have : link'.upstream socket =
        link.upstream socket ++ commandStream (issued.drop acked) := by
      simp [upstream, hlink]
    rw [this, hupNil, List.nil_append]
  have hother : ∀ k, k ≠ socket → link'.connections k = link.connections k := fun k hk =>
    Function.update_of_ne hk _ _
  refine { h with
    unused := fun k => h.unused_update hlt _
    live := ?live, connected := ?connected, up := ?up, upAll := ?upAll, down := ?down,
    quiet := ?quiet }
  case live =>
    intro k hk hclosed
    by_cases hne : k = socket
    · rw [hne]
      exact hsocket
    · rw [hother k hne] at hclosed
      exact h.live k hk hclosed
  case connected =>
    intro _
    exact ⟨socket, hsocket, by simp [hlink, hdestroyed]⟩
  case up =>
    intro k hk
    by_cases hne : k = socket
    · subst hne
      exact ⟨issued.drop acked, by rw [show link'.position k acked p = acked from hposition], hself⟩
    · have hup : link'.upstream k = link.upstream k := by simp only [upstream, hother k hne]; rfl
      rw [hup]
      exact h.up k hk
  case upAll =>
    intro k hk _ hs
    obtain rfl : socket = k := Option.some_inj.mp (hsocket.symm.trans hs)
    rw [hself]
    exact congrArg (fun n => commandStream (issued.drop n)) hposition.symm
  case down =>
    intro k hk
    obtain rfl : socket = k := Option.some_inj.mp (hsocket.symm.trans hk)
    have hdown : (link'.connections socket).down = (link.connections socket).down := by
      simp [hlink]
    rw [hdown]
    exact h.down socket hk
  case quiet =>
    intro k hk
    by_cases hne : k = socket
    · subst hne
      simp [hlink] at hk
    · rw [hother k hne] at hk
      obtain ⟨hup, hdown⟩ := h.quiet k hk
      simp only [upstream, downstream, hother k hne]
      exact ⟨hup, hdown⟩

/-- A command is accepted and written on the client's connection. -/
lemma Invariant.issue (h : Invariant issued acked executed p link) {socket : ℕ}
    {command : FaultCommand} (hvalid : Valid command)
    (hfresh : command.id ∉ issued.map (·.id)) (hconnected : link.client.connected = true)
    (hsocket : link.client.socket = some socket) :
    Invariant (issued ++ [command]) acked executed p { link with
      client := { link.client with
        pending := link.client.pending.set command.id command }
      connections := Function.update link.connections socket
        { link.connections socket with
          up := (link.connections socket).up ++ commandStream [command] } } := by
  set link' : ControlLink := { link with
    client := { link.client with pending := link.client.pending.set command.id command }
    connections := Function.update link.connections socket
      { link.connections socket with
        up := (link.connections socket).up ++ commandStream [command] } } with hlink
  have hacked : acked ≤ issued.length := h.acked_le.trans h.settled.le
  have hdrop : ∀ n ≤ issued.length, (issued ++ [command]).drop n = issued.drop n ++ [command] :=
    fun n hn => List.drop_append_of_le_length hn
  have hposition : ∀ k, link.position k acked p ≤ issued.length := fun k =>
    (h.position_bounds k).2.trans h.settled.le
  have hself : link'.upstream socket = link.upstream socket ++ commandStream [command] := by
    simp [upstream, hlink]
  have hother : ∀ k, k ≠ socket → link'.connections k = link.connections k := fun k hk =>
    Function.update_of_ne hk _ _
  have hflags : ∀ k, SameFlags (link.connections k) (link'.connections k) :=
    SameFlags.update ⟨rfl, rfl, rfl⟩
  have hdown : ∀ k, (link'.connections k).down = (link.connections k).down := by
    intro k
    by_cases hne : k = socket
    · subst hne
      simp [hlink]
    · rw [hother k hne]
  have hlt : socket < link.client.sockets := by
    have := h.current socket hsocket
    omega
  refine { h with
    settled := h.settled.issue command
    unused := fun k => h.unused_update hlt _
    live := fun k hk hclosed => h.live k hk ((hflags k).closed.symm.trans hclosed)
    connected := h.connected_of_sameFlags hflags
    valid := ?valid, entries := ?entries, up := ?up, upAll := ?upAll, down := ?down,
    quiet := ?quiet }
  case valid =>
    intro c hc
    rcases List.mem_append.mp hc with hc | hc
    · exact h.valid c hc
    · rw [List.mem_singleton.mp hc]
      exact hvalid
  case entries =>
    have hkey : command.id ∉ link.client.pending.entries.map Prod.fst := by
      rw [h.entries, List.map_map]
      intro hmem
      obtain ⟨c, hc, hid⟩ := List.mem_map.mp hmem
      exact hfresh (List.mem_map.mpr ⟨c, List.mem_of_mem_drop hc, hid⟩)
    rw [hdrop acked hacked, List.map_append, ← h.entries]
    exact InsertionMap.entries_set_of_not_mem _ _ hkey
  case up =>
    intro k hk
    have hpos : link'.position k acked p = link.position k acked p := rfl
    rw [hpos, hdrop _ (hposition k)]
    by_cases hne : k = socket
    · subst hne
      refine ⟨_, List.prefix_rfl, ?_⟩
      rw [hself, h.upAll k hk hconnected hsocket, commandStream_append]
    · obtain ⟨sent, hinitial, hup⟩ := h.up k hk
      refine ⟨sent, hinitial.trans (List.prefix_append ..), ?_⟩
      simp only [upstream, hother k hne]
      exact hup
  case upAll =>
    intro k hk _ hs
    obtain rfl : socket = k := Option.some_inj.mp (hsocket.symm.trans hs)
    have hpos : link'.position socket acked p = link.position socket acked p := rfl
    rw [hself, hpos, hdrop _ (hposition socket), h.upAll socket hk hconnected hsocket,
      commandStream_append]
  case down =>
    intro k hk
    have hpos : link'.position k acked p = link.position k acked p := rfl
    have hlength : link.position k acked p - acked ≤ (issued.drop acked).length := by
      have := hposition k
      rw [List.length_drop]
      omega
    rw [hdown k, hpos, hdrop acked hacked, List.take_append_of_le_length hlength]
    exact h.down k hk
  case quiet =>
    intro k hk
    rw [(hflags k).established] at hk
    by_cases hne : k = socket
    · subst hne
      obtain ⟨k', hk', hestablished, -⟩ := h.connected hconnected
      obtain rfl : k = k' := Option.some_inj.mp (hsocket.symm.trans hk')
      rw [hk] at hestablished
      cases hestablished
    · obtain ⟨hup, hdown⟩ := h.quiet k hk
      simp only [upstream, downstream, hother k hne]
      exact ⟨hup, hdown⟩

/-- Acknowledgements arrive: those the client reads to the end are those of the first pending
commands. `rest` is the unfinished line it keeps, and `down` is what is still under way. -/
lemma Invariant.data (h : Invariant issued acked executed p link) {socket j : ℕ}
    (hsocket : link.client.socket = some socket) {pending : InsertionMap (List Char) FaultCommand}
    {rest down : List Char}
    (hj : j ≤ link.position socket acked p - acked)
    (hpending : pending.entries =
      (issued.drop (acked + j)).map fun command => (command.id, command))
    (hrest : rest ++ down = acknowledgementStream
      (((issued.drop acked).take (link.position socket acked p - acked)).drop j))
    (hestablished : (link.connections socket).established = true) :
    Invariant issued (acked + j) executed p { link with
      client := { link.client with pending, buffer := rest }
      connections := Function.update link.connections socket
        { link.connections socket with down } } := by
  set link' : ControlLink := { link with
    client := { link.client with pending, buffer := rest }
    connections := Function.update link.connections socket
      { link.connections socket with down } } with hlink
  have hbounds := h.position_bounds socket
  have hother : ∀ k, k ≠ socket → link'.connections k = link.connections k := fun k hk =>
    Function.update_of_ne hk _ _
  have hflags : ∀ k, SameFlags (link.connections k) (link'.connections k) :=
    SameFlags.update ⟨rfl, rfl, rfl⟩
  -- If anything is acknowledged, the connection has been accepted, and no later one exists.
  have hposition : ∀ k, k < link.client.sockets →
      link'.position k (acked + j) p = link.position k acked p := by
    intro k hk
    have hcurrent := h.current socket hsocket
    have hpos : link'.position k (acked + j) p = if k < link.nextAccept then p else acked + j :=
      rfl
    rw [hpos, position]
    rw [position] at hj
    split
    · rfl
    · next hge =>
      split at hj
      · omega
      · omega
  have hup : ∀ k, link'.upstream k = link.upstream k := by
    intro k
    by_cases hne : k = socket
    · subst hne
      simp [upstream, hlink]
    · simp only [upstream, hother k hne]
      rfl
  have hlt : socket < link.client.sockets := by
    have := h.current socket hsocket
    omega
  refine { h with
    acked_le := by omega
    entries := hpending
    unused := fun k => h.unused_update hlt _
    live := fun k hk hclosed => h.live k hk ((hflags k).closed.symm.trans hclosed)
    connected := h.connected_of_sameFlags hflags
    buffer := ?buffer, up := ?up, upAll := ?upAll, down := ?down, quiet := ?quiet }
  case buffer =>
    intro hs
    have hnone : link.client.socket = none := hs
    rw [hsocket] at hnone
    cases hnone
  case up =>
    intro k hk
    rw [hup, hposition k hk.1]
    exact h.up k hk
  case upAll =>
    intro k hk hc hs
    rw [hup, hposition k hk.1]
    exact h.upAll k hk hc hs
  case down =>
    intro k hk
    obtain rfl : socket = k := Option.some_inj.mp (hsocket.symm.trans hk)
    have hdown : (link'.connections socket).down = down := by simp [hlink]
    rw [hdown, hposition socket hlt]
    have hslice : (issued.drop (acked + j)).take (link.position socket acked p - (acked + j)) =
        ((issued.drop acked).take (link.position socket acked p - acked)).drop j := by
      rw [List.drop_take, List.drop_drop]
      congr 1
      omega
    rw [hslice]
    exact hrest
  case quiet =>
    intro k hk
    rw [(hflags k).established] at hk
    have hne : k ≠ socket := by
      rintro rfl
      rw [hk] at hestablished
      cases hestablished
    obtain ⟨hupk, hdownk⟩ := h.quiet k hk
    refine ⟨(hup k).trans hupk, ?_⟩
    have hsne : link.client.socket ≠ some k := fun heq =>
      hne (Option.some_inj.mp (heq.symm.trans hsocket))
    simp only [downstream, if_neg hsne] at hdownk
    have hsne' : link'.client.socket ≠ some k := hsne
    simp only [downstream, hother k hne, if_neg hsne']
    exact hdownk

/-- Commands arrive: the simulator executes and acknowledges those it has read to the end.
`rest` is the unfinished line it keeps, and `up` is what is still under way. -/
lemma Invariant.receive (h : Invariant issued acked executed p link) {socket j : ℕ}
    (hserving : link.serving = some socket) {sent : List FaultCommand} {rest up : List Char}
    (hsent : sent <+: issued.drop p)
    (hall : link.client.connected = true → link.client.socket = some socket →
      sent = issued.drop p)
    (hj : j ≤ sent.length) (hrest : rest ++ up = commandStream (sent.drop j))
    (hestablished : (link.connections socket).established = true) :
    Invariant issued acked (executed ++ sent.take j) (p + j) { link with
      faultFlags := (sent.take j).foldl applyCommand link.faultFlags
      pending := rest
      connections := Function.update link.connections socket
        { link.connections socket with
          up
          down := (link.connections socket).down ++ acknowledgementStream (sent.take j) } } := by
  set link' : ControlLink := { link with
    faultFlags := (sent.take j).foldl applyCommand link.faultFlags
    pending := rest
    connections := Function.update link.connections socket
      { link.connections socket with
        up
        down := (link.connections socket).down ++ acknowledgementStream (sent.take j) } } with hlink
  have hnext := h.serving socket hserving
  have hlt : socket < link.client.sockets := by
    have := h.accepted_le
    omega
  have htake : sent.take j = (issued.drop p).take j := by
    obtain ⟨tail, htail⟩ := hsent
    rw [← htail, List.take_append_of_le_length hj]
  have hlength : p + j ≤ issued.length := by
    have := hsent.length_le
    rw [List.length_drop] at this
    have := h.settled.le
    omega
  have hother : ∀ k, k ≠ socket → link'.connections k = link.connections k := fun k hk =>
    Function.update_of_ne hk _ _
  have hflags : ∀ k, SameFlags (link.connections k) (link'.connections k) :=
    SameFlags.update ⟨rfl, rfl, rfl⟩
  have hself : link'.upstream socket = commandStream (sent.drop j) := by
    rw [← hrest]
    simp [upstream, hlink, hserving]
  have hupOther : ∀ k, k ≠ socket → link'.upstream k = link.upstream k := by
    intro k hk
    have hne : link.serving ≠ some k := fun heq =>
      hk (Option.some_inj.mp (heq.symm.trans hserving))
    have hne' : link'.serving ≠ some k := hne
    simp only [upstream, if_neg hne, if_neg hne', hother k hk]
  -- A connection other than the one served has not been accepted, so its position stays.
  have hposition : ∀ k, k ≠ socket → socket ≤ k → link'.position k acked (p + j) =
      link.position k acked p := by
    intro k hk hge
    have hnot : ¬ k < link.nextAccept := by omega
    have hnot' : ¬ k < link'.nextAccept := hnot
    rw [position, position, if_neg hnot, if_neg hnot']
  have hpositionSelf : link'.position socket acked (p + j) = p + j := by
    have hlt' : socket < link'.nextAccept := by
      show socket < link.nextAccept
      omega
    rw [position, if_pos hlt']
  have hreceives : ∀ k, link'.Receives k → k ≠ socket → link.Receives k ∧ socket ≤ k := by
    rintro k ⟨hk, hcase⟩ hne
    have hge : link.nextAccept ≤ k := by
      refine hcase.resolve_right fun heq => hne ?_
      exact Option.some_inj.mp (heq.symm.trans hserving)
    exact ⟨⟨hk, Or.inl hge⟩, by omega⟩
  refine { h with
    acked_le := h.acked_le.trans (Nat.le_add_right p j)
    unused := fun k => h.unused_update hlt _
    live := fun k hk hclosed => h.live k hk ((hflags k).closed.symm.trans hclosed)
    connected := h.connected_of_sameFlags hflags
    settled := ?settled, flags := ?flags, up := ?up, upAll := ?upAll, down := ?down,
    quiet := ?quiet }
  case settled =>
    rw [htake]
    exact h.settled.executeSlice hlength
  case flags =>
    rw [List.foldl_append, ← h.flags]
  case up =>
    intro k hk
    by_cases hne : k = socket
    · subst hne
      refine ⟨sent.drop j, ?_, hself⟩
      rw [hpositionSelf, ← List.drop_drop]
      exact hsent.drop j
    · obtain ⟨hk', hge⟩ := hreceives k hk hne
      rw [hupOther k hne, hposition k hne hge]
      exact h.up k hk'
  case upAll =>
    intro k hk hc hs
    by_cases hne : k = socket
    · subst hne
      rw [hself, hpositionSelf, hall hc hs, List.drop_drop]
    · obtain ⟨hk', hge⟩ := hreceives k hk hne
      rw [hupOther k hne, hposition k hne hge]
      exact h.upAll k hk' hc hs
  case down =>
    intro k hk
    have hdown := h.down k hk
    by_cases hne : k = socket
    · subst hne
      rw [position, if_pos (by omega)] at hdown
      have hnew : (link'.connections k).down =
          (link.connections k).down ++ acknowledgementStream (sent.take j) := by simp [hlink]
      have hslice : (issued.drop acked).take (p + j - acked) =
          (issued.drop acked).take (p - acked) ++ (issued.drop p).take j := by
        have hle := h.acked_le
        rw [show p + j - acked = (p - acked) + j by omega, List.take_add, List.drop_drop,
          show acked + (p - acked) = p by omega]
      rw [hnew, hpositionSelf, hslice, acknowledgementStream_append, ← htake, ← hdown,
        List.append_assoc]
    · have hge : socket ≤ k := by
        have := h.current k hk
        omega
      rw [hother k hne, hposition k hne hge]
      exact hdown
  case quiet =>
    intro k hk
    rw [(hflags k).established] at hk
    have hne : k ≠ socket := by
      rintro rfl
      rw [hk] at hestablished
      cases hestablished
    obtain ⟨hup, hdown⟩ := h.quiet k hk
    refine ⟨(hupOther k hne).trans hup, ?_⟩
    simp only [downstream, hother k hne]
    exact hdown

end Steps

end ControlLink

end FlightDeck.System
