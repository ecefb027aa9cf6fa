import FlightDeck.Lib.Framing
import FlightDeck.Lib.InsertionMap
import FlightDeck.Server.Types

set_option relaxedAutoImplicit false
set_option autoImplicit false

/-!
# The server's control client

`server/src/control-client.ts`, and the part of `server/src/server.ts` that checks a browser's
command and passes it on. The client keeps every command until it is acknowledged, writes it
when it is issued and writes all it keeps again whenever a connection is established.

A method is a function from the client to the client and the effects it has outside: calls on
sockets and timers, which are numbered in the order they are created, and callbacks.

## Main definitions

* `JsonValue`, `isFaultCommand` — a parsed message and its validation.
* `acceptClientMessage` — a browser's message is refused or passed on.
* `SimulatorControlClient` — the client, with its methods `start`, `send`, `stop` and the
  handlers of its socket.
-/

namespace FlightDeck.Server

/-! ## Commands -/

/-- The name of a fault. -/
def FaultType.name : FaultType → List Char
  | .thrusterLoss => "thruster_loss".toList
  | .sensorNoise => "sensor_noise".toList
  | .packetLoss => "packet_loss".toList

/-- `isFault`: the fault of a name. -/
def isFault (value : List Char) : Option FaultType :=
  if value = "thruster_loss".toList then some .thrusterLoss
  else if value = "sensor_noise".toList then some .sensorNoise
  else if value = "packet_loss".toList then some .packetLoss
  else none

/-- A value of `JSON.parse`. -/
inductive JsonValue where
  | null
  | boolean (value : Bool)
  | number (value : BitVec 64)
  | string (value : List Char)
  | array (items : List JsonValue)
  | object (members : List (List Char × JsonValue))

/-- `value[key]` of an object; the last of several members of one name counts. -/
def JsonValue.property (members : List (List Char × JsonValue)) (key : String) :
    Option JsonValue :=
  (members.filter (·.1 = key.toList)).getLast?.map (·.2)

/-- The characters of `[A-Za-z0-9-]`. -/
def isIdChar (c : Char) : Bool :=
  ('A' ≤ c && c ≤ 'Z') || ('a' ≤ c && c ≤ 'z') || ('0' ≤ c && c ≤ '9') || c == '-'

/-- `/^[A-Za-z0-9-]{1,64}$/.test(id)`. -/
def isCommandId (id : List Char) : Bool := 1 ≤ id.length && id.length ≤ 64 && id.all isIdChar

/-- `isFaultCommand`: the command a value is, if it is one. -/
def isFaultCommand : JsonValue → Option FaultCommand
  | .object members =>
    match JsonValue.property members "type", JsonValue.property members "id",
      JsonValue.property members "fault", JsonValue.property members "enabled",
      JsonValue.property members "issuedAtMs" with
    | some (.string type), some (.string id), some (.string fault), some (.boolean enabled),
      some (.number issuedAtMs) =>
      if type = "command".toList ∧ isCommandId id then
        (isFault fault).map fun fault => { id, fault, enabled, issuedAtMs }
      else none
    | _, _, _, _, _ => none
  | _ => none

/-- `#acceptClientMessage`: the command passed to `#control.send`, or the message sent back. The
message is what `JSON.parse` makes of the text, `none` when it throws. -/
def acceptClientMessage (connected : Bool) (parsed : Option JsonValue) :
    Except ServerMessage FaultCommand :=
  match parsed with
  | none => .error (.commandError none "Malformed JSON")
  | some value =>
    match isFaultCommand value with
    | none => .error (.commandError none "Invalid command")
    | some command =>
      if !connected then
        .error (.commandError (some command.id) "Simulator control link unavailable")
      else .ok command

/-! ## Client -/

/-- `SimulatorControlClient`. -/
structure SimulatorControlClient where
  /-- `#socket`. -/
  socket : Option ℕ := none
  /-- `#pending`. -/
  pending : InsertionMap (List Char) FaultCommand := .empty _ _
  /-- `#buffer`. -/
  buffer : List Char := []
  /-- `#running`. -/
  running : Bool := false
  /-- `#connected`. -/
  connected : Bool := false
  /-- `#reconnectTimer`. -/
  reconnectTimer : Option ℕ := none
  /-- How many sockets have been created. -/
  sockets : ℕ := 0
  /-- How many timers have been set. -/
  timers : ℕ := 0

/-- What a method does outside the client. -/
inductive Effect where
  /-- `createConnection(…)`, with the handlers of its events. -/
  | createConnection (socket : ℕ)
  /-- `socket.write(text)`. -/
  | write (socket : ℕ) (text : List Char)
  /-- `socket.destroy()`. -/
  | destroy (socket : ℕ)
  /-- `setTimeout(() => this.#connect(), 500)`. -/
  | setTimeout (timer : ℕ)
  /-- `clearTimeout(timer)`. -/
  | clearTimeout (timer : ℕ)
  /-- `callbacks.onStatus(connected)`. -/
  | onStatus (connected : Bool)
  /-- `callbacks.onAcknowledgement(id, fault, enabled)`. -/
  | onAcknowledgement (id : List Char) (fault : FaultType) (enabled : Bool)
  deriving DecidableEq

namespace SimulatorControlClient

variable (client : SimulatorControlClient)

/-- `#setConnected`. -/
def setConnected (connected : Bool) : SimulatorControlClient × List Effect :=
  if client.connected = connected then (client, [])
  else ({ client with connected }, [.onStatus connected])

/-- `#connect`. -/
def connect : SimulatorControlClient × List Effect :=
  if !client.running || client.socket.isSome then (client, [])
  else
    ({ client with socket := some client.sockets, sockets := client.sockets + 1 },
      [.createConnection client.sockets])

/-- `start`. -/
def start : SimulatorControlClient × List Effect := connect { client with running := true }

/-- The line `#write` writes. -/
def commandLine (command : FaultCommand) : List Char :=
  ['C', 'O', 'M', 'M', 'A', 'N', 'D', '\t'] ++ command.id ++ ['\t'] ++ command.fault.name ++
    ['\t'] ++ (if command.enabled then ['1'] else ['0']) ++ ['\n']

/-- `#write`. -/
def write (command : FaultCommand) : List Effect :=
  if !client.connected then []
  else
    match client.socket with
    | none => []
    | some socket => [.write socket (commandLine command)]

/-- `send`. -/
def send (command : FaultCommand) : SimulatorControlClient × List Effect :=
  let client := { client with pending := client.pending.set command.id command }
  (client, client.write command)

/-- `stop`. -/
def stop : SimulatorControlClient × List Effect :=
  let client := { client with running := false }
  let clear := (client.reconnectTimer.map Effect.clearTimeout).toList
  let destroy := (client.socket.map Effect.destroy).toList
  let (client, status) := client.setConnected false
  (client, clear ++ destroy ++ status)

/-- The handler of `connect`. -/
def onConnect : SimulatorControlClient × List Effect :=
  let (client, status) := client.setConnected true
  (client, status ++ client.pending.values.flatMap client.write)

/-- The id, fault and setting of an acknowledgement; `none` for a line that is none. -/
def parseAcknowledgement (line : List Char) : Option (List Char × FaultType × Bool) :=
  match line.splitOn '\t' with
  | verb :: id :: fault :: enabled :: _ =>
    if verb ≠ ['A', 'C', 'K'] ∨ id = [] then none
    else
      match isFault fault with
      | none => none
      | some fault =>
        if enabled = ['0'] then some (id, fault, false)
        else if enabled = ['1'] then some (id, fault, true)
        else none
  | _ => none

/-- The body of the loop of `#acceptData`, on a line. -/
def acceptLine (now : SimulatorControlClient × List Effect) (line : List Char) :
    SimulatorControlClient × List Effect :=
  match parseAcknowledgement line with
  | none => now
  | some (id, fault, enabled) =>
    ({ now.1 with pending := now.1.pending.delete id },
      now.2 ++ [.onAcknowledgement id fault enabled])

/-- `#acceptData`, the handler of `data`. -/
def acceptData (chunk : List Char) : SimulatorControlClient × List Effect :=
  let ((client, effects), buffer) :=
    Framing.consume '\n' acceptLine (client, []) (client.buffer ++ chunk)
  ({ client with buffer }, effects)

/-- The handler of `close`. -/
def onClose : SimulatorControlClient × List Effect :=
  let client := { client with socket := none, buffer := [] }
  let (client, status) := client.setConnected false
  if client.running then
    ({ client with reconnectTimer := some client.timers, timers := client.timers + 1 },
      status ++ [.setTimeout client.timers])
  else (client, status)

end SimulatorControlClient

end FlightDeck.Server
