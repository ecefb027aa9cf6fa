import FlightDeck.Protocol.Telemetry

set_option relaxedAutoImplicit false
set_option autoImplicit false

/-!
# The stand-alone receiver

The loop of `generator/src/receiver_main.cpp`: it decodes every datagram it receives and counts
lost and late packets. The counters are 64 bits wide there and natural numbers here. What the loop
prints is left out.

## Main definitions

* `Receiver` — the variables of the loop.
* `Receiver.observe` — what the loop does with a sequence number.
* `Receiver.receive` — the body of the loop.
-/

namespace FlightDeck.Generator

open Protocol

/-- `ReceiverStats`. -/
structure ReceiverStats where
  /-- Datagrams received. -/
  received : ℕ := 0
  /-- Datagrams decoded. -/
  valid : ℕ := 0
  /-- Datagrams not decoded. -/
  rejected : ℕ := 0
  /-- Sequence numbers skipped. -/
  lost : ℕ := 0
  /-- Packets that were not ahead of the latest one. -/
  reordered : ℕ := 0
  deriving DecidableEq, Repr

/-- The variables of the loop. -/
structure Receiver where
  /-- `stats`. -/
  stats : ReceiverStats := {}
  /-- `latest_sequence`. -/
  latestSequence : Option (BitVec 32) := none
  deriving DecidableEq, Repr

namespace Receiver

/-- What the loop does with a sequence number. -/
def observe (receiver : Receiver) (sequence : BitVec 32) : Receiver :=
  match receiver.latestSequence with
  | some latest =>
    let delta := sequence - latest
    let stats :=
      if delta > 1#32 ∧ delta < 0x80000000#32 then
        { receiver.stats with lost := receiver.stats.lost + (delta - 1#32).toNat }
      else if delta = 0#32 ∨ delta ≥ 0x80000000#32 then
        { receiver.stats with reordered := receiver.stats.reordered + 1 }
      else receiver.stats
    { stats
      latestSequence :=
        if delta > 0#32 ∧ delta < 0x80000000#32 then some sequence else receiver.latestSequence }
  | none => { receiver with latestSequence := some sequence }

/-- The body of the loop, on a datagram that `recvfrom` has returned. -/
def receive (receiver : Receiver) (datagram : List ByteCodec.Byte) : Receiver :=
  let receiver :=
    { receiver with
      stats := { receiver.stats with received := receiver.stats.received + 1 } }
  let result := deserialize datagram
  if result.error ≠ .none then
    { receiver with stats := { receiver.stats with rejected := receiver.stats.rejected + 1 } }
  else
    { receiver with stats := { receiver.stats with valid := receiver.stats.valid + 1 } }.observe
      result.telemetry.sequence

end Receiver

end FlightDeck.Generator
