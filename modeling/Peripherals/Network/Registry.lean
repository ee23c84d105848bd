import Peripherals.Broadcast
import Peripherals.Log
import Peripherals.Network.Event

/-!
# `Peripherals.Network.Registry` — the adapters of a device

Adapters are kept in the order in which they were added. For each one a forwarder reads its channel of events from
the place at which it was added and sends what it finds, with the index of the adapter, to one merged channel.

* `Registry.add` — a new adapter and its forwarder;
* `Registry.hasNews`, `Registry.forward` — whether a forwarder has something to read, and one step of it.
-/

namespace Peripherals.Network

/-- An adapter in a registry. -/
structure Member (α : Type) where
  /-- What the adapter is known by. -/
  adapter : α
  name : String
  /-- The place of the forwarder in the adapter's channel. -/
  place : Nat

/-- The adapters of a device and their events. -/
structure Registry (α : Type) where
  members : List (Member α)
  merged : Broadcast (Nat × Event)

namespace Registry

variable {α : Type}

/-- The registry without adapters. -/
def empty : Registry α := ⟨[], .ofNotices⟩

instance : Inhabited (Registry α) := ⟨empty⟩

/-- The number of adapters. -/
def size (r : Registry α) : Nat := r.members.length

/-- The adapter with an index. -/
def get? (r : Registry α) (index : Nat) : Option α := (r.members[index]?).map (·.adapter)

/-- The first adapter that is connected. -/
def primary? (r : Registry α) (connected : α → Bool) : Option α := (r.members.map (·.adapter)).find? connected

/-- Adds an adapter; the answer has its index. Its events are forwarded from now on. -/
def add (r : Registry α) (runtime : Bool) (adapter : α) (name : String) (channel : Broadcast Event) :
    Except Error (Nat × Registry α × List Log.Line) :=
  if !runtime then .error .noRuntime
  else .ok (r.size, { r with members := r.members ++ [⟨adapter, name, channel.subscribe⟩] },
    [⟨.info, s!"Registered network adapter {r.size}: {name}"⟩])

/-- Whether a forwarder would find anything, given the channel of its adapter. -/
def hasNews (r : Registry α) (index : Nat) (channel : Broadcast Event) : Bool :=
  (r.members[index]?).any fun member => member.place < channel.sent

/-- What a forwarder does with what it finds: an event goes on, a loss is worth a warning. -/
def relay (r : Registry α) (index : Nat) (name : String) : Received Event → Registry α × List Log.Line
  | .entry event => ({ r with merged := r.merged.send (index, event) }, [])
  | .lagged missed => (r, [⟨.warn, s!"Adapter {index} ({name}): dropped {missed} events"⟩])

/-- **One step of a forwarder**, given the channel of its adapter; `none` if there is nothing to read. -/
def forward (r : Registry α) (index : Nat) (channel : Broadcast Event) : Option (Registry α × List Log.Line) := do
  let member ← r.members[index]?
  let (found, place) ← channel.receive member.place
  let members := r.members.set index { member with place }
  pure ({ r with members }.relay index member.name found)

end Registry

end Peripherals.Network
