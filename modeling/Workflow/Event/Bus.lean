/-!
# The event bus

A bus takes what is published and hands it to receivers. It keeps the last items only, as many as
its capacity rounded up to a power of two; a receiver that has missed some is told how many and then
gets the oldest that are kept. A receiver sees what is published after it was added, and without any
receiver nothing is kept.

## Main definitions

* `Workflow.Bus` — the bus.
* `Workflow.Bus.publish`, `Workflow.Bus.subscribe`, `Workflow.Bus.unsubscribe`,
  `Workflow.Bus.drain`.
-/

namespace Workflow

/-- A bus for items of a type. -/
structure Bus (α : Type) where
  /-- How many items are kept. -/
  capacity : Nat
  /-- How many items have been taken. -/
  taken : Nat
  /-- The kept items, the newest first. -/
  recent : List α
  /-- For every receiver ever added, how many items it has passed, unless it was removed. -/
  receivers : List (Option Nat)

namespace Bus

variable {α : Type}

/-- A bus that keeps at least a number of items. -/
def ofCapacity (n : Nat) : Bus α := ⟨(max n 1).nextPowerOfTwo, 0, [], []⟩

/-- The number of receivers. -/
def receiverCount (b : Bus α) : Nat := b.receivers.countP Option.isSome

/-- The bus with an item published. -/
def publish (b : Bus α) (item : α) : Bus α :=
  if b.receiverCount = 0 then b
  else
    { b with
      taken := b.taken + 1
      recent := if b.taken < b.capacity then item :: b.recent
        else (item :: b.recent).take b.capacity }

/-- The bus with another receiver. -/
def subscribe (b : Bus α) : Bus α := { b with receivers := b.receivers ++ [some b.taken] }

/-- The bus without a receiver. -/
def unsubscribe (b : Bus α) (receiver : Nat) : Bus α :=
  { b with receivers := b.receivers.set receiver none }

/-- What a receiver gets: how many items it has missed, and those that are kept. -/
structure Delivery (α : Type) where
  missed : Nat
  items : List α

/-- Hands everything that is kept and not passed yet to a receiver. -/
def drain (b : Bus α) (receiver : Nat) : Option (Delivery α × Bus α) :=
  match b.receivers[receiver]? with
  | some (some passed) =>
    let oldest := b.taken - b.capacity
    let first := max passed oldest
    some (⟨first - passed, (b.recent.take (b.taken - first)).reverse⟩,
      { b with receivers := b.receivers.set receiver (some b.taken) })
  | _ => none

end Bus

end Workflow
