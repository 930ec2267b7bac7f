/-!
# Bounded channels

The messages in a channel, the senders that are left, and whether the receiver is. An operation
that has to wait has no result. The receiver sees the end of the messages when no sender is left,
but not why.
-/

namespace Parqonaut.Effects

structure Channel (α : Type) where
  capacity : Nat
  queue : List α
  senders : Nat
  receiver : Bool

namespace Channel

variable {α : Type}

/-- A new channel. -/
def bounded (capacity senders : Nat) : Channel α := ⟨capacity, [], senders, true⟩

/-- Send a message; `false` when the receiver is gone. -/
def send (channel : Channel α) (message : α) : Option (Bool × Channel α) :=
  if !channel.receiver then some (false, channel)
  else if channel.queue.length < channel.capacity then
    some (true, { channel with queue := channel.queue ++ [message] })
  else none

/-- Receive the next message; `none` is the end of the messages. -/
def receive (channel : Channel α) : Option (Option α × Channel α) :=
  match channel.queue with
  | message :: rest => some (some message, { channel with queue := rest })
  | [] => if channel.senders = 0 then some (none, channel) else none

def dropSender (channel : Channel α) : Channel α :=
  { channel with senders := channel.senders - 1 }

/-- The messages that are left go away with the receiver. -/
def dropReceiver (channel : Channel α) : Channel α :=
  { channel with queue := [], receiver := false }

end Channel

end Parqonaut.Effects
