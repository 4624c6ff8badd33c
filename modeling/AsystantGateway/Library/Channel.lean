import Mathlib.Data.List.Infix

/-!
# Bounded channels

A sender that does not wait drops an item when as many items are unread as the
channel has room for. What was accepted is what was received followed by what
is unread, in the order in which it was sent.
-/

namespace AsystantGateway

/-- The items that the receiver has taken and those it has not taken yet. -/
structure Channel (α : Type u) where
  received : List α
  unread : List α
  deriving DecidableEq, Repr

namespace Channel

variable {α : Type u}

/-- The channel before anything was sent. -/
def empty : Channel α := ⟨[], []⟩

/-- Everything that was accepted, in order. -/
def accepted (channel : Channel α) : List α :=
  channel.received ++ channel.unread

/-- Send an item without waiting. It is dropped when there is no room. -/
def trySend
    (capacity : Nat)
    (item : α)
    (channel : Channel α) : Channel α :=
  if channel.unread.length < capacity then
    { channel with unread := channel.unread ++ [item] }
  else
    channel

/-- Take the oldest unread item. -/
def receive (channel : Channel α) : Option (Channel α) :=
  match channel.unread with
  | [] => none
  | item :: rest => some ⟨channel.received ++ [item], rest⟩

theorem accepted_trySend_of_room
    {capacity : Nat}
    {channel : Channel α}
    (room : channel.unread.length < capacity)
    (item : α) :
    (channel.trySend capacity item).accepted =
      channel.accepted ++ [item] := by
  unfold trySend accepted
  rw [if_pos room, List.append_assoc]

theorem accepted_trySend_of_full
    {capacity : Nat}
    {channel : Channel α}
    (full : ¬ channel.unread.length < capacity)
    (item : α) :
    (channel.trySend capacity item).accepted = channel.accepted := by
  unfold trySend
  rw [if_neg full]

/-- Taking an item changes nothing about what was accepted. -/
theorem accepted_receive
    {channel after : Channel α}
    (taken : channel.receive = some after) :
    after.accepted = channel.accepted := by
  unfold receive at taken
  split at taken
  case h_1 => cases taken
  case h_2 item rest unread =>
    cases taken
    simp [accepted, unread]

/-- When nothing is unread, what was accepted was received. -/
theorem received_of_drained
    {channel : Channel α}
    (drained : channel.unread = []) :
    channel.received = channel.accepted := by
  rw [accepted, drained, List.append_nil]

end Channel

end AsystantGateway
