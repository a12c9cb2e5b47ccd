/-
  A bounded channel whose sender never waits: an item that does not fit is dropped.
-/
import Mathlib.Data.List.Basic

namespace YpfRuta.Lib

variable {β : Type}

structure Channel (β : Type) where
  buffer : List β
  received : List β

namespace Channel

def empty : Channel β := ⟨[], []⟩

/-- Put `x` in the buffer, or drop it when `capacity` items are buffered. -/
def trySend (capacity : Nat) (c : Channel β) (x : β) : Channel β :=
  if c.buffer.length < capacity then { c with buffer := c.buffer ++ [x] } else c

/-- Take the oldest item. -/
def recv (c : Channel β) : Option (Channel β) :=
  match c.buffer with
  | [] => none
  | x :: rest => some ⟨rest, c.received ++ [x]⟩

/-- Everything the channel accepted, in order. -/
def accepted (c : Channel β) : List β := c.received ++ c.buffer

/-- Of `sent`, the channel accepted every item that `p` holds of. -/
def Carries (p : β → Bool) (c : Channel β) (sent : List β) : Prop :=
  c.accepted.filter p = sent.filter p

variable {capacity : Nat} {c c' : Channel β} {x : β} {p : β → Bool} {sent : List β}

theorem accepted_recv (h : c.recv = some c') : c'.accepted = c.accepted := by
  unfold recv at h
  split at h
  · cases h
  · rename_i x rest hbuf
    obtain rfl := Option.some.inj h
    simp [accepted, hbuf]

theorem accepted_trySend :
    (trySend capacity c x).accepted =
      if c.buffer.length < capacity then c.accepted ++ [x] else c.accepted := by
  unfold trySend
  split
  · simp [accepted]
  · rfl

/-- The channel accepts nothing that is not sent. -/
theorem trySend_sublist (h : c.accepted.Sublist sent) :
    (trySend capacity c x).accepted.Sublist (sent ++ [x]) := by
  rw [accepted_trySend]
  split
  · exact h.append (List.Sublist.refl [x])
  · exact h.trans (List.sublist_append_left sent [x])

/-- An item is lost exactly when it is sent to a full channel, and a loss is never made up
    for. -/
theorem carries_trySend (h : c.accepted.Sublist sent) :
    (trySend capacity c x).Carries p (sent ++ [x]) ↔
      c.Carries p sent ∧ (p x = true → c.buffer.length < capacity) := by
  unfold Carries
  rw [accepted_trySend, List.filter_append]
  by_cases hfit : c.buffer.length < capacity
  · rw [if_pos hfit, List.filter_append, List.append_left_inj]
    exact ⟨fun he => ⟨he, fun _ => hfit⟩, And.left⟩
  · rw [if_neg hfit]
    by_cases hx : p x = true
    · have hle : (c.accepted.filter p).length ≤ (sent.filter p).length := (h.filter p).length_le
      constructor
      · intro he
        have hlen := congrArg List.length he
        rw [List.length_append, List.filter_cons_of_pos hx, List.length_cons] at hlen
        omega
      · exact fun he => absurd (he.2 hx) hfit
    · rw [List.filter_cons_of_neg hx, List.filter_nil, List.append_nil]
      exact ⟨fun he => ⟨he, fun hp => absurd hp hx⟩, And.left⟩

theorem carries_drained (hd : c.buffer = []) :
    c.Carries p sent ↔ c.received.filter p = sent.filter p := by
  unfold Carries accepted
  rw [hd, List.append_nil]

end Channel

end YpfRuta.Lib
