/-!
# The mailbox

The single slot through which the notification side hands frames to the waiting side: a flag, the
frame noted last, and a tally. A frame that nobody has taken gives way to the next one; the tally
counts how often that happened. A frame that was taken stays where it is, and only the flag tells
that it does not count any more.
-/

namespace FrameWatch

/-- A frame as it was noted when the camera announced it. -/
structure FrameDescriptor where
  /-- The frame number of the hardware. -/
  sequence : Int
  timestamp : Int
  /-- Where the frame begins in the buffer, if it was fetched and lies inside. -/
  bufferOffset : Option Nat
  /-- Whether fetching the frame failed. -/
  degraded : Bool
deriving DecidableEq, Repr

/-- What stands in a mailbox that no frame was put into. -/
def FrameDescriptor.blank : FrameDescriptor := ⟨0, 0, none, false⟩

/-- What has passed through a mailbox since it was last emptied. -/
structure MailboxTally where
  /-- Frames put in. -/
  signals : Nat
  /-- Frames that gave way to a later one. -/
  overwritten : Nat
  /-- Frames taken out. -/
  consumed : Nat
deriving DecidableEq, Repr

/-- A slot for one frame, and the tally. -/
structure Mailbox where
  /-- Whether the frame noted last waits to be taken. -/
  fired : Bool
  /-- The frame noted last. -/
  descriptor : FrameDescriptor
  tally : MailboxTally
deriving DecidableEq, Repr

namespace Mailbox

/-- The mailbox that nothing has passed through. -/
def empty : Mailbox := ⟨false, .blank, ⟨0, 0, 0⟩⟩

/-- Whether a frame waits to be taken. -/
def isFired (m : Mailbox) : Bool := m.fired

/-- The frame that waits to be taken. -/
def pending? (m : Mailbox) : Option FrameDescriptor := if m.fired then some m.descriptor else none

/-- Notes a frame. -/
def signal (m : Mailbox) (d : FrameDescriptor) : Mailbox where
  fired := true
  descriptor := d
  tally :=
    { m.tally with
      signals := m.tally.signals + 1
      overwritten := if m.fired then m.tally.overwritten + 1 else m.tally.overwritten }

/-- Takes the frame that waits; `none` if there is none when the wait ends. -/
def take (m : Mailbox) : Option FrameDescriptor × Mailbox :=
  if m.fired then
    (some m.descriptor,
      { m with fired := false, tally := { m.tally with consumed := m.tally.consumed + 1 } })
  else (none, m)

/-- Forgets the frame and the tally. -/
def reset (_ : Mailbox) : Mailbox := empty

section Lemmas

variable {m : Mailbox} {d : FrameDescriptor}

@[simp] theorem pending?_empty : empty.pending? = none := rfl

@[simp] theorem pending?_signal : (m.signal d).pending? = some d := rfl

theorem pending?_of_fired (h : m.fired = true) : m.pending? = some m.descriptor := by
  unfold pending?; rw [if_pos h]

theorem pending?_of_not_fired (h : m.fired ≠ true) : m.pending? = none := by
  unfold pending?; rw [if_neg h]

theorem take_of_fired (h : m.fired = true) :
    m.take = (some m.descriptor,
      { m with fired := false, tally := { m.tally with consumed := m.tally.consumed + 1 } }) := by
  unfold take; rw [if_pos h]

theorem take_of_not_fired (h : m.fired ≠ true) : m.take = (none, m) := by
  unfold take; rw [if_neg h]

@[simp] theorem isFired_take : m.take.2.isFired = false := by
  by_cases h : m.fired = true
  · rw [take_of_fired h]; rfl
  · rw [take_of_not_fired h]; simpa [isFired] using h

@[simp] theorem take_fst : m.take.1 = m.pending? := by
  by_cases h : m.fired = true
  · rw [take_of_fired h, pending?_of_fired h]
  · rw [take_of_not_fired h, pending?_of_not_fired h]

@[simp] theorem pending?_take : m.take.2.pending? = none := by
  refine pending?_of_not_fired ?_
  simpa [isFired] using isFired_take (m := m)

end Lemmas

end Mailbox

end FrameWatch
