import FrameWatch.Time.Duration

/-!
# Frame buffers

The block of memory that a camera writes frames into: a whole number of frames at a page-aligned
address. `FrameBuffer.allocate` says which sizes are refused and why.
-/

namespace FrameWatch

/-- Why there is no buffer. -/
inductive AllocationError
  /-- A frame has no bytes, or no frames are wanted. -/
  | zeroSize
  /-- The size is no machine word. -/
  | sizeOverflow (frameBytes frames : Nat)
  /-- The size is above the ceiling in force. -/
  | exceedsLimit (requested limit : Nat)
  /-- No block of memory can be that large. -/
  | invalidLayout (requested alignment : Nat)
  /-- There is not enough memory. -/
  | outOfMemory (requested : Nat)
deriving DecidableEq, Repr

namespace AllocationError

/-- The error as a sentence. -/
def describe : AllocationError → String
  | zeroSize => "circular buffer size must be non-zero"
  | sizeOverflow frameBytes frames =>
    toString frames ++ " frames of " ++ toString frameBytes ++ " bytes overflows usize"
  | exceedsLimit requested limit =>
    "requested " ++ toString requested ++ " bytes exceeds the " ++ toString limit
      ++ " byte buffer ceiling"
  | invalidLayout requested alignment =>
    "no valid " ++ toString alignment ++ "-byte aligned layout for " ++ toString requested
      ++ " bytes"
  | outOfMemory requested => "allocator could not provide " ++ toString requested ++ " bytes"

end AllocationError

/-- A source of memory: the address of a fresh block of so many bytes, if there is one. -/
abbrev Allocator : Type := Nat → Option Nat

/-- A block of memory for `frames` frames of `frameBytes` bytes each. -/
structure FrameBuffer where
  /-- The address of the first byte. -/
  base : Nat
  frameBytes : Nat
  frames : Nat
deriving DecidableEq, Repr

namespace FrameBuffer

/-- Buffers begin at a multiple of this many bytes. -/
def alignment : Nat := 4096

/-- The greatest size of a block of memory that can be rounded up to whole pages. -/
def maxBytes : Nat := 2 ^ 63 - alignment

/-- All bytes of the buffer. -/
def size (b : FrameBuffer) : Nat := b.frameBytes * b.frames

/-- Whether the buffer begins on a page. -/
def isAligned (b : FrameBuffer) : Bool := b.base % alignment == 0

/-- Whether there is no byte in it. -/
def isEmpty (b : FrameBuffer) : Bool := b.size == 0

/-- How far `address` lies behind the first byte, if it lies in the `size` bytes from `base` on. -/
def offsetIn (base size address : Nat) : Option Nat :=
  if base ≤ address ∧ address < base + size then some (address - base) else none

/-- How far `address` lies behind the first byte, if it lies in the buffer. -/
def offsetOf (b : FrameBuffer) (address : Nat) : Option Nat := offsetIn b.base b.size address

/-- The size of a buffer if there may be one: the checks before memory is asked for. -/
def checkSize (frameBytes frames : Nat) (limit : Option Nat) : Except AllocationError Nat :=
  let total := frameBytes * frames
  if wordBound ≤ total then .error (.sizeOverflow frameBytes frames)
  else if total = 0 then .error .zeroSize
  else if limit.any (· < total) then .error (.exceedsLimit total (limit.getD 0))
  else if maxBytes < total then .error (.invalidLayout total alignment)
  else .ok total

/-- A buffer for `frames` frames of `frameBytes` bytes; of at most `limit` bytes, if given. -/
def allocate (reserve : Allocator) (frameBytes frames : Nat) (limit : Option Nat) :
    Except AllocationError FrameBuffer := do
  let total ← checkSize frameBytes frames limit
  match reserve total with
  | some base => .ok ⟨base, frameBytes, frames⟩
  | none => .error (.outOfMemory total)

theorem checkSize_eq_ok {frameBytes frames total : Nat} {limit : Option Nat}
    (h : checkSize frameBytes frames limit = .ok total) :
    total = frameBytes * frames ∧ 0 < total ∧ total ≤ maxBytes := by
  simp only [checkSize] at h
  split at h <;> try contradiction
  split at h <;> try contradiction
  split at h <;> try contradiction
  split at h <;> try contradiction
  cases h
  exact ⟨rfl, by omega, by omega⟩

theorem allocate_size_pos {reserve : Allocator} {frameBytes frames : Nat} {limit : Option Nat}
    {b : FrameBuffer} (h : allocate reserve frameBytes frames limit = .ok b) :
    b.frameBytes = frameBytes ∧ b.frames = frames ∧ 0 < b.size := by
  unfold allocate at h
  cases hc : checkSize frameBytes frames limit with
  | error e => rw [hc] at h; cases h
  | ok total =>
    rw [hc] at h
    change (match reserve total with | some base => _ | none => _) = _ at h
    split at h <;> cases h
    obtain ⟨rfl, hpos, -⟩ := checkSize_eq_ok hc
    exact ⟨rfl, rfl, hpos⟩

end FrameBuffer

end FrameWatch
