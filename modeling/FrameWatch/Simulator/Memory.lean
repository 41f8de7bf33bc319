import FrameWatch.Power

/-!
# Stamped memory

Memory that is zero except where frame numbers were written into it. A number is written as a signed
word of four bytes, the lowest byte first.
-/

namespace FrameWatch

/-- A byte that was written. -/
structure MemoryCell where
  address : Nat
  value : Nat
deriving DecidableEq, Repr

/-- The bytes that were written, the newest first. -/
abbrev Memory : Type := List MemoryCell

namespace Stamp

/-- Bytes of a number in memory. -/
def width : Nat := 4

/-- Byte `i` of a number. -/
def byte (number : Int) (i : Nat) : Nat := (number % 2 ^ 32).toNat / 256 ^ i % 256

end Stamp

namespace Memory

-- A sum starts from the zero of numerals, also where every monoid has one.
attribute [local instance (20000)] Zero.ofOfNat0

/-- The byte at an address. -/
def byte (m : Memory) (address : Nat) : Nat :=
  match m.find? (·.address == address) with
  | some cell => cell.value
  | none => 0

/-- The signed word at an address. -/
def word (m : Memory) (address : Nat) : Int :=
  let bytes := (List.range Stamp.width).map fun i => m.byte (address + i) * 256 ^ i
  Int.bmod (bytes.sum : Nat) (2 ^ 32)

/-- Makes `size` bytes from `base` on zero. -/
def clear (m : Memory) (base size : Nat) : Memory :=
  m.filter fun cell => !(base ≤ cell.address && cell.address < base + size)

/-- Writes a number at an address. -/
def write (m : Memory) (address : Nat) (number : Int) : Memory :=
  (List.range Stamp.width).map (fun i => ⟨address + i, Stamp.byte number i⟩) ++
    m.clear address Stamp.width

end Memory

end FrameWatch
