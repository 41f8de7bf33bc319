import FrameWatch.Simulator.Memory
import Mathlib.Data.Int.Notation
import Mathlib.Data.Nat.Notation

/-!
# Reading stamped memory

What a byte or a word of stamped memory is after a number has been written somewhere or a block has
been made zero. A number can be read back where it was written (`Memory.word_write`), and a word
that has no byte in common with it stays what it was (`Memory.word_write_of_apart`).
-/

namespace FrameWatch

attribute [local instance (20000)] Zero.ofOfNat0

theorem Stamp.sum_range (f : ℕ → ℕ) :
    ((List.range width).map f).sum = f 0 + f 1 + f 2 + f 3 := by
  have hrange : List.range width = [0, 1, 2, 3] := rfl
  rw [hrange]
  simp only [List.map_cons, List.map_nil, List.sum_cons, List.sum_nil, Nat.add_zero, Nat.add_assoc]

/-- The bytes of a number make it up. -/
theorem Stamp.sum_bytes (number : ℤ) :
    byte number 0 + byte number 1 * 256 + byte number 2 * 256 ^ 2 + byte number 3 * 256 ^ 3 =
      (number % 2 ^ 32).toNat := by
  unfold byte
  have hbound : (number % 2 ^ 32).toNat < 2 ^ 32 := by omega
  generalize (number % 2 ^ 32).toNat = u at hbound
  omega

namespace Memory

variable {m m' : Memory} {a b : ℕ}

/-! ## Bytes -/

theorem byte_append_of_some {written : List MemoryCell} {cell : MemoryCell}
    (hfind : written.find? (·.address == a) = some cell) : byte (written ++ m) a = cell.value := by
  unfold byte
  rw [List.find?_append, hfind]
  rfl

theorem byte_append_of_none {written : List MemoryCell}
    (hfind : written.find? (·.address == a) = none) : byte (written ++ m) a = byte m a := by
  unfold byte
  rw [List.find?_append, hfind]
  rfl

theorem byte_clear (m : Memory) (base size a : ℕ) :
    (m.clear base size).byte a = if base ≤ a ∧ a < base + size then 0 else m.byte a := by
  unfold byte clear
  rw [List.find?_filter]
  by_cases ha : base ≤ a ∧ a < base + size
  · rw [if_pos ha]
    have hnone : m.find? (fun cell => decide ((!(decide (base ≤ cell.address) &&
        decide (cell.address < base + size))) = true ∧ (cell.address == a) = true)) = none := by
      rw [List.find?_eq_none]
      intro cell _ hcell
      simp at hcell
      omega
    rw [hnone]
  · rw [if_neg ha]
    congr 2
    funext cell
    by_cases hcell : cell.address = a
    · subst hcell
      simp
      omega
    · simp [hcell]

/-- The bytes of a number lie where it is written, and all others stay. -/
theorem byte_write (m : Memory) (address : ℕ) (number : ℤ) (a : ℕ) :
    (m.write address number).byte a =
      if address ≤ a ∧ a < address + Stamp.width then Stamp.byte number (a - address)
      else m.byte a := by
  unfold write
  by_cases ha : address ≤ a ∧ a < address + Stamp.width
  · rw [if_pos ha]
    obtain ⟨i, rfl⟩ := Nat.exists_eq_add_of_le ha.1
    have hi : i < Stamp.width := by omega
    rw [Nat.add_sub_cancel_left]
    show byte _ _ = MemoryCell.value ⟨address + i, Stamp.byte number i⟩
    refine byte_append_of_some ?_
    rw [List.find?_map, Option.map_eq_some_iff]
    refine ⟨i, ?_, rfl⟩
    rw [List.find?_range_eq_some]
    refine ⟨by simp, List.mem_range.mpr hi, fun j hj => ?_⟩
    simp
    omega
  · rw [if_neg ha, byte_append_of_none, byte_clear, if_neg ha]
    rw [List.find?_eq_none]
    intro cell hcell
    obtain ⟨i, hi, rfl⟩ := List.mem_map.mp hcell
    have hi := List.mem_range.mp hi
    simp
    omega

/-! ## Words -/

theorem word_eq (m : Memory) (a : ℕ) :
    m.word a = Int.bmod ((m.byte a + m.byte (a + 1) * 256 + m.byte (a + 2) * 256 ^ 2 +
      m.byte (a + 3) * 256 ^ 3 : ℕ) : ℤ) (2 ^ 32) := by
  unfold word
  dsimp only
  rw [Stamp.sum_range, Nat.add_zero, Nat.pow_zero, Nat.pow_one, Nat.mul_one]

theorem word_congr (h : ∀ i < Stamp.width, m.byte (a + i) = m'.byte (b + i)) :
    m.word a = m'.word b := by
  have h0 := h 0 (by decide)
  rw [Nat.add_zero, Nat.add_zero] at h0
  rw [word_eq, word_eq, h0, h 1 (by decide), h 2 (by decide), h 3 (by decide)]

/-- A word in a block that was made zero is zero. -/
theorem word_clear {base size : ℕ} (hfirst : base ≤ a) (hlast : a + Stamp.width ≤ base + size) :
    (m.clear base size).word a = 0 := by
  have hzero : ∀ i < Stamp.width, (m.clear base size).byte (a + i) = 0 := fun i hi => by
    rw [byte_clear, if_pos (by omega)]
  have h0 := hzero 0 (by decide)
  rw [Nat.add_zero] at h0
  rw [word_eq, h0, hzero 1 (by decide), hzero 2 (by decide), hzero 3 (by decide)]
  rfl

/-- A number is read back where it was written. -/
theorem word_write {number : ℤ} (hleast : -2 ^ 31 ≤ number) (hgreatest : number < 2 ^ 31) :
    (m.write a number).word a = number := by
  have hbyte : ∀ i < Stamp.width, (m.write a number).byte (a + i) = Stamp.byte number i :=
    fun i hi => by rw [byte_write, if_pos (by omega), Nat.add_sub_cancel_left]
  have h0 := hbyte 0 (by decide)
  rw [Nat.add_zero] at h0
  rw [word_eq, h0, hbyte 1 (by decide), hbyte 2 (by decide), hbyte 3 (by decide), Stamp.sum_bytes,
    Int.toNat_of_nonneg (by omega)]
  have hsame : Int.bmod (number % 2 ^ 32) (2 ^ 32) = Int.bmod number (2 ^ 32) :=
    Int.emod_bmod number (2 ^ 32)
  rw [hsame]
  exact Int.bmod_eq_of_le (by omega) (by omega)

/-- Words that have no byte in common with a number stay as they are when it is written. -/
theorem word_write_of_apart {number : ℤ} (h : b + Stamp.width ≤ a ∨ a + Stamp.width ≤ b) :
    (m.write a number).word b = m.word b := by
  refine word_congr fun i hi => ?_
  rw [byte_write, if_neg (by omega)]

end Memory

end FrameWatch
