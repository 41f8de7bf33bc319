import FrameWatch.Buffer
import Mathlib.Data.Nat.Notation
import Mathlib.Data.Set.Function
import Mathlib.Order.Interval.Set.Defs
import Mathlib.Tactic.ByContra

/-!
# Allocation of frame buffers

Which buffers are granted, and which addresses lie in them, over the integers: no product or sum of
machine words wraps around on the way.

1. `FrameBuffer.Allocation`: the six ways in which an allocation ends, each with the numbers that
   decide it. `FrameBuffer.allocate_eq_iff`: an allocation ends in this way and in no other.
2. `FrameBuffer.offsetIn_eq_words`: offsets are those that a subtraction of words with a check comes
   to.
3. `FrameBuffer.allocation_law` says of every allocation how it ends and, where it succeeds, what
   lies in the buffer.
-/

namespace FrameWatch

/-- The bytes that were asked for, where an allocation fails in this way. -/
def AllocationError.requested : AllocationError → ℕ
  | zeroSize => 0
  | sizeOverflow frameBytes frames => frameBytes * frames
  | exceedsLimit requested _ | invalidLayout requested _ | outOfMemory requested => requested

/-- No block of memory reaches beyond the last address. -/
def Allocator.Sound (reserve : Allocator) : Prop :=
  ∀ bytes base, reserve bytes = some base → base + bytes ≤ wordBound

namespace FrameBuffer

variable {reserve : Allocator} {frameBytes frames base : ℕ} {limit : Option ℕ}
  {r : Except AllocationError FrameBuffer}

/-! ## How an allocation ends -/

/-- A buffer of that size is within the limit, if there is one. -/
def Within (limit : Option ℕ) (total : ℕ) : Prop := ∀ l, limit = some l → total ≤ l

/-- How an allocation ends. -/
inductive Allocation (reserve : Allocator) (frameBytes frames : ℕ) (limit : Option ℕ) :
    Except AllocationError FrameBuffer → Prop
  | overflow (h : wordBound ≤ frameBytes * frames) :
      Allocation reserve frameBytes frames limit (.error (.sizeOverflow frameBytes frames))
  | empty (h : frameBytes * frames = 0) :
      Allocation reserve frameBytes frames limit (.error .zeroSize)
  | limited {l : ℕ} (hword : frameBytes * frames < wordBound) (hlimit : limit = some l)
      (h : l < frameBytes * frames) :
      Allocation reserve frameBytes frames limit (.error (.exceedsLimit (frameBytes * frames) l))
  | unlaid (hword : frameBytes * frames < wordBound) (hwithin : Within limit (frameBytes * frames))
      (h : maxBytes < frameBytes * frames) :
      Allocation reserve frameBytes frames limit
        (.error (.invalidLayout (frameBytes * frames) alignment))
  | refused (hpos : frameBytes * frames ≠ 0) (hwithin : Within limit (frameBytes * frames))
      (hmax : frameBytes * frames ≤ maxBytes) (h : reserve (frameBytes * frames) = none) :
      Allocation reserve frameBytes frames limit (.error (.outOfMemory (frameBytes * frames)))
  | granted {base : ℕ} (hpos : frameBytes * frames ≠ 0)
      (hwithin : Within limit (frameBytes * frames)) (hmax : frameBytes * frames ≤ maxBytes)
      (h : reserve (frameBytes * frames) = some base) :
      Allocation reserve frameBytes frames limit (.ok ⟨base, frameBytes, frames⟩)

theorem maxBytes_lt_wordBound : maxBytes < wordBound := by decide

/-- Every allocation ends in one of these ways. -/
theorem exists_allocation (reserve : Allocator) (frameBytes frames : ℕ) (limit : Option ℕ) :
    ∃ r, Allocation reserve frameBytes frames limit r := by
  by_cases hword : frameBytes * frames < wordBound
  · by_cases hpos : frameBytes * frames = 0
    · exact ⟨_, .empty hpos⟩
    · by_cases hwithin : Within limit (frameBytes * frames)
      · by_cases hmax : frameBytes * frames ≤ maxBytes
        · cases hreserve : reserve (frameBytes * frames) with
          | none => exact ⟨_, .refused hpos hwithin hmax hreserve⟩
          | some base => exact ⟨_, .granted hpos hwithin hmax hreserve⟩
        · exact ⟨_, .unlaid hword hwithin (not_le.mp hmax)⟩
      · unfold Within at hwithin
        push Not at hwithin
        obtain ⟨l, hlimit, hl⟩ := hwithin
        exact ⟨_, .limited hword hlimit hl⟩
  · exact ⟨_, .overflow (not_lt.mp hword)⟩

theorem any_iff_not_within {total : ℕ} :
    limit.any (fun l => decide (l < total)) = true ↔ ¬ Within limit total := by
  cases limit with
  | none => simp [Within]
  | some l => simp [Within]

theorem checkSize_of_fits (hpos : frameBytes * frames ≠ 0)
    (hwithin : Within limit (frameBytes * frames)) (hmax : frameBytes * frames ≤ maxBytes) :
    checkSize frameBytes frames limit = .ok (frameBytes * frames) := by
  have hword : ¬ wordBound ≤ frameBytes * frames :=
    not_le.mpr (hmax.trans_lt maxBytes_lt_wordBound)
  unfold checkSize
  rw [if_neg hword, if_neg hpos, if_neg (by rwa [any_iff_not_within, not_not]),
    if_neg (not_lt.mpr hmax)]

theorem Allocation.allocate_eq (h : Allocation reserve frameBytes frames limit r) :
    allocate reserve frameBytes frames limit = r := by
  have hbind : ∀ e, checkSize frameBytes frames limit = .error e →
      allocate reserve frameBytes frames limit = .error e := fun e he => by
    unfold allocate
    rw [he]
    rfl
  cases h with
  | overflow h =>
    refine hbind _ ?_
    unfold checkSize
    rw [if_pos h]
  | empty h =>
    refine hbind _ ?_
    unfold checkSize
    rw [h]
    rfl
  | @limited l hword hlimit h =>
    refine hbind _ ?_
    have hany : limit.any (fun l => decide (l < frameBytes * frames)) = true := by
      rw [hlimit]
      exact decide_eq_true h
    unfold checkSize
    rw [if_neg (not_le.mpr hword), if_neg (Nat.ne_of_gt (Nat.zero_lt_of_lt h)), if_pos hany,
      hlimit]
    rfl
  | unlaid hword hwithin h =>
    refine hbind _ ?_
    unfold checkSize
    rw [if_neg (not_le.mpr hword), if_neg (Nat.ne_of_gt (Nat.zero_lt_of_lt h)),
      if_neg (by rwa [any_iff_not_within, not_not]), if_pos h]
  | refused hpos hwithin hmax h =>
    unfold allocate
    rw [checkSize_of_fits hpos hwithin hmax]
    simp only [bind, Except.bind, h]
  | granted hpos hwithin hmax h =>
    unfold allocate
    rw [checkSize_of_fits hpos hwithin hmax]
    simp only [bind, Except.bind, h]

theorem allocate_eq_iff : allocate reserve frameBytes frames limit = r ↔
    Allocation reserve frameBytes frames limit r := by
  refine ⟨fun heq => ?_, Allocation.allocate_eq⟩
  obtain ⟨r', h⟩ := exists_allocation reserve frameBytes frames limit
  rwa [← heq, h.allocate_eq]

theorem Allocation.requested_eq {e : AllocationError}
    (h : Allocation reserve frameBytes frames limit (.error e)) :
    e.requested = frameBytes * frames := by
  cases h with
  | empty h => exact h.symm
  | overflow | limited | unlaid | refused => rfl

/-! ## Offsets of addresses -/

section Offsets

variable {size address k : ℕ}

theorem offsetIn_eq_some_iff :
    offsetIn base size address = some k ↔
      base ≤ address ∧ address < base + size ∧ k = address - base := by
  unfold offsetIn
  split
  · rename_i hinside
    rw [and_iff_right hinside.1, and_iff_right hinside.2, Option.some.injEq, eq_comm]
  · rename_i houtside
    refine iff_of_false nofun fun hsome => houtside ⟨hsome.1, hsome.2.1⟩

theorem offsetIn_eq_none_iff :
    offsetIn base size address = none ↔ ¬ (base ≤ address ∧ address < base + size) := by
  unfold offsetIn
  split <;> simp_all

/-- The difference of two words, unless it is negative. -/
def wordSub? (a b : UInt64) : Option UInt64 := if b ≤ a then some (a - b) else none

/-- How far a word lies behind another one, if by less than a third one. -/
def offsetWord? (base size address : UInt64) : Option UInt64 :=
  (wordSub? address base).filter (· < size)

/-- Words do not wrap around, wherever the buffer begins and ends. -/
theorem offsetIn_eq_words (base size address : UInt64) :
    offsetIn base.toNat size.toNat address.toNat =
      (offsetWord? base size address).map UInt64.toNat := by
  unfold offsetWord? wordSub? offsetIn
  by_cases hbase : base ≤ address
  · have hsub := UInt64.toNat_sub_of_le address base hbase
    have hle := UInt64.le_iff_toNat_le.mp hbase
    rw [if_pos hbase]
    by_cases hsize : address - base < size
    · have hlt := UInt64.lt_iff_toNat_lt.mp hsize
      rw [if_pos ⟨hle, by omega⟩, Option.filter_some, if_pos (decide_eq_true hsize),
        Option.map_some, hsub]
    · have hge := mt UInt64.lt_iff_toNat_lt.mpr hsize
      rw [if_neg (by omega), Option.filter_some, if_neg (by simpa using hsize), Option.map_none]
  · have hlt := mt UInt64.le_iff_toNat_le.mpr hbase
    rw [if_neg hbase, if_neg (by omega)]
    rfl

end Offsets

/-! ## Every allocation -/

/-- What holds of a buffer for so many frames. -/
structure RegionLaw (frameBytes frames : ℕ) (b : FrameBuffer) : Prop where
  size : b.size = frameBytes * frames
  /-- The wrapped product of the two words is the exact one. -/
  wrapped : frameBytes * frames % wordBound = b.size
  /-- The buffer does not reach beyond the last address. -/
  addressable : b.base + b.size ≤ wordBound
  /-- All bytes of a frame lie in the buffer. -/
  slots : ∀ i < frames, ∀ k, i * frameBytes ≤ k → k < (i + 1) * frameBytes → k < b.size
  offset : ∀ (address : UInt64) (k : ℕ), b.offsetOf address.toNat = some k ↔
    b.base ≤ address.toNat ∧ address.toNat < b.base + b.size ∧ k = address.toNat - b.base
  outside : ∀ address : UInt64, b.offsetOf address.toNat = none ↔
    ¬ (b.base ≤ address.toNat ∧ address.toNat < b.base + b.size)
  words : ∀ address : UInt64, b.offsetOf address.toNat =
    (offsetWord? (.ofNat b.base) (.ofNat b.size) address).map UInt64.toNat
  bijective : Set.BijOn (fun address : UInt64 => b.offsetOf address.toNat)
    {address | b.base ≤ address.toNat ∧ address.toNat < b.base + b.size} (some '' Set.Iio b.size)

/-- How the allocation of a buffer ends. -/
structure AllocationLaw (reserve : Allocator) (frameBytes frames : ℕ) (limit : Option ℕ) :
    Prop where
  overflow : ∀ n k, allocate reserve frameBytes frames limit = .error (.sizeOverflow n k) ↔
    wordBound ≤ frameBytes * frames ∧ n = frameBytes ∧ k = frames
  empty : allocate reserve frameBytes frames limit = .error .zeroSize ↔ frameBytes * frames = 0
  limited : ∀ n l, allocate reserve frameBytes frames limit = .error (.exceedsLimit n l) ↔
    frameBytes * frames < wordBound ∧ limit = some l ∧ l < frameBytes * frames ∧
      n = frameBytes * frames
  unlaid : ∀ n k, allocate reserve frameBytes frames limit = .error (.invalidLayout n k) ↔
    frameBytes * frames < wordBound ∧ Within limit (frameBytes * frames) ∧
      2 ^ 63 - 4096 < frameBytes * frames ∧ n = frameBytes * frames ∧ k = alignment
  refused : ∀ n, allocate reserve frameBytes frames limit = .error (.outOfMemory n) ↔
    frameBytes * frames ≠ 0 ∧ Within limit (frameBytes * frames) ∧
      frameBytes * frames ≤ 2 ^ 63 - 4096 ∧ reserve (frameBytes * frames) = none ∧
        n = frameBytes * frames
  granted : ∀ b, allocate reserve frameBytes frames limit = .ok b ↔
    frameBytes * frames ≠ 0 ∧ Within limit (frameBytes * frames) ∧
      frameBytes * frames ≤ 2 ^ 63 - 4096 ∧ reserve (frameBytes * frames) = some b.base ∧
        b.frameBytes = frameBytes ∧ b.frames = frames
  requested : ∀ e, allocate reserve frameBytes frames limit = .error e →
    e.requested = frameBytes * frames
  region : ∀ b, allocate reserve frameBytes frames limit = .ok b → RegionLaw frameBytes frames b

theorem slot_lt {i k : ℕ} (hi : i < frames) (hk : k < (i + 1) * frameBytes) :
    k < frameBytes * frames := by
  rw [Nat.mul_comm frameBytes]
  exact hk.trans_le (Nat.mul_le_mul_right frameBytes hi)

/-- Offsets tell the addresses of a region apart and leave none of its places out. -/
theorem bijOn_offsetOf {b : FrameBuffer} (hend : b.base + b.size ≤ wordBound) :
    Set.BijOn (fun address : UInt64 => b.offsetOf address.toNat)
      {address | b.base ≤ address.toNat ∧ address.toNat < b.base + b.size}
      (some '' Set.Iio b.size) := by
  refine ⟨?mapsTo, ?injOn, ?surjOn⟩
  case mapsTo =>
    rintro address ⟨hbase, hlt⟩
    refine ⟨address.toNat - b.base, ?_, (offsetIn_eq_some_iff.mpr ⟨hbase, hlt, rfl⟩).symm⟩
    exact Set.mem_Iio.mpr (by omega)
  case injOn =>
    rintro address ⟨hbase, hlt⟩ address' ⟨hbase', hlt'⟩ hsame
    have hoffset : b.offsetOf address.toNat = some (address.toNat - b.base) :=
      offsetIn_eq_some_iff.mpr ⟨hbase, hlt, rfl⟩
    obtain ⟨-, -, hsub⟩ := offsetIn_eq_some_iff.mp (hsame.symm.trans hoffset)
    exact UInt64.toNat_inj.mp (by omega)
  case surjOn =>
    rintro _ ⟨k, hk, rfl⟩
    have hk := Set.mem_Iio.mp hk
    have haddress : (UInt64.ofNat (b.base + k)).toNat = b.base + k :=
      UInt64.toNat_ofNat_of_lt' ((Nat.add_lt_add_left hk _).trans_le hend)
    refine ⟨.ofNat (b.base + k), ?_, ?_⟩
    · show b.base ≤ _ ∧ _ < b.base + b.size
      rw [haddress]
      omega
    · dsimp only
      rw [haddress]
      exact offsetIn_eq_some_iff.mpr ⟨by omega, by omega, by omega⟩

theorem Allocation.regionLaw {b : FrameBuffer} (hsound : reserve.Sound)
    (h : Allocation reserve frameBytes frames limit (.ok b)) : RegionLaw frameBytes frames b := by
  cases h with
  | @granted base hpos hwithin hmax hreserve =>
    have hword : frameBytes * frames < wordBound := hmax.trans_lt maxBytes_lt_wordBound
    have hend : base + frameBytes * frames ≤ wordBound := hsound _ _ hreserve
    refine ⟨rfl, Nat.mod_eq_of_lt hword, hend, fun i hi k _ hk => slot_lt hi hk,
      fun _ _ => offsetIn_eq_some_iff, fun _ => offsetIn_eq_none_iff, fun address => ?_,
      bijOn_offsetOf hend⟩
    have hbase : base < wordBound := by omega
    have hbase' := UInt64.toNat_ofNat_of_lt' (show base < 2 ^ 64 from hbase)
    have hsize' := UInt64.toNat_ofNat_of_lt' (show frameBytes * frames < 2 ^ 64 from hword)
    show offsetIn base (frameBytes * frames) address.toNat =
      (offsetWord? (.ofNat base) (.ofNat (frameBytes * frames)) address).map UInt64.toNat
    rw [← offsetIn_eq_words, hbase', hsize']

/-- **Allocation.** An allocation fails for the first of five reasons that applies, and tells the
bytes that were asked for. Where none applies, the buffer holds exactly these bytes, with all
frames in it, and addresses are in it just if they have an offset. -/
theorem allocation_law (reserve : Allocator) (hsound : reserve.Sound) (frameBytes frames : ℕ)
    (limit : Option ℕ) : AllocationLaw reserve frameBytes frames limit where
  overflow n k := by
    rw [allocate_eq_iff]
    constructor
    · intro h
      cases h with
      | overflow h => exact ⟨h, rfl, rfl⟩
    · rintro ⟨h, rfl, rfl⟩
      exact .overflow h
  empty := by
    rw [allocate_eq_iff]
    constructor
    · intro h
      cases h with
      | empty h => exact h
    · exact .empty
  limited n l := by
    rw [allocate_eq_iff]
    constructor
    · intro h
      cases h with
      | limited hword hlimit h => exact ⟨hword, hlimit, h, rfl⟩
    · rintro ⟨hword, hlimit, h, rfl⟩
      exact .limited hword hlimit h
  unlaid n k := by
    rw [allocate_eq_iff]
    constructor
    · intro h
      cases h with
      | unlaid hword hwithin h => exact ⟨hword, hwithin, h, rfl, rfl⟩
    · rintro ⟨hword, hwithin, h, rfl, rfl⟩
      exact .unlaid hword hwithin h
  refused n := by
    rw [allocate_eq_iff]
    constructor
    · intro h
      cases h with
      | refused hpos hwithin hmax h => exact ⟨hpos, hwithin, hmax, h, rfl⟩
    · rintro ⟨hpos, hwithin, hmax, h, rfl⟩
      exact .refused hpos hwithin hmax h
  granted b := by
    rw [allocate_eq_iff]
    constructor
    · intro h
      cases h with
      | granted hpos hwithin hmax h => exact ⟨hpos, hwithin, hmax, h, rfl, rfl⟩
    · obtain ⟨base, _, _⟩ := b
      rintro ⟨hpos, hwithin, hmax, h, rfl, rfl⟩
      exact .granted hpos hwithin hmax h
  requested e he := (allocate_eq_iff.mp he).requested_eq
  region b hb := (allocate_eq_iff.mp hb).regionLaw hsound

/-- A source of memory with one large block at a usual address. -/
def heap : Allocator := fun bytes => if bytes ≤ 2 ^ 40 then some 0x7f0000000000 else none

theorem heap_sound : heap.Sound := by
  intro bytes base hbase
  unfold heap at hbase
  split at hbase
  · obtain rfl := Option.some.inj hbase
    unfold wordBound
    omega
  · cases hbase

theorem allocation_law_heap :
    heap.Sound ∧ AllocationLaw heap 4096 2 (some 8192) ∧
      allocate heap 4096 2 (some 8192) = .ok ⟨0x7f0000000000, 4096, 2⟩ :=
  ⟨heap_sound, allocation_law heap heap_sound 4096 2 (some 8192), rfl⟩

/-- Sizes of which only the wrapped product would do. -/
example : allocate heap (2 ^ 63 + 1) 2 none = .error (.sizeOverflow (2 ^ 63 + 1) 2) := rfl

end FrameBuffer

end FrameWatch
