import FrameWatch.Proofs.Simulator.Memory
import FrameWatch.Simulator.Rig
import Mathlib.Data.Int.ModEq

/-!
# The slots of a buffer

The simulated camera writes the number of each frame that it delivers to the start of a slot of the
buffer, one slot after the other and then from the first one again. `StampsKept` says what comes of
that while the camera goes through some states. It begins when the buffer is zero
(`StampsKept.granted`), and lasts as long as the camera rests (`StampsKept.rests`) or delivers a
frame with a number above all before it (`StampsKept.stamped`).
-/

namespace FrameWatch

/-! ## What the slots are to hold -/

/-- The number of the newest frame of the camera that was opened last. -/
def Simulation.newest? (x : Simulation) : Option ℤ :=
  (x.handle.bind x.camera.sessions.get?).bind fun session =>
    session.queue.latest.map (·.info.number)

/-- The numbers of the frames delivered while the camera went through these states. -/
def delivered (states : List Simulation) : List ℤ := states.filterMap Simulation.newest?

/-- The largest of the numbers that belong to slot `i` of so many, and 0 if there is none. -/
def largestIn (slots i : ℕ) (numbers : List ℤ) : ℤ :=
  (numbers.filter fun k => k ≡ i + 1 [ZMOD slots]).max?.getD 0

/-- Where slot `i` begins. -/
def FrameBuffer.slot (b : FrameBuffer) (i : ℕ) : ℕ := b.base + i * b.frameBytes

/-- What the camera writes into the buffer while it goes through these states. -/
structure StampsKept (buffer : FrameBuffer) (states : List Simulation) : Prop where
  /-- From one state to the next at most one number is written, and all of it into the buffer. -/
  inside : ∀ past x y, past ++ [x, y] <+: states → y.camera.memory = x.camera.memory ∨
    ∃ address number, y.camera.memory = x.camera.memory.write address number ∧
      buffer.base ≤ address ∧ address + Stamp.width ≤ buffer.base + buffer.size
  /-- In every state each slot holds the largest number that belongs to it. -/
  newest : Stamp.width ≤ buffer.frameBytes → ∀ past x, past ++ [x] <+: states →
    (∀ k ∈ delivered (past ++ [x]), k ≤ maxFrameNumber) → ∀ i < buffer.frames,
      x.camera.memory.word (buffer.slot i) =
        largestIn buffer.frames i (delivered (past ++ [x]))

/-! ## The largest number of a slot -/

section Largest

variable {slots i n : ℕ} {numbers : List ℤ} {k : ℤ}

theorem largestIn_concat_of_other (hk : ¬ k ≡ i + 1 [ZMOD slots]) :
    largestIn slots i (numbers ++ [k]) = largestIn slots i numbers := by
  unfold largestIn
  rw [List.filter_append, List.filter_cons_of_neg (by simpa using hk), List.filter_nil,
    List.append_nil]

theorem largestIn_concat_of_largest (hk : k ≡ i + 1 [ZMOD slots]) (hle : ∀ j ∈ numbers, j ≤ k) :
    largestIn slots i (numbers ++ [k]) = k := by
  have hmax : ((numbers ++ [k]).filter fun k => k ≡ i + 1 [ZMOD slots]).max? = some k := by
    rw [List.max?_eq_some_iff]
    refine ⟨List.mem_filter.mpr ⟨by simp, by simpa using hk⟩, fun j hj => ?_⟩
    rcases List.mem_append.mp (List.mem_filter.mp hj).1 with hj | hj
    · exact hle j hj
    · exact (List.mem_singleton.mp hj).le
  unfold largestIn
  rw [hmax]
  rfl

/-- A number that has been there before changes nothing. -/
theorem largestIn_concat_of_mem (hk : k ∈ numbers) :
    largestIn slots i (numbers ++ [k]) = largestIn slots i numbers := by
  by_cases hslot : k ≡ i + 1 [ZMOD slots]
  · have hmem : k ∈ numbers.filter fun k => k ≡ i + 1 [ZMOD slots] :=
      List.mem_filter.mpr ⟨hk, by simpa using hslot⟩
    obtain ⟨m, hm⟩ := Option.isSome_iff_exists.mp (List.isSome_max?_of_mem hmem)
    obtain ⟨hfound, hle⟩ := List.max?_eq_some_iff.mp hm
    have hmax : ((numbers ++ [k]).filter fun k => k ≡ i + 1 [ZMOD slots]).max? = some m := by
      rw [List.max?_eq_some_iff, List.filter_append]
      refine ⟨List.mem_append_left _ hfound, fun j hj => ?_⟩
      rcases List.mem_append.mp hj with hj | hj
      · exact hle j hj
      · obtain rfl := List.mem_singleton.mp (List.mem_filter.mp hj).1
        exact hle j hmem
    unfold largestIn
    rw [hmax, hm]
  · exact largestIn_concat_of_other hslot

/-- Frame `n + 1` belongs to slot `n` modulo the number of slots. -/
theorem belongs_iff (hi : i < slots) :
    ((n + 1 : ℕ) : ℤ) ≡ i + 1 [ZMOD slots] ↔ n % slots = i := by
  have hcast : ((n + 1 : ℕ) : ℤ) ≡ i + 1 [ZMOD slots] ↔ n + 1 ≡ i + 1 [MOD slots] := by
    rw [← Int.natCast_modEq_iff]
    push_cast
    rfl
  rw [hcast]
  constructor
  · intro h
    have hsame : n % slots = i % slots := Nat.ModEq.add_right_cancel' 1 h
    rw [hsame, Nat.mod_eq_of_lt hi]
  · intro h
    have hsame : n ≡ i [MOD slots] := by
      show n % slots = i % slots
      rw [h, Nat.mod_eq_of_lt hi]
    exact hsame.add_right 1

end Largest

/-! ## Where slots lie -/

namespace FrameBuffer

variable {b : FrameBuffer} {i j : ℕ}

theorem slot_le (hi : i < b.frames) : b.slot i + b.frameBytes ≤ b.base + b.size := by
  have hfits : (i + 1) * b.frameBytes ≤ b.frames * b.frameBytes := Nat.mul_le_mul_right _ hi
  have hsize : b.size = b.frames * b.frameBytes := Nat.mul_comm _ _
  rw [Nat.succ_mul] at hfits
  unfold slot
  omega

theorem slot_apart (h : i < j) : b.slot i + b.frameBytes ≤ b.slot j := by
  have hfits : (i + 1) * b.frameBytes ≤ j * b.frameBytes := Nat.mul_le_mul_right _ h
  rw [Nat.succ_mul] at hfits
  unfold slot
  omega

theorem base_le_slot (b : FrameBuffer) (i : ℕ) : b.base ≤ b.slot i := Nat.le_add_right _ _

end FrameBuffer

/-! ## From one state to the next -/

theorem delivered_concat (states : List Simulation) (x : Simulation) :
    delivered (states ++ [x]) = delivered states ++ x.newest?.toList := by
  unfold delivered
  rw [List.filterMap_append]
  cases hx : x.newest? <;> simp [hx]

namespace StampsKept

variable {buffer : FrameBuffer} {states : List Simulation} {x y : Simulation}

theorem concat_prefix {α : Type} {past : List α} {x y : α} {states : List α}
    (h : past ++ [x] <+: states ++ [y]) :
    (past = states ∧ x = y) ∨ past ++ [x] <+: states := by
  rcases List.prefix_concat_iff.mp h with h | h
  · exact .inl (List.append_inj' h rfl |>.imp_right fun h => by cases h; rfl)
  · exact .inr h

/-- What is so once memory was made zero for the buffer. -/
theorem granted {m : Memory} (hmemory : x.camera.memory = m.clear buffer.base buffer.size)
    (hnone : x.newest? = none) : StampsKept buffer [x] where
  inside past x y h := by
    have hlength := h.length_le
    simp at hlength
  newest hfits past y h _ i hi := by
    have hprefix : past ++ [y] <+: [] ++ [x] := h
    rcases concat_prefix hprefix with ⟨rfl, rfl⟩ | hnil
    · have hle := FrameBuffer.slot_le hi
      rw [hmemory, Memory.word_clear (buffer.base_le_slot i) (by omega), delivered_concat, hnone]
      rfl
    · have hlength := hnil.length_le
      simp at hlength

theorem inside_concat (h : StampsKept buffer (states ++ [x]))
    (hwrite : y.camera.memory = x.camera.memory ∨
      ∃ address number, y.camera.memory = x.camera.memory.write address number ∧
        buffer.base ≤ address ∧ address + Stamp.width ≤ buffer.base + buffer.size) :
    ∀ past x' y', past ++ [x', y'] <+: states ++ [x] ++ [y] →
      y'.camera.memory = x'.camera.memory ∨
        ∃ address number, y'.camera.memory = x'.camera.memory.write address number ∧
          buffer.base ≤ address ∧ address + Stamp.width ≤ buffer.base + buffer.size := by
  intro past x' y' hprefix
  rw [← List.singleton_append, ← List.append_assoc] at hprefix
  rcases concat_prefix hprefix with ⟨hpast, rfl⟩ | hearlier
  · obtain ⟨-, hx⟩ := List.append_inj' hpast rfl
    cases hx
    exact hwrite
  · rw [List.append_assoc, List.singleton_append] at hearlier
    exact h.inside past x' y' hearlier

/-- The camera rests: it writes nothing, and its newest frame is none that has not been before. -/
theorem rests (h : StampsKept buffer (states ++ [x])) (hmemory : y.camera.memory = x.camera.memory)
    (hnewest : ∀ k, y.newest? = some k → k ∈ delivered (states ++ [x])) :
    StampsKept buffer (states ++ [x] ++ [y]) where
  inside := h.inside_concat (.inl hmemory)
  newest hfits past z hprefix hmax i hi := by
    rcases concat_prefix hprefix with ⟨rfl, rfl⟩ | hearlier
    · rw [delivered_concat] at hmax ⊢
      have hbefore := h.newest hfits states x (List.prefix_refl _)
        (fun k hk => hmax k (List.mem_append_left _ hk)) i hi
      rw [hmemory, hbefore]
      cases hz : z.newest? with
      | none => rw [Option.toList_none, List.append_nil]
      | some k => exact (largestIn_concat_of_mem (hnewest k hz)).symm
    · exact h.newest hfits past z hearlier hmax i hi

/-- The camera delivers frame `n + 1`, and no frame with a greater number has been before. -/
theorem stamped {n : ℕ} (h : StampsKept buffer (states ++ [x])) (hframes : 0 < buffer.frames)
    (hmemory : y.camera.memory = if Stamp.width ≤ buffer.frameBytes then
      x.camera.memory.write (buffer.slot (n % buffer.frames)) (n + 1 : ℕ) else x.camera.memory)
    (hnewest : y.newest? = some ((n + 1 : ℕ) : ℤ)) (hle : ∀ k ∈ delivered (states ++ [x]), k ≤ n) :
    StampsKept buffer (states ++ [x] ++ [y]) where
  inside := by
    refine h.inside_concat ?_
    split at hmemory
    · rename_i hfits
      have hslot := FrameBuffer.slot_le (Nat.mod_lt n hframes)
      exact .inr ⟨_, _, hmemory, buffer.base_le_slot _, by omega⟩
    · exact .inl hmemory
  newest hfits past z hprefix hmax i hi := by
    rcases concat_prefix hprefix with ⟨rfl, rfl⟩ | hearlier
    · rw [delivered_concat, hnewest, Option.toList_some] at hmax ⊢
      rw [if_pos hfits] at hmemory
      have hbefore := h.newest hfits states x (List.prefix_refl _)
        (fun k hk => hmax k (List.mem_append_left _ hk)) i hi
      have hnumber : ((n + 1 : ℕ) : ℤ) ≤ maxFrameNumber := hmax _ (by simp)
      rw [hmemory]
      by_cases hslot : n % buffer.frames = i
      · -- the slot that is written to
        subst hslot
        rw [largestIn_concat_of_largest ((belongs_iff hi).mpr rfl)
          (fun j hj => (hle j hj).trans (by omega))]
        unfold maxFrameNumber at hnumber
        exact Memory.word_write (by omega) (by omega)
      · rw [largestIn_concat_of_other fun hbelongs => hslot ((belongs_iff hi).mp hbelongs),
          ← hbefore]
        refine Memory.word_write_of_apart ?_
        rcases Nat.lt_or_gt_of_ne hslot with hlt | hgt
        · exact .inr ((Nat.add_le_add_left hfits _).trans (FrameBuffer.slot_apart hlt))
        · exact .inl ((Nat.add_le_add_left hfits _).trans (FrameBuffer.slot_apart hgt))
    · exact h.newest hfits past z hearlier hmax i hi

end StampsKept

end FrameWatch
