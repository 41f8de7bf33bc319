import FrameWatch.Simulator.Behavior
import Mathlib.Data.Nat.Nth
import Mathlib.Data.Set.Card
import Mathlib.Order.Interval.Finset.Nat
import Mathlib.Order.Interval.Finset.SuccPred

/-!
# The frames that can be heard of

Which frames of the simulated camera its handler can ever hear of follows from the behaviour alone,
whatever the run does in the meantime: those that are announced with their data before the ready
queue is full of frames that nobody fetched.

1. `SimulatorBehavior.Hears` says so of each frame number.
2. `SimulatorBehavior.backlog` counts the frames that lie in the queue after each frame, and
   `delivers_iff` describes the frames delivered by it.
3. `SimulatorBehavior.heardTo_eq_map_nth` lists the frames heard of in order.
-/

namespace FrameWatch

namespace SimulatorBehavior

variable (b : SimulatorBehavior)

/-- Frame `k` is not left out: it counts from 1, is not dropped and does not come too late. -/
def Candidate (k : ℕ) : Prop :=
  1 ≤ k ∧ (k : ℤ) ∉ b.dropFrames ∧ ∀ last ∈ b.stopAfter, k ≤ last

/-- Frame `k` is announced without data or cannot be fetched. -/
def Unfetched (k : ℕ) : Prop := (k : ℤ) ∈ b.nullInfoOn ∨ (k : ℤ) ∈ b.failFetchOn

instance : DecidablePred b.Candidate := fun k => by unfold Candidate; infer_instance

instance : DecidablePred b.Unfetched := fun k => by unfold Unfetched; infer_instance

/-- The frames from `lo` to `hi` fill the ready queue: none of them is fetched. -/
def Fills (lo hi : ℕ) : Prop :=
  (∀ k ∈ Finset.Icc lo hi, b.Candidate k → b.Unfetched k) ∧
    b.readyQueueDepth ≤ ((Finset.Icc lo hi).filter b.Candidate).card

/-- Frame `k` is delivered: it is not left out, and no frames before it fill the ready queue. -/
def Delivers (k : ℕ) : Prop := b.Candidate k ∧ ∀ lo hi, hi < k → ¬ b.Fills lo hi

/-- The handler hears of frame `k`: it is delivered, and announced with its data. -/
def Hears (k : ℕ) : Prop := b.Delivers k ∧ (k : ℤ) ∉ b.nullInfoOn

/-! ## The backlog -/

/-- The frames in the ready queue after frame `n`. -/
def backlog : ℕ → ℕ
  | 0 => 0
  | n + 1 =>
    if ((n + 1 : ℕ) : ℤ) ∈ b.dropFrames then backlog n
    else if b.Unfetched (n + 1) then backlog n + 1 else 0

section Backlog

variable {b} {n : ℕ}

theorem backlog_of_dropped (h : ((n + 1 : ℕ) : ℤ) ∈ b.dropFrames) :
    b.backlog (n + 1) = b.backlog n := by
  rw [backlog, if_pos h]

theorem backlog_of_unfetched (h : ((n + 1 : ℕ) : ℤ) ∉ b.dropFrames) (hu : b.Unfetched (n + 1)) :
    b.backlog (n + 1) = b.backlog n + 1 := by
  rw [backlog, if_neg h, if_pos hu]

theorem backlog_of_fetched (h : ((n + 1 : ℕ) : ℤ) ∉ b.dropFrames) (hu : ¬ b.Unfetched (n + 1)) :
    b.backlog (n + 1) = 0 := by
  rw [backlog, if_neg h, if_neg hu]

end Backlog

/-- No frame up to `hi` comes after the last one. -/
def Lasts (hi : ℕ) : Prop := ∀ last ∈ b.stopAfter, hi ≤ last

variable {b}

theorem candidate_iff {k : ℕ} (hk : b.Lasts k) :
    b.Candidate k ↔ 1 ≤ k ∧ (k : ℤ) ∉ b.dropFrames := by
  unfold Candidate
  rw [← and_assoc]
  exact and_iff_left hk

section Card

variable {p : ℕ → Prop} [DecidablePred p] {lo hi : ℕ}

theorem card_filter_Icc_succ (h : lo ≤ hi + 1) :
    ((Finset.Icc lo (hi + 1)).filter p).card =
      ((Finset.Icc lo hi).filter p).card + if p (hi + 1) then 1 else 0 := by
  have hinsert : Finset.Icc lo (hi + 1) = insert (hi + 1) (Finset.Icc lo hi) :=
    (Finset.insert_Icc_right_eq_Icc_succ h).symm
  rw [hinsert, Finset.filter_insert]
  split_ifs
  · exact Finset.card_insert_of_notMem (by simp)
  · rfl

theorem card_filter_Icc_of_lt (h : hi < lo) : ((Finset.Icc lo hi).filter p).card = 0 := by
  rw [Finset.Icc_eq_empty (by omega)]
  rfl

end Card

theorem lasts_of_succ {hi : ℕ} (h : b.Lasts (hi + 1)) : b.Lasts hi :=
  fun last hlast => (Nat.le_succ hi).trans (h last hlast)

theorem candidate_succ {hi : ℕ} (hlast : b.Lasts (hi + 1)) :
    b.Candidate (hi + 1) ↔ ((hi + 1 : ℕ) : ℤ) ∉ b.dropFrames := by
  rw [candidate_iff hlast, and_iff_right (by omega)]

/-- Frames that nobody fetches, one after the other, all lie in the queue after the last of them. -/
theorem card_le_backlog {lo hi : ℕ} (hlast : b.Lasts hi)
    (hu : ∀ k ∈ Finset.Icc lo hi, b.Candidate k → b.Unfetched k) :
    ((Finset.Icc lo hi).filter b.Candidate).card ≤ b.backlog hi := by
  induction hi with
  | zero =>
    have hnone : (Finset.Icc lo 0).filter b.Candidate = ∅ := by
      refine Finset.filter_eq_empty_iff.mpr fun k hk hcandidate => ?_
      have := hcandidate.1
      simp only [Finset.mem_Icc] at hk
      omega
    rw [hnone]
    exact Nat.zero_le _
  | succ hi ih =>
    by_cases hlo : lo ≤ hi + 1
    · have hle := ih (lasts_of_succ hlast) fun k hk =>
        hu k (Finset.Icc_subset_Icc_right (Nat.le_succ hi) hk)
      have hmem : hi + 1 ∈ Finset.Icc lo (hi + 1) := Finset.mem_Icc.mpr ⟨hlo, le_rfl⟩
      have hcandidate := candidate_succ hlast
      rw [card_filter_Icc_succ hlo]
      by_cases hdrop : ((hi + 1 : ℕ) : ℤ) ∈ b.dropFrames
      · rw [if_neg fun h => hcandidate.mp h hdrop, backlog_of_dropped hdrop]
        exact hle
      · rw [if_pos (hcandidate.mpr hdrop),
          backlog_of_unfetched hdrop (hu _ hmem (hcandidate.mpr hdrop))]
        omega
    · rw [card_filter_Icc_of_lt (by omega)]
      exact Nat.zero_le _

/-- What lies in the queue are frames that nobody fetched, one after the other. -/
theorem exists_card_eq_backlog {hi : ℕ} (hlast : b.Lasts hi) :
    ∃ lo ≤ hi + 1, (∀ k ∈ Finset.Icc lo hi, b.Candidate k → b.Unfetched k) ∧
      ((Finset.Icc lo hi).filter b.Candidate).card = b.backlog hi := by
  induction hi with
  | zero => exact ⟨1, le_rfl, by simp, rfl⟩
  | succ hi ih =>
    have hcandidate := candidate_succ hlast
    obtain ⟨lo, hlo, hu, hcard⟩ := ih (lasts_of_succ hlast)
    have extend (hnew : b.Candidate (hi + 1) → b.Unfetched (hi + 1)) :
        ∀ k ∈ Finset.Icc lo (hi + 1), b.Candidate k → b.Unfetched k := by
      intro k hk
      by_cases hlt : k ≤ hi
      · exact hu k (Finset.mem_Icc.mpr ⟨(Finset.mem_Icc.mp hk).1, hlt⟩)
      · obtain rfl : k = hi + 1 := by
          have := (Finset.mem_Icc.mp hk).2
          omega
        exact hnew
    by_cases hdrop : ((hi + 1 : ℕ) : ℤ) ∈ b.dropFrames
    · have hno : ¬ b.Candidate (hi + 1) := fun h => hcandidate.mp h hdrop
      refine ⟨lo, by omega, extend fun h => absurd h hno, ?_⟩
      rw [card_filter_Icc_succ hlo, if_neg hno, hcard, backlog_of_dropped hdrop]
      rfl
    · by_cases hun : b.Unfetched (hi + 1)
      · refine ⟨lo, by omega, extend fun _ => hun, ?_⟩
        rw [card_filter_Icc_succ hlo, if_pos (hcandidate.mpr hdrop), hcard,
          backlog_of_unfetched hdrop hun]
      · -- the frame is fetched, and with it all that lay in the queue
        refine ⟨hi + 2, le_rfl, fun k hk => ?_, ?_⟩
        · simp only [Finset.mem_Icc] at hk
          omega
        · rw [card_filter_Icc_of_lt (by omega), backlog_of_fetched hdrop hun]

theorem exists_fills_iff {hi : ℕ} (hlast : b.Lasts hi) :
    (∃ lo, b.Fills lo hi) ↔ b.readyQueueDepth ≤ b.backlog hi := by
  constructor
  · rintro ⟨lo, hu, hcard⟩
    exact hcard.trans (card_le_backlog hlast hu)
  · intro hfull
    obtain ⟨lo, -, hu, hcard⟩ := exists_card_eq_backlog hlast
    exact ⟨lo, hu, hcard ▸ hfull⟩

theorem delivers_iff {k : ℕ} :
    b.Delivers k ↔ b.Candidate k ∧ ∀ j < k, b.backlog j < b.readyQueueDepth := by
  unfold Delivers
  refine and_congr_right fun hk => ?_
  have hlast : ∀ j < k, b.Lasts j := fun j hj last hmem => (hj.le).trans (hk.2.2 last hmem)
  constructor
  · intro h j hj
    by_contra hfull
    obtain ⟨lo, hlo⟩ := (exists_fills_iff (hlast j hj)).mpr (not_lt.mp hfull)
    exact h lo j hj hlo
  · intro h lo hi hhi hfills
    exact absurd ((exists_fills_iff (hlast hi hhi)).mp ⟨lo, hfills⟩) (not_le.mpr (h hi hhi))

instance : DecidablePred b.Delivers := fun _ => decidable_of_iff _ delivers_iff.symm

instance : DecidablePred b.Hears := fun k => by unfold Hears; infer_instance

/-! ## The frames heard of, in order -/

/-- The camera can come to frame `n`. -/
structure Reaches (b : SimulatorBehavior) (n : ℕ) : Prop where
  lasts : b.Lasts n
  roomy : ∀ j < n, b.backlog j < b.readyQueueDepth

theorem Reaches.zero : b.Reaches 0 where
  lasts _ _ := Nat.zero_le _
  roomy _ hj := absurd hj (Nat.not_lt_zero _)

theorem Reaches.succ {n : ℕ} (h : b.Reaches n) (hlast : b.Lasts (n + 1))
    (hroom : b.backlog n < b.readyQueueDepth) : b.Reaches (n + 1) where
  lasts := hlast
  roomy j hj := by
    rcases Nat.lt_succ_iff_lt_or_eq.mp hj with hj | rfl
    · exact h.roomy j hj
    · exact hroom

theorem Reaches.hears_iff {n : ℕ} (h : b.Reaches (n + 1)) :
    b.Hears (n + 1) ↔
      ((n + 1 : ℕ) : ℤ) ∉ b.dropFrames ∧ ((n + 1 : ℕ) : ℤ) ∉ b.nullInfoOn := by
  unfold Hears
  rw [delivers_iff, and_iff_left h.roomy, candidate_succ h.lasts]

/-- The frames up to `n` that the handler hears of. -/
def heardTo (b : SimulatorBehavior) (n : ℕ) : List ℕ := (List.range (n + 1)).filter b.Hears

theorem not_hears_zero : ¬ b.Hears 0 := fun h => absurd h.1.1.1 (by omega)

theorem heardTo_zero : b.heardTo 0 = [] := by
  unfold heardTo
  rw [List.range_one, List.filter_singleton, decide_eq_false not_hears_zero]
  rfl

theorem heardTo_succ (n : ℕ) :
    b.heardTo (n + 1) = b.heardTo n ++ if b.Hears (n + 1) then [n + 1] else [] := by
  unfold heardTo
  rw [List.range_succ, List.filter_append, List.filter_singleton]
  by_cases h : b.Hears (n + 1)
  · rw [decide_eq_true h, if_pos h]
    rfl
  · rw [decide_eq_false h, if_neg h]
    rfl

theorem filter_range_eq_map_nth (p : ℕ → Prop) [DecidablePred p] (n : ℕ) :
    (List.range n).filter p = (List.range (Nat.count p n)).map (Nat.nth p) := by
  induction n with
  | zero => rfl
  | succ n ih =>
    rw [List.range_succ, List.filter_append, ih, Nat.count_succ, List.filter_singleton]
    by_cases h : p n
    · rw [decide_eq_true h, if_pos h, List.range_succ, List.map_append, List.map_singleton,
        Nat.nth_count h]
      rfl
    · rw [decide_eq_false h, if_neg h, Nat.add_zero]
      exact List.append_nil _

theorem length_heardTo (n : ℕ) : (b.heardTo n).length = Nat.count b.Hears (n + 1) := by
  unfold heardTo
  rw [filter_range_eq_map_nth, List.length_map, List.length_range]

/-- The frames heard of are the first ones of all that can be. -/
theorem heardTo_eq_map_nth (n : ℕ) :
    b.heardTo n = (List.range (b.heardTo n).length).map (Nat.nth b.Hears) := by
  rw [length_heardTo]
  exact filter_range_eq_map_nth b.Hears (n + 1)

theorem encard_filter_hears (n : ℕ) :
    (((Finset.range (n + 1)).filter b.Hears : Finset ℕ) : Set ℕ).encard =
      (b.heardTo n).length := by
  rw [Set.encard_coe_eq_coe_finsetCard, length_heardTo, Nat.count_eq_card_filter_range]

theorem length_heardTo_le (n : ℕ) : ((b.heardTo n).length : ℕ∞) ≤ {k | b.Hears k}.encard := by
  rw [← encard_filter_hears]
  exact Set.encard_le_encard fun k hk => (Finset.mem_filter.mp hk).2

end SimulatorBehavior

end FrameWatch
