import FrameWatch.Proofs.Run.Accounts
import Mathlib

/-!
# Gaps

The handler compares the number of every frame with the one before it, and counts the jumps. For
numbers that never fall these counts are sizes of sets: of the numbers left out between the first
and the last one, and of the blocks that they come in.

1. `blocks` are the maximal blocks of consecutive numbers in a set. There is one for every number
   without its predecessor (`card_blocks`).
2. `Handler.counted_of_monotone`: what a handler counts that is told such numbers.
3. `RunState.Gauges`: the handler of a run has counted the numbers that it was told. Every move
   keeps it.
4. `RunCourse.counts_numbers`: the counters that teardown tells are then those of all numbers.
-/

namespace FrameWatch

variable {σ : Type}

/-! ## Numbers left out -/

/-- The numbers strictly between the first and the last one. -/
noncomputable def between (numbers : List ℤ) : Finset ℤ :=
  match numbers.head?, numbers.getLast? with
  | some first, some last => Finset.Ioo first last
  | _, _ => ∅

/-- The maximal blocks of consecutive numbers in a set, each by its least and its greatest
number. -/
noncomputable def blocks (s : Finset ℤ) : Finset (ℤ × ℤ) :=
  (s ×ˢ s).filter fun (lo, hi) =>
    lo ≤ hi ∧ Finset.Icc lo hi ⊆ s ∧ lo - 1 ∉ s ∧ hi + 1 ∉ s

/-- The numbers in a set whose predecessor is not in it. -/
def starts (s : Finset ℤ) : Finset ℤ := s.filter fun k => k - 1 ∉ s

section Blocks

variable {s : Finset ℤ} {lo hi hi' k : ℤ}

theorem mem_blocks :
    (lo, hi) ∈ blocks s ↔ lo ≤ hi ∧ Finset.Icc lo hi ⊆ s ∧ lo - 1 ∉ s ∧ hi + 1 ∉ s := by
  unfold blocks
  rw [Finset.mem_filter, Finset.mem_product]
  constructor
  · exact And.right
  · rintro ⟨hle, hsub, hlo, hhi⟩
    have hleft : lo ∈ s := hsub (Finset.left_mem_Icc.mpr hle)
    have hright : hi ∈ s := hsub (Finset.right_mem_Icc.mpr hle)
    exact ⟨⟨hleft, hright⟩, hle, hsub, hlo, hhi⟩

/-- A block ends where the numbers end that follow its start. -/
theorem le_of_mem_blocks (h : (lo, hi) ∈ blocks s) (h' : (lo, hi') ∈ blocks s) : hi' ≤ hi := by
  obtain ⟨hle, -, -, hend⟩ := mem_blocks.mp h
  obtain ⟨-, hsub', -, -⟩ := mem_blocks.mp h'
  by_contra hlt
  exact hend (hsub' (Finset.mem_Icc.mpr ⟨by omega, by omega⟩))

/-- From every start on, a block reaches to the greatest number that all numbers before are in the
set with. -/
theorem exists_mem_blocks (h : k ∈ starts s) : ∃ hi, (k, hi) ∈ blocks s := by
  obtain ⟨hk, hstart⟩ := Finset.mem_filter.mp h
  set reached := s.filter fun hi => k ≤ hi ∧ Finset.Icc k hi ⊆ s with hreached
  have hne : reached.Nonempty := by
    refine ⟨k, Finset.mem_filter.mpr ⟨hk, le_rfl, ?_⟩⟩
    rw [Finset.Icc_self]
    exact Finset.singleton_subset_iff.mpr hk
  obtain ⟨-, hle, hsub⟩ := Finset.mem_filter.mp (reached.max'_mem hne)
  refine ⟨reached.max' hne, mem_blocks.mpr ⟨hle, hsub, hstart, fun hmore => ?_⟩⟩
  -- the block would go on
  have hnext : reached.max' hne + 1 ∈ reached := by
    refine Finset.mem_filter.mpr ⟨hmore, by omega, fun j hj => ?_⟩
    obtain ⟨hlow, hhigh⟩ := Finset.mem_Icc.mp hj
    by_cases hlast : j = reached.max' hne + 1
    · rw [hlast]
      exact hmore
    · exact hsub (Finset.mem_Icc.mpr ⟨hlow, by omega⟩)
  have := reached.le_max' _ hnext
  omega

/-- There are as many blocks as numbers to start one with. -/
theorem card_blocks (s : Finset ℤ) : (blocks s).card = (starts s).card := by
  refine Finset.card_bij (fun b _ => b.1) ?_ ?_ ?_
  · rintro ⟨lo, hi⟩ h
    obtain ⟨hle, hsub, hstart, -⟩ := mem_blocks.mp h
    exact Finset.mem_filter.mpr ⟨hsub (Finset.left_mem_Icc.mpr hle), hstart⟩
  · rintro ⟨lo, hi⟩ h ⟨lo', hi'⟩ h' heq
    obtain rfl : lo = lo' := heq
    exact Prod.ext rfl (le_antisymm (le_of_mem_blocks h' h) (le_of_mem_blocks h h'))
  · intro k hk
    obtain ⟨hi, h⟩ := exists_mem_blocks hk
    exact ⟨(k, hi), h, rfl⟩

end Blocks

/-- The numbers between the first and the last one that are not told. -/
noncomputable def leftOut (numbers : List ℤ) : Finset ℤ :=
  (between numbers).filter fun k => k ∉ numbers

section LeftOut

variable {numbers : List ℤ} {last k : ℤ}

theorem between_of_length_lt (h : numbers.length < 2) : between numbers = ∅ := by
  match numbers, h with
  | [], _ => rfl
  | [k], _ => exact Finset.Ioo_self k

theorem leftOut_singleton (k : ℤ) : leftOut [k] = ∅ := by
  unfold leftOut
  rw [between_of_length_lt (by simp)]
  rfl

theorem le_getLast_of_monotone (hmono : numbers.Pairwise (· ≤ ·))
    (hlast : numbers.getLast? = some last) (hk : k ∈ numbers) : k ≤ last := by
  obtain ⟨before, rfl⟩ := List.getLast?_eq_some_iff.mp hlast
  rcases List.mem_append.mp hk with hk | hk
  · exact (List.pairwise_append.mp hmono).2.2 k hk last List.mem_cons_self
  · rw [List.mem_singleton.mp hk]

theorem lt_of_mem_leftOut (hlast : numbers.getLast? = some last) (hk : k ∈ leftOut numbers) :
    k < last := by
  obtain ⟨hk, -⟩ := Finset.mem_filter.mp hk
  unfold between at hk
  rw [hlast] at hk
  cases hhead : numbers.head? with
  | none => rw [hhead] at hk; exact absurd hk (Finset.notMem_empty k)
  | some first => rw [hhead] at hk; exact (Finset.mem_Ioo.mp hk).2

/-- One number more leaves out those in front of it, too. -/
theorem leftOut_concat (hmono : (numbers ++ [k]).Pairwise (· ≤ ·))
    (hlast : numbers.getLast? = some last) :
    leftOut (numbers ++ [k]) = leftOut numbers ∪ Finset.Ioo last k := by
  obtain ⟨hrises, -, hbelow⟩ := List.pairwise_append.mp hmono
  have hmem : last ∈ numbers := List.mem_of_getLast? hlast
  obtain ⟨first, hfirst⟩ : ∃ first, numbers.head? = some first := by
    cases numbers with
    | nil => cases hmem
    | cons first rest => exact ⟨first, rfl⟩
  have hle : first ≤ last := le_getLast_of_monotone hrises hlast (List.mem_of_head? hfirst)
  have hlt : last ≤ k := hbelow last hmem k List.mem_cons_self
  have hnew : between (numbers ++ [k]) = Finset.Ioo first k := by
    unfold between
    rw [List.head?_append, hfirst, List.getLast?_concat]
    rfl
  have hold : between numbers = Finset.Ioo first last := by
    unfold between
    rw [hfirst, hlast]
  unfold leftOut
  rw [hnew, hold]
  ext j
  simp only [Finset.mem_filter, Finset.mem_union, Finset.mem_Ioo, List.mem_append,
    List.mem_singleton, not_or]
  constructor
  · rintro ⟨⟨hj, hjk⟩, hnot, -⟩
    rcases lt_trichotomy j last with h | rfl | h
    · exact .inl ⟨⟨hj, h⟩, hnot⟩
    · exact absurd hmem hnot
    · exact .inr ⟨h, hjk⟩
  · rintro (⟨⟨hj, hjl⟩, hnot⟩ | ⟨hjl, hjk⟩)
    · exact ⟨⟨hj, by omega⟩, hnot, by omega⟩
    · refine ⟨⟨by omega, hjk⟩, fun hj => ?_, by omega⟩
      have := le_getLast_of_monotone hrises hlast hj
      omega

/-- What is left out in front of one number more is a block of its own. -/
theorem starts_concat (hmono : (numbers ++ [k]).Pairwise (· ≤ ·))
    (hlast : numbers.getLast? = some last) :
    starts (leftOut (numbers ++ [k])) =
      starts (leftOut numbers) ∪ if last + 1 < k then {last + 1} else ∅ := by
  have hbelow : ∀ j ∈ leftOut numbers, j < last := fun j hj => lt_of_mem_leftOut hlast hj
  rw [leftOut_concat hmono hlast]
  unfold starts
  ext j
  simp only [Finset.mem_filter, Finset.mem_union, Finset.mem_Ioo]
  constructor
  · rintro ⟨hj | ⟨hlow, hhigh⟩, hstart⟩
    · exact .inl ⟨hj, fun hbefore => hstart (.inl hbefore)⟩
    · obtain rfl : j = last + 1 := by
        by_contra hne
        exact hstart (.inr ⟨by omega, by omega⟩)
      rw [if_pos hhigh]
      exact .inr (Finset.mem_singleton_self _)
  · rintro (⟨hj, hstart⟩ | hj)
    · have := hbelow j hj
      exact ⟨.inl hj, fun hbefore => hbefore.elim hstart fun h => by omega⟩
    · split at hj
      · rename_i hgap
        obtain rfl := Finset.mem_singleton.mp hj
        refine ⟨.inr ⟨by omega, hgap⟩, fun hbefore => ?_⟩
        rcases hbefore with h | h
        · have := hbelow _ h
          omega
        · omega
      · exact absurd hj (Finset.notMem_empty j)

theorem card_leftOut_concat (hmono : (numbers ++ [k]).Pairwise (· ≤ ·))
    (hlast : numbers.getLast? = some last) :
    (leftOut (numbers ++ [k])).card = (leftOut numbers).card + (k - last - 1).toNat := by
  rw [leftOut_concat hmono hlast, Finset.card_union_of_disjoint, Int.card_Ioo]
  refine Finset.disjoint_left.mpr fun j hj hnew => ?_
  have := lt_of_mem_leftOut hlast hj
  have := (Finset.mem_Ioo.mp hnew).1
  omega

theorem card_starts_concat (hmono : (numbers ++ [k]).Pairwise (· ≤ ·))
    (hlast : numbers.getLast? = some last) :
    (starts (leftOut (numbers ++ [k]))).card =
      (starts (leftOut numbers)).card + if last + 1 < k then 1 else 0 := by
  rw [starts_concat hmono hlast, Finset.card_union_of_disjoint]
  · split <;> rfl
  · refine Finset.disjoint_left.mpr fun j hj hnew => ?_
    have := lt_of_mem_leftOut hlast (Finset.mem_filter.mp hj).1
    split at hnew
    · have := Finset.mem_singleton.mp hnew
      omega
    · exact absurd hnew (Finset.notMem_empty j)

end LeftOut

/-! ## What a handler counts -/

namespace Handler

/-- The handler without its count of failed fetches. -/
def undegraded (h : Handler) : Handler := { h with counters := { h.counters with degraded := 0 } }

theorem undegraded_noteFetch (h : Handler) (number : ℤ) (answer : Fetched) :
    ((h.count number).noteFetch answer).undegraded = h.undegraded.count number := by
  cases answer <;> rfl

theorem pristine_count (h : Handler) (number : ℤ) (answer : Fetched) :
    ((h.count number).noteFetch answer).pristine = h.pristine := by
  rw [pristine_noteFetch]
  rfl

/-- Up to the greatest number there is, a jump leaves out the number that follows. -/
theorem isGap_iff {h : Handler} {number : ℤ} (hhandled : 0 < h.counters.handled)
    (hmax : number ≤ maxFrameNumber) :
    h.isGap number = true ↔ h.lastNumber + 1 < number := by
  unfold isGap successor
  rw [Bool.and_eq_true, decide_eq_true_eq, decide_eq_true_eq, and_iff_right hhandled, min_lt_iff,
    or_iff_left (not_lt.mpr hmax)]

/-- The counters of a handler that was told these numbers, one after the other. -/
structure Counted (numbers : List ℤ) (h : Handler) : Prop where
  handled : h.counters.handled = numbers.length
  last : ∀ last, numbers.getLast? = some last → h.lastNumber = last
  lost : h.counters.lostFrames = (leftOut numbers).card
  gaps : h.counters.gapEvents = (starts (leftOut numbers)).card

theorem Counted.count {h : Handler} {numbers : List ℤ} {k : ℤ} (hc : h.Counted numbers)
    (hmono : (numbers ++ [k]).Pairwise (· ≤ ·)) (hmax : k ≤ maxFrameNumber) :
    (h.count k).Counted (numbers ++ [k]) := by
  have hlast : ∀ last, (numbers ++ [k]).getLast? = some last → (h.count k).lastNumber = last := by
    intro last heq
    rw [List.getLast?_concat] at heq
    exact Option.some.inj heq
  have hhandled : (h.count k).counters.handled = (numbers ++ [k]).length := by
    show h.counters.handled + 1 = _
    rw [hc.handled, List.length_append]
    rfl
  cases hbefore : numbers.getLast? with
  | none =>
    -- the first number has none before it
    obtain rfl := List.getLast?_eq_none_iff.mp hbefore
    have hfirst : h.isGap k = false := by
      unfold isGap
      rw [hc.handled]
      rfl
    refine ⟨hhandled, hlast, ?_, ?_⟩
    · show (if h.isGap k = true then _ else h.counters.lostFrames) = _
      rw [hfirst, if_neg Bool.false_ne_true, hc.lost, List.nil_append, leftOut_singleton]
      rfl
    · show (if h.isGap k = true then _ else h.counters.gapEvents) = _
      rw [hfirst, if_neg Bool.false_ne_true, hc.gaps, List.nil_append, leftOut_singleton]
      rfl
  | some last =>
    have hmem : last ∈ numbers := List.mem_of_getLast? hbefore
    have hle : last ≤ k := (List.pairwise_append.mp hmono).2.2 last hmem k List.mem_cons_self
    have hpos : 0 < h.counters.handled := by
      rw [hc.handled]
      exact List.length_pos_of_mem hmem
    have hgap : h.isGap k = true ↔ last + 1 < k := by
      rw [← hc.last last hbefore]
      exact isGap_iff hpos hmax
    refine ⟨hhandled, hlast, ?_, ?_⟩
    · rw [card_leftOut_concat hmono hbefore, ← hc.lost, ← hc.last last hbefore]
      show (if h.isGap k = true then _ else h.counters.lostFrames) = _
      rw [← hc.last last hbefore] at hgap hle
      split
      · rfl
      · rename_i hno
        have := mt hgap.mpr hno
        omega
    · rw [card_starts_concat hmono hbefore, ← hc.gaps]
      show (if h.isGap k = true then _ else h.counters.gapEvents) = _
      by_cases hno : last + 1 < k
      · rw [if_pos (hgap.mpr hno), if_pos hno]
      · rw [if_neg (mt hgap.mp hno), if_neg hno]
        rfl

/-- A handler that is told numbers that never fall counts those that are left out, and their
blocks. -/
theorem counted_of_monotone (h : Handler) {numbers : List ℤ}
    (hmono : numbers.Pairwise (· ≤ ·)) (hmax : ∀ k ∈ numbers, k ≤ maxFrameNumber) :
    (numbers.foldl count h.pristine).Counted numbers := by
  induction numbers using List.reverseRecOn with
  | nil => exact ⟨rfl, by simp, rfl, rfl⟩
  | append_singleton numbers k ih =>
    rw [List.foldl_concat]
    refine (ih (List.pairwise_append.mp hmono).1 fun j hj => ?_).count hmono ?_
    · exact hmax j (List.mem_append_left _ hj)
    · exact hmax k (List.mem_append_right _ List.mem_cons_self)

end Handler

/-! ## The numbers that a run's handler is told -/

/-- The frame number that the handler is told, if the step handles a notification. -/
def RunStep.number? : RunStep → Option ℤ
  | handled n _ _ => n.info.map FrameInfo.number
  | _ => none

/-- The frame numbers that the handler was told, in order. -/
def numbers (steps : List RunStep) : List ℤ := steps.filterMap RunStep.number?

theorem numbers_append (xs ys : List RunStep) : numbers (xs ++ ys) = numbers xs ++ numbers ys :=
  List.filterMap_append

/-- Only notifications that are handled tell a number. -/
theorem numbers_eq_nil {steps : List RunStep} (h : fetches steps = []) : numbers steps = [] := by
  refine List.filterMap_eq_nil_iff.mpr fun e he => ?_
  have hnone := List.filterMap_eq_nil_iff.mp h e he
  cases e with
  | handled => cases hnone
  | _ => rfl

namespace RunState

theorem numbers_step (s : RunState σ) {e : RunStep} (he : e.number? = none) :
    numbers (s.step e).past.toList = numbers s.past.toList := by
  rw [past_step, numbers_append]
  unfold numbers
  rw [List.filterMap_cons_none he, List.filterMap_nil, List.append_nil]

theorem number?_of_own {e : RunStep} (h : e.isOwn = true) : e.number? = none := by
  cases e with
  | handled => cases h
  | _ => rfl

theorem numbers_handled (rig : Rig σ) (s : RunState σ) (handler : Handler) {n : Notification}
    {info : FrameInfo} (hinfo : n.info = some info) :
    numbers (Act.handled rig handler n info s).past.toList =
      numbers s.past.toList ++ [info.number] := by
  have hnumber : (RunStep.handled n (rig.fetch handler.camera s.rig).1
      (handler.descriptor? info (rig.fetch handler.camera s.rig).1)).number? =
        some info.number := by
    show n.info.map _ = _
    rw [hinfo]
    rfl
  show numbers (RunState.step _ _).past.toList = _
  rw [past_step, numbers_append, note, numbers_step _ rfl]
  unfold numbers
  rw [List.filterMap_cons_some hnumber, List.filterMap_nil]

/-- The handler has counted the numbers that it was told, as long as there is one. -/
structure Gauges (s : RunState σ) : Prop where
  live : ∀ handler, s.context.live? = some handler →
    handler.undegraded = (numbers s.past.toList).foldl Handler.count handler.pristine
  absent : s.context = .absent → numbers s.past.toList = []

variable {s : RunState σ}

theorem Gauges.initial (x : σ) (mailbox : Mailbox) : (RunState.initial x mailbox).Gauges where
  live _ hlive := by cases hlive
  absent _ := rfl

theorem Gauges.step (h : s.Gauges) {e : RunStep} (he : e.number? = none) : (s.step e).Gauges where
  live handler hlive := by
    rw [numbers_step s he]
    exact h.live handler hlive
  absent habsent := by
    rw [numbers_step s he]
    exact h.absent habsent

theorem Gauges.handled (h : s.Gauges) (rig : Rig σ) {handler : Handler} {info : FrameInfo}
    {n : Notification} (hlive : s.context.live? = some handler) (hinfo : n.info = some info) :
    (Act.handled rig handler n info s).Gauges where
  live handler' hlive' := by
    change (s.context.map _).live? = some handler' at hlive'
    rw [Custody.live?_map, hlive] at hlive'
    cases hlive'
    rw [numbers_handled rig s handler hinfo, List.foldl_concat, Handler.pristine_count,
      ← h.live handler hlive, Handler.undegraded_noteFetch]
  absent habsent := by
    change s.context.map _ = .absent at habsent
    rw [Custody.map_eq_absent] at habsent
    rw [habsent] at hlive
    cases hlive

end RunState

section Moves

variable {rig : Rig σ} {s s' : RunState σ}

theorem Move.gauges (hmove : Move rig s s') (h : s.Gauges) : s'.Gauges := by
  cases hmove with
  | did e hown => exact h.step (RunState.number?_of_own hown)
  | take =>
    have htaken : RunState.Gauges { s with mailbox := s.mailbox.take.2 } := ⟨h.1, h.2⟩
    exact htaken.step rfl
  | handle n hreg hlive hinfo => exact h.handled rig hlive hinfo
  | stray n => exact h.step rfl
  | allocate camera buffer hreg habsent =>
    refine ⟨fun handler hlive => ?_, by simp⟩
    cases hlive
    rw [h.absent habsent]
    rfl
  | dropContext => exact ⟨by simp [Custody.live?], by simp⟩
  | leakContext hheld =>
    refine ⟨fun handler hlive => h.live handler ?_, by simp⟩
    rw [hheld]
    exact hlive
  | _ => exact ⟨h.live, h.absent⟩

theorem Moves.gauges (hmoves : Moves rig s s') (h : s.Gauges) : s'.Gauges := by
  induction hmoves with
  | refl => exact h
  | tail _ hmove ih => exact hmove.gauges ih

end Moves

/-! ## Whole runs -/

/-- When the counters are read, the handler has counted all numbers that it is ever told. -/
theorem RunCourse.counts_numbers {rig : Rig σ} {settings : RunSettings} {x : σ} {mailbox : Mailbox}
    {s : RunState σ} {o : Outcome} {path : SetupPath}
    {taken : List (FrameDescriptor × Duration)} {f : TeardownFailures}
    (h : RunCourse rig settings (.initial x mailbox.reset) o s path taken f)
    (hkept : o.teardown.contextLeaked = false)
    (hrising : (numbers s.past.toList).Pairwise (· < ·))
    (hmax : ∀ k ∈ numbers s.past.toList, k ≤ maxFrameNumber) :
    let counters :=
      (Teardown.steps rig (Run.drive rig settings (.initial x mailbox.reset)).2).1.1
    counters.lostFrames = (leftOut (numbers s.past.toList)).card ∧
      counters.gapEvents = (blocks (leftOut (numbers s.past.toList))).card := by
  obtain ⟨hreads, rest, hpast, hnone⟩ := h.reads hkept
  obtain ⟨hmoves, hcontext, -⟩ := Teardown.deregister_abort rig h.closed_giving h.context_giving
  have hgauges := Moves.gauges (h.moves_giving.trans hmoves) (RunState.Gauges.initial x _)
  set d := (Teardown.deregister rig
    (Teardown.abort rig (RunCourse.giving rig settings (.initial x mailbox.reset))).2).2
  have hsame : numbers s.past.toList = numbers d.past.toList := by
    rw [hpast, numbers_append, numbers_eq_nil hnone, List.append_nil]
  intro counters
  rw [hsame] at hrising hmax ⊢
  rw [card_blocks, show counters = _ from hreads]
  rcases hcontext with habsent | ⟨handler, hheld⟩
  · rw [hgauges.absent habsent, habsent]
    exact ⟨rfl, rfl⟩
  · have hlive : d.context.live? = some handler := by rw [hheld]; rfl
    have hcounted := handler.counted_of_monotone (hrising.imp le_of_lt) hmax
    rw [← hgauges.live handler hlive] at hcounted
    rw [hlive]
    exact ⟨hcounted.lost, hcounted.gaps⟩

end FrameWatch
