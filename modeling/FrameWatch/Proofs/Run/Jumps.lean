import FrameWatch.Proofs.Run.Gaps
import FrameWatch.Proofs.Run.Lifecycle
import FrameWatch.Report
import FrameWatch.Run.Script

/-!
# Jumps

Frame numbers may come in any order, stay the same or fall back. A handler counts those of their
steps that lead past a number, and how many numbers they lead past.

1. `neighbours` are the steps of a sequence, and `skipped` is how many numbers one of them leads
   past.
2. `Handler.Tallied`: what a handler has counted that was told some numbers. Every number more
   keeps it.
3. `JumpLaw` says what that means for the counters, and `Receiver.handleAll_jumpLaw` that they obey
   it whatever the fetches come to.
4. `RunCourse.jumpLaw`: so do the counters that a run tells in the end. `GapsTold` says that its
   log and its report then agree about whether there are gaps.
-/

namespace FrameWatch

variable {σ : Type}

/-! ## Steps between numbers -/

/-- Whether the number can be that of a frame. -/
def IsFrameNumber (k : ℤ) : Prop := -2 ^ 31 ≤ k ∧ k ≤ maxFrameNumber

instance : DecidablePred IsFrameNumber := fun _ => inferInstanceAs (Decidable (_ ∧ _))

/-- Each number with the one behind it. -/
def neighbours (numbers : List ℤ) : List (ℤ × ℤ) := numbers.zip numbers.tail

/-- How many numbers a step leads past. -/
def skipped (step : ℤ × ℤ) : ℕ := (step.2 - step.1 - 1).toNat

section Steps

variable {numbers : List ℤ} {last k : ℤ} {step : ℤ × ℤ}

theorem neighbours_concat (hlast : numbers.getLast? = some last) :
    neighbours (numbers ++ [k]) = neighbours numbers ++ [(last, k)] := by
  induction numbers with
  | nil => cases hlast
  | cons a rest ih =>
    cases rest with
    | nil =>
      obtain rfl : a = last := Option.some.inj hlast
      rfl
    | cons b rest =>
      rw [List.getLast?_cons_cons] at hlast
      exact congrArg ((a, b) :: ·) (ih hlast)

theorem mem_of_mem_neighbours (h : step ∈ neighbours numbers) :
    step.1 ∈ numbers ∧ step.2 ∈ numbers :=
  ⟨(List.of_mem_zip h).1, List.mem_of_mem_tail (List.of_mem_zip h).2⟩

theorem length_neighbours_le : (neighbours numbers).length ≤ numbers.length := by
  unfold neighbours
  rw [List.length_zip]
  exact min_le_left _ _

theorem skipped_eq : (skipped step : ℤ) = max 0 (step.2 - step.1 - 1) := by
  rw [max_comm]
  exact Int.toNat_eq_max _

theorem skipped_eq_zero_iff : skipped step = 0 ↔ ¬step.1 + 1 < step.2 := by
  unfold skipped
  omega

theorem skipped_lt (hfrom : IsFrameNumber step.1) (hto : IsFrameNumber step.2) :
    skipped step < 2 ^ 32 := by
  unfold skipped IsFrameNumber maxFrameNumber at *
  omega

/-- Some steps lead past a number if they lead past one in all. -/
theorem sum_skipped_eq_zero_iff (steps : List (ℤ × ℤ)) :
    (steps.map skipped).sum = 0 ↔ steps.countP (fun step => step.1 + 1 < step.2) = 0 := by
  rw [List.sum_eq_zero_iff, List.countP_eq_zero, List.forall_mem_map]
  simp only [skipped_eq_zero_iff, decide_eq_true_eq]

theorem sum_skipped_le (hnumbers : ∀ k ∈ numbers, IsFrameNumber k) :
    ((neighbours numbers).map skipped).sum ≤ numbers.length * (2 ^ 32 - 1) := by
  have hle : ∀ n ∈ (neighbours numbers).map skipped, n ≤ 2 ^ 32 - 1 := by
    intro n hn
    obtain ⟨step, hstep, rfl⟩ := List.mem_map.mp hn
    obtain ⟨hfrom, hto⟩ := mem_of_mem_neighbours hstep
    have := skipped_lt (hnumbers _ hfrom) (hnumbers _ hto)
    omega
  calc ((neighbours numbers).map skipped).sum
      ≤ ((neighbours numbers).map skipped).length * (2 ^ 32 - 1) :=
        List.sum_le_card_nsmul _ _ hle
    _ ≤ numbers.length * (2 ^ 32 - 1) := by
        rw [List.length_map]
        exact Nat.mul_le_mul_right _ length_neighbours_le

end Steps

/-! ## What a handler counts -/

namespace Handler

/-- The counters of a handler that was told these numbers, in any order. -/
structure Tallied (numbers : List ℤ) (h : Handler) : Prop where
  handled : h.counters.handled = numbers.length
  last : ∀ last, numbers.getLast? = some last → h.lastNumber = last
  gaps : h.counters.gapEvents =
    (neighbours numbers).countP fun step => step.1 + 1 < step.2
  lost : h.counters.lostFrames = ((neighbours numbers).map skipped).sum

/-- The first number has none before it. -/
theorem Tallied.count_first {h : Handler} (ht : h.Tallied []) (k : ℤ) :
    (h.count k).Tallied [k] := by
  have hfirst : h.isGap k = false := by
    unfold isGap
    rw [ht.handled]
    rfl
  refine ⟨congrArg (· + 1) ht.handled, fun last hlast => Option.some.inj hlast, ?_, ?_⟩
  · show (if h.isGap k = true then _ else h.counters.gapEvents) = _
    rw [hfirst, if_neg Bool.false_ne_true, ht.gaps]
    rfl
  · show (if h.isGap k = true then _ else h.counters.lostFrames) = _
    rw [hfirst, if_neg Bool.false_ne_true, ht.lost]
    rfl

/-- Every other number makes one step with the number before it. -/
theorem Tallied.count_next {h : Handler} {numbers : List ℤ} {last k : ℤ}
    (ht : h.Tallied numbers) (hlast : numbers.getLast? = some last)
    (hmax : k ≤ maxFrameNumber) : (h.count k).Tallied (numbers ++ [k]) := by
  have hpos : 0 < h.counters.handled := by
    rw [ht.handled]
    exact List.length_pos_of_mem (List.mem_of_getLast? hlast)
  have hgap : h.isGap k = true ↔ last + 1 < k := by
    rw [← ht.last last hlast]
    exact isGap_iff hpos hmax
  refine ⟨?_, fun last' hlast' => ?_, ?_, ?_⟩
  · show h.counters.handled + 1 = _
    rw [ht.handled, List.length_append]
    rfl
  · rw [List.getLast?_concat] at hlast'
    exact Option.some.inj hlast'
  · rw [neighbours_concat hlast, List.countP_append, ← ht.gaps, List.countP_singleton]
    show (if h.isGap k = true then _ else h.counters.gapEvents) = _
    simp only [hgap, decide_eq_true_eq]
    split <;> rfl
  · rw [neighbours_concat hlast, List.map_append, List.sum_append, ← ht.lost]
    show (if h.isGap k = true then _ else h.counters.lostFrames) = _
    rw [ht.last last hlast, List.map_singleton, List.sum_singleton]
    split
    · rfl
    · -- a step that is no gap leads past no number
      rename_i hno
      rw [skipped_eq_zero_iff.mpr (mt hgap.mpr hno)]
      rfl

theorem tallied_of_numbers (h : Handler) {numbers : List ℤ}
    (hmax : ∀ k ∈ numbers, k ≤ maxFrameNumber) :
    (numbers.foldl count h.pristine).Tallied numbers := by
  induction numbers using List.reverseRecOn with
  | nil => exact ⟨rfl, by simp, rfl, rfl⟩
  | append_singleton numbers k ih =>
    rw [List.foldl_concat]
    have ht := ih fun j hj => hmax j (List.mem_append_left _ hj)
    have hk := hmax k (List.mem_append_right _ List.mem_cons_self)
    cases hlast : numbers.getLast? with
    | none =>
      obtain rfl := List.getLast?_eq_none_iff.mp hlast
      exact ht.count_first k
    | some last => exact ht.count_next hlast hk

end Handler

/-! ## The law of jumps -/

/-- What counters say about the numbers that they were kept for. -/
structure JumpLaw (numbers : List ℤ) (gapEvents lostFrames : ℕ) : Prop where
  events : gapEvents = (neighbours numbers).countP fun step => step.1 + 1 < step.2
  lost : (lostFrames : ℤ) =
    ((neighbours numbers).map fun step => max 0 (step.2 - step.1 - 1)).sum
  /-- Of numbers that never fall, those are lost that never come. -/
  leftOut : numbers.Pairwise (· ≤ ·) → lostFrames = (leftOut numbers).card
  /-- There are gaps if and only if something is lost in them. -/
  together : gapEvents = 0 ↔ lostFrames = 0
  /-- Counters of 64 bits are large enough. -/
  fits : numbers.length < 2 ^ 32 → gapEvents < 2 ^ 64 ∧ lostFrames < 2 ^ 64

theorem JumpLaw.nil : JumpLaw [] 0 0 where
  events := rfl
  lost := rfl
  leftOut _ := by simp [FrameWatch.leftOut, between]
  together := Iff.rfl
  fits _ := ⟨by decide, by decide⟩

namespace Handler

theorem jumpLaw_of_numbers (h : Handler) {numbers : List ℤ}
    (hnumbers : ∀ k ∈ numbers, IsFrameNumber k) :
    let counters := (numbers.foldl count h.pristine).counters
    JumpLaw numbers counters.gapEvents counters.lostFrames := by
  have hmax : ∀ k ∈ numbers, k ≤ maxFrameNumber := fun k hk => (hnumbers k hk).2
  have ht := h.tallied_of_numbers hmax
  intro counters
  refine ⟨ht.gaps, ?_, fun hmono => (h.counted_of_monotone hmono hmax).lost, ?_, fun hlength => ?_⟩
  · rw [ht.lost, Nat.cast_list_sum, List.map_map]
    exact congrArg List.sum (List.map_congr_left fun step _ => skipped_eq)
  · rw [ht.lost, ht.gaps]
    exact (sum_skipped_eq_zero_iff _).symm
  · have hle := sum_skipped_le hnumbers
    have hcount : (neighbours numbers).countP (fun step => step.1 + 1 < step.2) ≤
        numbers.length := List.countP_le_length.trans length_neighbours_le
    rw [ht.lost, ht.gaps]
    omega

end Handler

namespace Receiver

/-- Handles some frames, each fetched in its way. -/
def handleAll (r : Receiver) (frames : List (FrameInfo × Fetched)) : Receiver :=
  frames.foldl (fun r frame => r.handle frame.1 frame.2) r

/-- What a fresh handler counts that handles these frames. -/
def countersAfter (camera : Handle) (buffer : FrameBuffer) (mailbox : Mailbox)
    (frames : List (FrameInfo × Fetched)) : HandlerCounters :=
  (handleAll ⟨.ofBuffer camera buffer, mailbox⟩ frames).handler.counters

/-- However fetching ends, the number is counted. -/
theorem undegraded_handleAll (r : Receiver) (frames : List (FrameInfo × Fetched)) :
    (r.handleAll frames).handler.undegraded =
      (frames.map (·.1.number)).foldl Handler.count r.handler.undegraded := by
  induction frames generalizing r with
  | nil => rfl
  | cons frame frames ih =>
    rw [List.map_cons, List.foldl_cons, ← Handler.undegraded_noteFetch _ _ frame.2]
    exact ih (r.handle frame.1 frame.2)

/-- A fresh handler obeys the law of jumps. -/
theorem handleAll_jumpLaw (camera : Handle) (buffer : FrameBuffer) (mailbox : Mailbox)
    {frames : List (FrameInfo × Fetched)} (hframes : ∀ x ∈ frames, IsFrameNumber x.1.number) :
    let counters := countersAfter camera buffer mailbox frames
    JumpLaw (frames.map (·.1.number)) counters.gapEvents counters.lostFrames := by
  have hnumbers : ∀ k ∈ frames.map (·.1.number), IsFrameNumber k := List.forall_mem_map.mpr hframes
  have hlaw := (Handler.ofBuffer camera buffer).jumpLaw_of_numbers hnumbers
  have hcounted := undegraded_handleAll ⟨.ofBuffer camera buffer, mailbox⟩ frames
  rw [show (frames.map (·.1.number)).foldl Handler.count
    (Handler.ofBuffer camera buffer).pristine = _ from hcounted.symm] at hlaw
  exact hlaw

end Receiver

/-! ## What a run counts -/

/-- What happens until the handler is deregistered stays part of the past. -/
theorem Teardown.past_deregister (rig : Rig σ) (s : RunState σ) :
    (deregister rig (abort rig s).2).2.past.toList <+: (giveBack rig s).2.past.toList := by
  set d := deregister rig (abort rig s).2
  obtain ⟨quiet, hpast, -⟩ := (dropContext_quietly d.2 d.1).past
  obtain ⟨_, hclose⟩ := close_path rig (dropBuffer (abort rig s).1 (dropContext d.1 d.2).2).2
  have hmoves : Moves rig (dropContext d.1 d.2).2 (giveBack rig s).2 :=
    ((dropBuffer_moves rig (dropContext d.1 d.2).2 (abort rig s).1).trans
      hclose.2).trans (Act.log_moves rig _ .tornDown)
  refine List.IsPrefix.trans ?_ (Moves.prefix_past hmoves)
  rw [hpast]
  exact List.prefix_append _ _

theorem RunCourse.past_giveBack {rig : Rig σ} {settings : RunSettings} {s₀ s : RunState σ}
    {o : Outcome} {path : SetupPath} {taken : List (FrameDescriptor × Duration)}
    {f : TeardownFailures} (h : RunCourse rig settings s₀ o s path taken f) :
    (Teardown.giveBack rig (giving rig settings s₀)).2.past.toList <+: s.past.toList := by
  obtain ⟨counters, hs⟩ := h.ends
  rw [hs, h.steps_drive]
  exact Moves.prefix_past (Run.stop_path rig _ counters).2

/-- The counters that a run tells obey the law of jumps for the numbers that were told before the
context was given up. -/
theorem RunCourse.jumpLaw {rig : Rig σ} {settings : RunSettings} {x : σ} {mailbox : Mailbox}
    {s : RunState σ} {o : Outcome} {path : SetupPath}
    {taken : List (FrameDescriptor × Duration)} {f : TeardownFailures}
    (h : RunCourse rig settings (.initial x mailbox.reset) o s path taken f)
    (hnumbers : ∀ k ∈ numbers s.past.toList, IsFrameNumber k) :
    let counters :=
      (Teardown.steps rig (Run.drive rig settings (.initial x mailbox.reset)).2).1.1
    ∃ told, told <+: numbers s.past.toList ∧
      (o.teardown.contextLeaked = false → told = numbers s.past.toList) ∧
      JumpLaw told counters.gapEvents counters.lostFrames := by
  obtain ⟨hmoves, hcontext, -⟩ := Teardown.deregister_abort rig h.closed_giving h.context_giving
  have hgauges := Moves.gauges (h.moves_giving.trans hmoves) (RunState.Gauges.initial x _)
  have hpast : _ <+: s.past.toList :=
    (Teardown.past_deregister rig _).trans h.past_giveBack
  set d := Teardown.deregister rig
    (Teardown.abort rig (RunCourse.giving rig settings (.initial x mailbox.reset))).2
  have hfront : numbers d.2.past.toList <+: numbers s.past.toList := hpast.filterMap _
  have hcounters : (Teardown.steps rig
      (Run.drive rig settings (.initial x mailbox.reset)).2).1.1 =
        d.2.context.live?.elim .zero Handler.counters := by
    rw [h.steps_drive]
    exact Teardown.counters_dropContext d.2 d.1 hcontext
  intro counters
  refine ⟨numbers d.2.past.toList, hfront, fun hkept => ?_, ?_⟩
  · obtain ⟨-, rest, hpast, hnone⟩ := h.reads hkept
    rw [hpast, numbers_append, numbers_eq_nil hnone, List.append_nil]
  · rw [show counters = _ from hcounters]
    rcases hcontext with habsent | ⟨handler, hheld⟩
    · -- no handler was ever told anything
      rw [hgauges.absent habsent, habsent]
      exact .nil
    · have hlive : d.2.context.live? = some handler := by rw [hheld]; rfl
      have hlaw := handler.jumpLaw_of_numbers fun k hk => hnumbers k (hfront.subset hk)
      rw [← hgauges.live handler hlive] at hlaw
      rw [hlive]
      exact hlaw

/-! ## What a run tells about gaps -/

/-- What the event tells about gaps, if it warns of them. -/
def RunEvent.gaps? : RunEvent → Option (ℕ × ℕ)
  | gapsDetected events lost => some (events, lost)
  | _ => none

/-- The warnings about gaps among some events. -/
def warnings (events : List RunEvent) : List (ℕ × ℕ) := events.filterMap RunEvent.gaps?

theorem warnings_append (xs ys : List RunEvent) :
    warnings (xs ++ ys) = warnings xs ++ warnings ys :=
  List.filterMap_append

theorem warnings_of_teardown {events : List RunEvent} (h : ∀ e ∈ events, e.isTeardown = true) :
    warnings events = [] := by
  refine List.filterMap_eq_nil_iff.mpr fun e he => ?_
  have hteardown := h e he
  cases e <;> first | rfl | cases hteardown

theorem warnings_reportSteps (settings : RunSettings) (n : ℕ) (d : FrameDescriptor) :
    warnings (logged (reportSteps settings n d)) = [] := by
  unfold reportSteps
  split <;> split <;> rfl

theorem warnings_takenSteps (settings : RunSettings) (n : ℕ) (taken : List FrameDescriptor) :
    warnings (logged (takenSteps settings n taken)) = [] := by
  induction taken generalizing n with
  | nil => rfl
  | cons d taken ih =>
    have hwaited : logged (takenSteps settings n (d :: taken)) =
        logged (reportSteps settings (n + 1) d) ++ logged (takenSteps settings (n + 1) taken) :=
      logged_append (reportSteps settings (n + 1) d) _
    rw [hwaited, warnings_append, warnings_reportSteps, ih]
    rfl

theorem warnings_endSteps (settings : RunSettings) (n : ℕ) (reached : Bool) :
    warnings (logged (endSteps settings n reached)) = [] := by
  cases reached <;> rfl

namespace SetupPath

variable (settings : RunSettings) (path : SetupPath) (taken : List FrameDescriptor)

theorem warnings_standing (logsOpening : Bool) :
    warnings (logged (path.standing settings logsOpening).trail) = [] := by
  cases path <;> cases logsOpening <;> rfl

theorem warnings_driven (source : Phase) :
    warnings (logged (path.drivenSteps settings taken source)) = [] := by
  unfold drivenSteps
  cases path.error? with
  | some e =>
    dsimp only
    rw [e.logged_steps]
    rfl
  | none =>
    dsimp only [watchSteps]
    rw [← List.singleton_append, logged_append, logged_append, logged_append, warnings_append,
      warnings_append, warnings_append, warnings_takenSteps, warnings_endSteps]
    rfl

end SetupPath

theorem Standing.warnings_teardown (s : Standing) (f : TeardownFailures) :
    warnings (logged (s.teardownSteps f)) = [] := by
  obtain ⟨torn, htorn, hteardown⟩ := s.logged_teardown f
  rw [htorn]
  exact warnings_of_teardown (List.forall_mem_append.mpr
    ⟨fun e he => (hteardown e he).1, List.forall_mem_singleton.mpr rfl⟩)

/-- Until everything is given back, nothing is said about gaps. -/
theorem RunCourse.warnings_teardown {rig : Rig σ} {settings : RunSettings} {s₀ s : RunState σ}
    {o : Outcome} {path : SetupPath} {taken : List (FrameDescriptor × Duration)}
    {f : TeardownFailures} (h : RunCourse rig settings s₀ o s path taken f) :
    warnings (Teardown.steps rig (Run.drive rig settings s₀).2).2.events = [] := by
  obtain ⟨f', -, -, hst, -⟩ :=
    Teardown.giveBack_path rig (giving rig settings s₀) h.closed_giving
  have htrail : (Run.drive rig settings s₀).2.trail =
      (path.driven settings rig.logsOpening (taken.map Prod.fst)).trail :=
    congrArg Standing.trail h.driven
  have htrail' : (Teardown.giveBack rig (giving rig settings s₀)).2.trail =
      (Run.drive rig settings s₀).2.trail ++ (giving rig settings s₀).standing.teardownSteps f' :=
    congrArg Standing.trail hst
  have hdriven : (path.driven settings rig.logsOpening (taken.map Prod.fst)).trail =
      (path.standing settings rig.logsOpening).trail ++ path.drivenSteps settings
        (taken.map Prod.fst) (path.standing settings rig.logsOpening).phase := rfl
  rw [h.steps_drive, RunState.events_eq, htrail', htrail, hdriven, logged_append, logged_append,
    warnings_append, warnings_append, path.warnings_standing, path.warnings_driven,
    Standing.warnings_teardown]
  rfl

theorem RunState.events_log (s : RunState σ) (e : RunEvent) :
    (s.log e).events = s.events ++ [e] := by
  rw [events_eq, events_eq]
  show logged (s.step _).trail = _
  rw [trail_step, logged_append]
  rfl

/-- The warning is the last thing that a run logs. -/
theorem Run.warnings_stop (counters : HandlerCounters) (s : RunState σ) :
    warnings (stop counters s).2.events = warnings s.events ++
      if 0 < counters.lostFrames then [(counters.gapEvents, counters.lostFrames)] else [] := by
  have hentered : warnings (Act.enter .stopped s).2.events = warnings s.events := by
    show warnings (s.log (.transition s.phase .stopped)).events = _
    rw [RunState.events_log, warnings_append]
    exact List.append_nil _
  unfold stop
  rw [Act.run_bind]
  split
  · show warnings ((Act.enter .stopped s).2.log _).events = _
    rw [RunState.events_log, warnings_append, hentered]
    rfl
  · exact hentered.trans (List.append_nil _).symm

/-! ## What a report tells about gaps -/

/-- The line begins in this way. -/
def Begins (front line : String) : Prop := front.toList <+: line.toList

theorem begins_append (front rest : String) : Begins front (front ++ rest) := by
  unfold Begins
  rw [String.toList_append]
  exact List.prefix_append _ _

/-- A line begins in one of two ways only if one of them begins in the other. -/
theorem not_begins {front front' : String} (h : ¬front.toList <+: front'.toList)
    (h' : ¬front'.toList <+: front.toList) (rest : String) : ¬Begins front (front' ++ rest) := by
  unfold Begins
  rw [String.toList_append]
  intro hfront
  exact (List.prefix_or_prefix_of_prefix hfront (List.prefix_append _ _)).elim h h'

namespace Report

/-- A line of the report is about gaps. -/
def TellsGaps (r : Report) : Prop := ∃ line ∈ r.lines, Begins "  frame gaps: " line

theorem tellsGaps_iff (r : Report) : r.TellsGaps ↔ 0 < r.gapEvents := by
  unfold TellsGaps lines
  constructor
  · rintro ⟨line, hline, htells⟩
    by_contra hnone
    rw [if_neg hnone] at hline
    simp only [List.mem_append, List.mem_cons, List.not_mem_nil, or_false, List.mem_map,
      Option.mem_toList, String.append_assoc] at hline
    rcases hline with (((((rfl | rfl) | ⟨_, -, rfl⟩) | ⟨_, -, rfl⟩) | ⟨_, -, rfl⟩) | rfl) | hleaked
    · exact not_begins (by decide) (by decide) _ htells
    · exact not_begins (by decide) (by decide) _ htells
    · exact not_begins (by decide) (by decide) _ htells
    · exact not_begins (by decide) (by decide) _ htells
    · exact not_begins (by decide) (by decide) _ htells
    · exact not_begins (by decide) (by decide) _ htells
    · split at hleaked
      · cases hleaked
      · obtain rfl := List.mem_singleton.mp hleaked
        exact not_begins (by decide) (by decide) _ htells
  · intro hgaps
    rw [if_pos hgaps]
    refine ⟨_, List.mem_append_left _ (List.mem_append_right _ (List.mem_singleton.mpr rfl)), ?_⟩
    simp only [String.append_assoc]
    exact begins_append _ _

end Report

/-! ## Gaps as they are told -/

/-- What the log of a run and the report on it tell about gaps. -/
structure GapsTold (o : Outcome) (events : List RunEvent) : Prop where
  warned : warnings events = if 0 < o.lostFrames then [(o.gapEvents, o.lostFrames)] else []
  reported : (Report.ofOutcome o).TellsGaps ↔ warnings events ≠ []

/-- What the counters of a run and what it tells say about the numbers that its handler is told. -/
structure GapAccounts (o : Outcome) (s : RunState σ) : Prop where
  /-- Without a leaked context, these are the numbers of all frames. -/
  counted : ∃ told, told <+: numbers s.past.toList ∧
    (o.teardown.contextLeaked = false → told = numbers s.past.toList) ∧
    JumpLaw told o.gapEvents o.lostFrames
  told : GapsTold o s.events

theorem Runner.gapAccounts (rig : Rig σ) (r : Runner σ) (number : ℕ)
    (hnumbers : ∀ k ∈ numbers (r.run rig number).2.1.past.toList, IsFrameNumber k) :
    GapAccounts (r.run rig number).1 (r.run rig number).2.1 := by
  obtain ⟨houtcome, hstate⟩ := r.run_eq_observe rig number
  obtain ⟨path, taken, f, hcourse⟩ := r.run_course rig number
  have hcounted := hcourse.jumpLaw hnumbers
  have hquiet := hcourse.warnings_teardown
  set t := Teardown.steps rig (Run.drive rig r.settings (.initial r.rig r.mailbox.reset)).2
  have hevents : (r.run rig number).1.gapEvents = t.1.1.gapEvents :=
    congrArg Outcome.gapEvents houtcome
  have hlost : (r.run rig number).1.lostFrames = t.1.1.lostFrames :=
    congrArg Outcome.lostFrames houtcome
  dsimp only at hcounted
  rw [← hevents, ← hlost] at hcounted
  have hwarned : warnings (r.run rig number).2.1.events =
      if 0 < (r.run rig number).1.lostFrames
      then [((r.run rig number).1.gapEvents, (r.run rig number).1.lostFrames)] else [] := by
    rw [hstate, hevents, hlost]
    refine (Run.warnings_stop t.1.1 t.2).trans ?_
    rw [hquiet, List.nil_append]
  refine ⟨hcounted, hwarned, ?_⟩
  obtain ⟨told, -, -, hlaw⟩ := hcounted
  rw [Report.tellsGaps_iff, hwarned]
  show 0 < (r.run rig number).1.gapEvents ↔ _
  rw [Nat.pos_iff_ne_zero, Ne, hlaw.together, ← Ne, ← Nat.pos_iff_ne_zero]
  split <;> simp_all

/-- **Gap accounting.** Whatever frame numbers a fresh handler is told and however fetching the
frames ends, its counters obey the law of jumps. So do those of a run, and the run warns of gaps if
and only if the report on it tells of them. -/
theorem Runner.gap_accounting (camera : Handle) (buffer : FrameBuffer) (mailbox : Mailbox)
    {frames : List (FrameInfo × Fetched)} (hframes : ∀ x ∈ frames, IsFrameNumber x.1.number)
    (rig : Rig σ) (r : Runner σ) (number : ℕ)
    (hnumbers : ∀ k ∈ numbers (r.run rig number).2.1.past.toList, IsFrameNumber k) :
    JumpLaw (frames.map (·.1.number))
        (Receiver.countersAfter camera buffer mailbox frames).gapEvents
        (Receiver.countersAfter camera buffer mailbox frames).lostFrames ∧
      GapAccounts (r.run rig number).1 (r.run rig number).2.1 :=
  ⟨Receiver.handleAll_jumpLaw camera buffer mailbox hframes, r.gapAccounts rig number hnumbers⟩

/-- A camera that leaps from the least frame number to the greatest one and back as it starts. -/
def Script.leaping : Script :=
  .ofReplies ⟨.ok ⟨1⟩, .ok 0, .ok 16, .ok (), .ok (), .ok (), .ok (), .ok (), none⟩
    [⟨-2 ^ 31, 0, .offset 0, false, false⟩, ⟨maxFrameNumber, 0, .crashed, false, false⟩,
      ⟨maxFrameNumber, 1, .failed, false, false⟩, ⟨-2 ^ 31, 2, .offset 0, false, false⟩,
      ⟨2 - 2 ^ 31, 3, .crashed, false, false⟩] [] [] [] []

/-- The numbers of its frames. -/
def leaps : List ℤ := [-2 ^ 31, maxFrameNumber, maxFrameNumber, -2 ^ 31, 2 - 2 ^ 31]

/-- Frames with these numbers, none of which can be fetched. -/
def unfetched : List (FrameInfo × Fetched) := leaps.map fun k => (⟨0, k, 0, 0, 0⟩, .crashed)

/-- A run on that camera. -/
def Runner.leap : Outcome × RunState Script × Runner Script :=
  (fresh .standard .leaping).run (Script.rig fun _ => some 4096) 1

theorem Runner.gap_accounting_leaping :
    (Receiver.countersAfter ⟨1⟩ ⟨4096, 16, 20⟩ .empty unfetched).gapEvents = 2 ∧
      (Receiver.countersAfter ⟨1⟩ ⟨4096, 16, 20⟩ .empty unfetched).lostFrames = 2 ^ 32 - 1 ∧
      numbers leap.2.1.past.toList = leaps ∧
      leap.1.gapEvents = 2 ∧ leap.1.lostFrames = 2 ^ 32 - 1 ∧
      warnings leap.2.1.events = [(2, 2 ^ 32 - 1)] ∧ (Report.ofOutcome leap.1).TellsGaps := by
  have hframes : ∀ x ∈ unfetched, IsFrameNumber x.1.number := by decide
  have hnumbers : numbers leap.2.1.past.toList = leaps := by decide +kernel
  have hrange : ∀ k ∈ numbers leap.2.1.past.toList, IsFrameNumber k := by
    rw [hnumbers]
    decide
  have haccounting := Runner.gap_accounting ⟨1⟩ ⟨4096, 16, 20⟩ .empty hframes
    (Script.rig fun _ => some 4096) (fresh .standard .leaping) 1
  rw [show (fresh .standard .leaping).run (Script.rig fun _ => some 4096) 1 = leap from rfl,
    show unfetched.map (·.1.number) = leaps from rfl] at haccounting
  obtain ⟨hcounters, ⟨told, -, hall, hcounted⟩, hwarned, hreported⟩ := haccounting hrange
  obtain rfl : told = leaps := (hall (by decide +kernel)).trans hnumbers
  have hlaw : ∀ events lost, JumpLaw leaps events lost → events = 2 ∧ lost = 2 ^ 32 - 1 :=
    fun events lost hlaw => ⟨hlaw.events, Int.ofNat_inj.mp (hlaw.lost.trans (by decide))⟩
  obtain ⟨hevents, hlost⟩ := hlaw _ _ hcounters
  obtain ⟨hevents', hlost'⟩ := hlaw _ _ hcounted
  rw [hevents', hlost', if_pos (by decide)] at hwarned
  have htells := hreported.mpr (by rw [hwarned]; simp)
  exact ⟨hevents, hlost, hnumbers, hevents', hlost', hwarned, htells⟩

end FrameWatch
