import FrameWatch.Proofs.Run.Protocol

/-!
# The waits of a run

The frames that a run takes are handed out by its waits, and all its waits belong to the watch. Only
the last of them may end without a frame, and it does so where the target is missed.

1. `RunState.deliveries_eq` reads the frames handed out off the waits.
2. `RunCourse.waits_driven` lists the waits by the course of the run, and `RunCourse.waits_eq` says
   that none comes after the watch.
3. `RunCourse.deliveries_eq` and `RunCourse.exists_timedOut` draw the conclusions.
-/

namespace FrameWatch

open MailboxEvent

/-! ## Waits and the mailbox -/

/-- What the wait takes, if the event is one. -/
def MailboxEvent.taken? : MailboxEvent → Option (Option FrameDescriptor)
  | fired d => some (some d)
  | timedOut => some none
  | _ => none

theorem MailboxEvent.deliveries_of_taken (es : List MailboxEvent) :
    deliveries es = (es.filterMap taken?).filterMap id := by
  unfold deliveries
  rw [List.filterMap_filterMap]
  congr 1
  funext e
  cases e <;> rfl

/-- Waits that take some frames and end with one that takes none. -/
theorem MailboxEvent.exists_timedOut_of_taken {es : List MailboxEvent}
    {frames : List FrameDescriptor} (h : es.filterMap taken? = frames.map some ++ [none]) :
    ∃ before after, es = before ++ .timedOut :: after ∧ deliveries before = frames ∧
      after.filterMap taken? = [] := by
  obtain ⟨before, rest, rfl, hbefore, hrest⟩ := List.filterMap_eq_append_iff.mp h
  obtain ⟨quiet, e, after, rfl, hquiet, he, hafter⟩ := List.filterMap_eq_cons_iff.mp hrest
  obtain rfl : e = .timedOut := by cases e <;> cases he; rfl
  have hnone : quiet.filterMap taken? = [] := List.filterMap_eq_nil_iff.mpr hquiet
  refine ⟨before ++ quiet, after, by rw [List.append_assoc], ?_, hafter⟩
  rw [deliveries_of_taken, List.filterMap_append, hbefore, hnone, List.append_nil,
    List.filterMap_map]
  exact List.filterMap_some

namespace RunState

variable {σ : Type} (s : RunState σ)

theorem waits_eq : s.mailboxEvents.filterMap taken? = waits s.past.toList := by
  unfold mailboxEvents waits
  rw [List.filterMap_filterMap]
  congr 1
  funext e
  cases e with
  | waited taken => cases taken <;> rfl
  | handled n answer signalled => cases signalled <;> rfl
  | _ => rfl

theorem deliveries_eq : deliveries s.mailboxEvents = (waits s.past.toList).filterMap id := by
  rw [deliveries_of_taken, s.waits_eq]

theorem reset_not_mem : .reset ∉ s.mailboxEvents := by
  intro hmem
  obtain ⟨e, -, he⟩ := List.mem_filterMap.mp hmem
  cases e with
  | waited taken => cases taken <;> cases he
  | handled n answer signalled => cases signalled <;> cases he
  | _ => cases he

end RunState

/-! ## The past of a run -/

section Past

variable {σ : Type} {rig : Rig σ} {s s' : RunState σ}

theorem RunState.prefix_step (s : RunState σ) (e : RunStep) :
    s.past.toList <+: (s.step e).past.toList := by
  unfold step
  rw [Array.toList_push]
  exact List.prefix_append _ _

theorem Move.prefix_past (hmove : Move rig s s') : s.past.toList <+: s'.past.toList := by
  cases hmove with
  | did e => exact s.prefix_step e
  | take => exact s.prefix_step _
  | handle n => exact (s.prefix_step _).trans (RunState.prefix_step (s.note _) _)
  | stray n => exact s.prefix_step _
  | _ => exact List.prefix_rfl

theorem Moves.prefix_past (hmoves : Moves rig s s') : s.past.toList <+: s'.past.toList := by
  induction hmoves with
  | refl => exact List.prefix_rfl
  | tail _ hmove ih => exact ih.trans hmove.prefix_past

/-- What a run has done to the mailbox is never undone. -/
theorem Moves.events_prefix (hmoves : Moves rig s s') : s.mailboxEvents <+: s'.mailboxEvents :=
  hmoves.prefix_past.filterMap _

end Past

/-! ## Waits by the course of a run -/

section Steps

variable (settings : RunSettings)

theorem waits_report (n : ℕ) (d : FrameDescriptor) : waits (reportSteps settings n d) = [] := by
  unfold reportSteps
  split_ifs <;> rfl

theorem waits_taken (n : ℕ) (taken : List FrameDescriptor) :
    waits (takenSteps settings n taken) = taken.map some := by
  induction taken generalizing n with
  | nil => rfl
  | cons d taken ih =>
    have hcons : takenSteps settings n (d :: taken) =
        [.waited (some d)] ++ (reportSteps settings (n + 1) d ++
          takenSteps settings (n + 1) taken) := rfl
    rw [hcons, waits_append, waits_append, waits_report, ih]
    rfl

/-- How the last wait ends where it ends without a frame. -/
def lastWait (reached : Bool) : List (Option FrameDescriptor) := if reached then [] else [none]

theorem waits_watch (source : Phase) (taken : List FrameDescriptor) :
    waits (watchSteps settings source taken) =
      taken.map some ++ lastWait (taken.length = settings.targetFrames) := by
  have hcons : watchSteps settings source taken =
      [.noted (.event (.transition source .acquiring))] ++
        (takenSteps settings 0 taken ++
          endSteps settings taken.length (taken.length = settings.targetFrames) ++
          [.noted (.event (.transition .acquiring
            (watchPhase (taken.length = settings.targetFrames))))]) := rfl
  have hend : ∀ reached, waits (endSteps settings taken.length reached) = lastWait reached := by
    intro reached
    cases reached <;> rfl
  rw [hcons, waits_append, waits_append, waits_append, waits_taken, hend]
  exact List.append_nil _

theorem waits_failure (e : SetupError) (source : Phase) : waits (e.steps source) = [] := by
  obtain ⟨stage, cause⟩ := e
  cases cause <;> rfl

end Steps

namespace SetupPath

variable (settings : RunSettings) {logsOpening : Bool} (path : SetupPath)

theorem waits_standing : waits (path.standing settings logsOpening).trail = [] := by
  cases path <;> cases logsOpening <;> rfl

theorem waits_driven (taken : List FrameDescriptor) :
    waits (path.driven settings logsOpening taken).trail =
      match path.error? with
      | some _ => []
      | none => taken.map some ++ lastWait (taken.length = settings.targetFrames) := by
  cases h : path.error? with
  | some e =>
    rw [driven_of_some _ _ _ _ h]
    show waits ((path.standing settings logsOpening).trail ++ _) = []
    rw [waits_append, waits_standing, waits_failure]
    rfl
  | none =>
    rw [driven_of_none _ _ _ _ h]
    show waits ((path.standing settings logsOpening).trail ++ _) = _
    rw [waits_append, waits_standing, waits_watch]
    rfl

end SetupPath

namespace RunCourse

variable {σ : Type} {rig : Rig σ} {settings : RunSettings} {s₀ s : RunState σ} {outcome : Outcome}
  {path : SetupPath} {taken : List (FrameDescriptor × Duration)} {f : TeardownFailures}

/-- No wait comes after the watch. -/
theorem waits_eq (h : RunCourse rig settings s₀ outcome s path taken f) :
    waits s.past.toList = waits (Run.drive rig settings s₀).2.past.toList := by
  obtain ⟨tail, htail, htrail⟩ := h.trail_eq
  have hrest : waits tail = [] := by
    refine List.filterMap_eq_nil_iff.mpr fun e he => ?_
    obtain ⟨event, rfl, -⟩ := htail e he
    rfl
  have hdriven : (Run.drive rig settings s₀).2.trail =
      (path.driven settings rig.logsOpening (taken.map Prod.fst)).trail :=
    congrArg Standing.trail h.driven
  rw [← s.waits_trail, ← RunState.waits_trail, hdriven, htrail, waits_append, hrest,
    List.append_nil, waits_append, Standing.waits_teardown, List.append_nil]
  rfl

theorem waits_driven (h : RunCourse rig settings s₀ outcome s path taken f) :
    waits (Run.drive rig settings s₀).2.past.toList =
      match path.error? with
      | some _ => []
      | none =>
        (taken.map Prod.fst).map some ++ lastWait (taken.length = settings.targetFrames) := by
  have hdriven : (Run.drive rig settings s₀).2.trail =
      (path.driven settings rig.logsOpening (taken.map Prod.fst)).trail :=
    congrArg Standing.trail h.driven
  rw [← RunState.waits_trail, hdriven, SetupPath.waits_driven, List.length_map]

/-- The watch takes these frames. -/
theorem deliveries_driven (h : RunCourse rig settings s₀ outcome s path taken f) :
    deliveries (Run.drive rig settings s₀).2.mailboxEvents = taken.map Prod.fst := by
  have hlast : ∀ reached, (lastWait reached).filterMap id = [] := by
    intro reached
    cases reached <;> rfl
  rw [RunState.deliveries_eq, h.waits_driven]
  cases hpath : path.error? with
  | some e =>
    rw [h.unwatched (by simp [hpath])]
    rfl
  | none =>
    dsimp only
    rw [List.filterMap_append, hlast, List.append_nil, List.filterMap_map]
    exact List.filterMap_some

/-- The run takes the frames of its watch. -/
theorem deliveries_eq (h : RunCourse rig settings s₀ outcome s path taken f) :
    deliveries s.mailboxEvents = taken.map Prod.fst := by
  rw [s.deliveries_eq, h.waits_eq, ← RunState.deliveries_eq, h.deliveries_driven]

/-- Where the target is missed, a wait ends without a frame once all frames are taken. -/
theorem exists_timedOut (h : RunCourse rig settings s₀ outcome s path taken f)
    (hpath : path.error? = none) (hmissed : taken.length ≠ settings.targetFrames) :
    ∃ before after,
      (Run.drive rig settings s₀).2.mailboxEvents = before ++ .timedOut :: after ∧
      deliveries before = taken.map Prod.fst := by
  have hwaits := h.waits_driven
  rw [hpath, ← RunState.waits_eq] at hwaits
  dsimp only at hwaits
  rw [decide_eq_false hmissed] at hwaits
  obtain ⟨before, after, hsplit, hbefore, -⟩ := exists_timedOut_of_taken hwaits
  exact ⟨before, after, hsplit, hbefore⟩

end RunCourse

end FrameWatch
