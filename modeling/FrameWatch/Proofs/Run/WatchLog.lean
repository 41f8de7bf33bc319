import FrameWatch.Proofs.Run.Lifecycle
import FrameWatch.Proofs.Run.Verdict
import FrameWatch.Run.Script
import Mathlib.Algebra.Order.Group.Nat

/-!
# What the watch logs

The log of a watch tells every frame that was degraded and every frame at which progress was due,
each where the frame was taken, and in the end how the watch ended.

1. `frameLines` and `closingLine` are the lines themselves, and `frameTrace` those about several
   frames. `line_takenSteps` and `line_endSteps`: a watch logs just these.
2. `RunEvent.mem_watchMessages_iff`: no line of setup or teardown has one of the four messages.
3. `countMessage_degraded` and `countMessage_progress`: how many lines of either kind there are.
4. `Runner.watch_log` puts it together for every run whose setup succeeds.
-/

namespace FrameWatch

open MailboxEvent (deliveries)

/-! ## The lines of a watch -/

/-- The message about a frame that could not be fetched. -/
def degradedMessage : String := "Latest-frame fetch failed in callback"

/-- The message about the progress made. -/
def progressMessage : String := "Acquisition progress"

/-- The message at the end of a watch that has all its frames. -/
def reachedMessage : String := "Target frame count reached"

/-- The message at the end of a watch that waited in vain. -/
def missedMessage : String := "Frame deadline missed, acquisition stalled"

/-- The messages that only the watch logs. -/
def watchMessages : List String := [degradedMessage, progressMessage, reachedMessage, missedMessage]

section Lines

variable (settings : RunSettings)

/-- The warning that frame number `i` could not be fetched. -/
def degradedLine (i : ℕ) (sequence : ℤ) : LogLine :=
  ⟨.warn, RunEvent.runSource, degradedMessage,
    [("frame", toString i), ("sequence", toString sequence)], []⟩

/-- The line about the progress made with frame number `i`. -/
def progressLine (i : ℕ) : LogLine :=
  ⟨.info, RunEvent.runSource, progressMessage,
    [("frames", toString i), ("target", toString settings.targetFrames)], ["interval_ms"]⟩

/-- The line at the end of a watch that has its `n` frames. -/
def reachedLine (n : ℕ) : LogLine :=
  ⟨.info, RunEvent.runSource, reachedMessage, [("frames", toString n)], []⟩

/-- The line at the end of a watch that waited for the frame after `n` others in vain. -/
def missedLine (n : ℕ) : LogLine :=
  ⟨.error, RunEvent.runSource, missedMessage,
    [("frame_index", toString (n + 1)), ("frames_acquired", toString n),
      ("deadline", settings.frameDeadline.brief)], ["since_last_frame"]⟩

/-- The lines about frame number `i`. -/
def frameLines (i : ℕ) (d : FrameDescriptor) : List LogLine :=
  (if d.degraded then [degradedLine i d.sequence] else []) ++
    if 0 < settings.progressEvery ∧ settings.progressEvery ∣ i then [progressLine settings i]
    else []

/-- The lines about these frames, the first of which follows `n` others. -/
def frameTrace (n : ℕ) (frames : List FrameDescriptor) : List LogLine :=
  (frames.zipIdx (n + 1)).flatMap fun x => frameLines settings x.2 x.1

/-- The line at the end of a watch with that verdict on `n` frames. -/
def closingLine (n : ℕ) : Verdict → LogLine
  | .completed => reachedLine n
  | _ => missedLine settings n

theorem frameTrace_cons (n : ℕ) (d : FrameDescriptor) (frames : List FrameDescriptor) :
    frameTrace settings n (d :: frames) =
      frameLines settings (n + 1) d ++ frameTrace settings (n + 1) frames := by
  unfold frameTrace
  rw [List.zipIdx_cons, List.flatMap_cons]

theorem isDue_iff {every i : ℕ} : Watch.isDue every i = true ↔ 0 < every ∧ every ∣ i := by
  unfold Watch.isDue
  rw [Bool.and_eq_true, decide_eq_true_eq, beq_iff_eq, Nat.dvd_iff_mod_eq_zero]

theorem line_reportSteps (i : ℕ) (d : FrameDescriptor) :
    (logged (reportSteps settings i d)).map RunEvent.line = frameLines settings i d := by
  unfold reportSteps frameLines
  rw [logged_append, List.map_append]
  congr 1
  · split <;> rfl
  · by_cases hdue : Watch.isDue settings.progressEvery i = true
    · rw [if_pos hdue, if_pos (isDue_iff.mp hdue)]
      rfl
    · rw [if_neg hdue, if_neg (mt isDue_iff.mpr hdue)]
      rfl

theorem line_takenSteps (n : ℕ) (frames : List FrameDescriptor) :
    (logged (takenSteps settings n frames)).map RunEvent.line = frameTrace settings n frames := by
  induction frames generalizing n with
  | nil => rfl
  | cons d frames ih =>
    have hwaited : logged (takenSteps settings n (d :: frames)) =
        logged (reportSteps settings (n + 1) d) ++ logged (takenSteps settings (n + 1) frames) :=
      logged_append (reportSteps settings (n + 1) d) _
    rw [hwaited, List.map_append, line_reportSteps, ih, frameTrace_cons]

theorem line_endSteps (n : ℕ) (reached : Bool) :
    (logged (endSteps settings n reached)).map RunEvent.line =
      [closingLine settings n (watchVerdict n reached)] := by
  cases reached <;> rfl

/-- The lines of a watch that takes these frames. -/
theorem line_watchSteps (source : Phase) (frames : List FrameDescriptor) {v : Verdict}
    (hv : v = watchVerdict frames.length (frames.length = settings.targetFrames)) :
    (logged (watchSteps settings source frames)).map RunEvent.line =
      (RunEvent.transition source .acquiring).line :: (frameTrace settings 0 frames ++
        [closingLine settings frames.length v, (RunEvent.transition .acquiring v.phase).line]) := by
  have hphase : watchPhase (frames.length = settings.targetFrames) = v.phase := by
    rw [hv]
    unfold watchPhase watchVerdict
    split <;> rfl
  unfold watchSteps
  rw [← List.singleton_append, logged_append, logged_append, logged_append, List.map_append,
    List.map_append, List.map_append, line_takenSteps, line_endSteps, ← hv, hphase,
    List.append_assoc]
  rfl

end Lines

/-! ## Lines that the watch does not log -/

namespace RunEvent

/-- Whether the event is one that the watch logs. -/
def isWatch : RunEvent → Bool
  | fetchFailed .. | progress .. | targetReached _ | deadlineMissed .. => true
  | _ => false

theorem mem_watchMessages_iff {e : RunEvent} :
    e.line.message ∈ watchMessages ↔ e.isWatch = true := by
  cases e <;> simp [line, isWatch, watchMessages, degradedMessage, progressMessage, reachedMessage,
    missedMessage]

theorem transition_not_mem (source target : Phase) :
    (transition source target).line.message ∉ watchMessages := by
  rw [mem_watchMessages_iff]
  exact Bool.false_ne_true

end RunEvent

theorem isWatch_standing (settings : RunSettings) (logsOpening : Bool) (path : SetupPath) :
    ∀ e ∈ logged (path.standing settings logsOpening).trail, e.isWatch = false := by
  have hall : (logged (path.standing settings logsOpening).trail).all (!·.isWatch) = true := by
    cases path <;> cases logsOpening <;> rfl
  simpa using hall

theorem RunEvent.isWatch_of_isTeardown {e : RunEvent} (h : e.isTeardown = true) :
    e.isWatch = false := by
  cases e <;> first | rfl | cases h

/-! ## How many lines there are -/

/-- How many lines have a message. -/
def countMessage (message : String) (lines : List LogLine) : ℕ :=
  lines.countP fun l => l.message = message

section Counts

variable (settings : RunSettings) {message : String} {lines : List LogLine}

@[simp] theorem countMessage_append (xs ys : List LogLine) :
    countMessage message (xs ++ ys) = countMessage message xs + countMessage message ys :=
  List.countP_append

@[simp] theorem countMessage_cons (l : LogLine) (lines : List LogLine) :
    countMessage message (l :: lines) =
      countMessage message lines + if l.message = message then 1 else 0 := by
  unfold countMessage
  rw [List.countP_cons]
  simp

theorem countMessage_eq_zero (hmessage : message ∈ watchMessages)
    (h : ∀ l ∈ lines, l.message ∉ watchMessages) : countMessage message lines = 0 := by
  refine List.countP_eq_zero.mpr fun l hl heq => h l hl ?_
  rwa [of_decide_eq_true heq]

/-- One warning for every degraded frame. -/
theorem countMessage_degraded (n : ℕ) (frames : List FrameDescriptor) :
    countMessage degradedMessage (frameTrace settings n frames) =
      frames.countP (·.degraded) := by
  induction frames generalizing n with
  | nil => rfl
  | cons d frames ih =>
    have hprogress : ¬ progressMessage = degradedMessage := by decide
    rw [frameTrace_cons, countMessage_append, ih, List.countP_cons, Nat.add_comm]
    congr 1
    unfold frameLines
    rw [countMessage_append]
    split <;> split <;> simp_all [countMessage, degradedLine, progressLine]

/-- One line about progress whenever the number of frames is a multiple. -/
theorem countMessage_progress (n : ℕ) (frames : List FrameDescriptor) :
    n / settings.progressEvery +
        countMessage progressMessage (frameTrace settings n frames) =
      (n + frames.length) / settings.progressEvery := by
  induction frames generalizing n with
  | nil => rfl
  | cons d frames ih =>
    have hdegraded : ¬ degradedMessage = progressMessage := by decide
    -- the quotient grows by one just where a line is due
    have hone : countMessage progressMessage (frameLines settings (n + 1) d) =
        if settings.progressEvery ∣ n + 1 then 1 else 0 := by
      have hpos : settings.progressEvery ∣ n + 1 → 0 < settings.progressEvery := fun hdvd =>
        Nat.pos_of_dvd_of_pos hdvd n.succ_pos
      unfold frameLines
      simp only [and_iff_right_of_imp hpos, countMessage_append]
      split <;> split <;> simp_all [countMessage, degradedLine, progressLine]
    rw [frameTrace_cons, countMessage_append, hone, ← Nat.add_assoc, ← Nat.succ_div, ih,
      List.length_cons]
    congr 1
    omega

end Counts

/-! ## Whole runs -/

/-- The log of a run that took these frames. -/
structure WatchLog (settings : RunSettings) (o : Outcome) (frames : List FrameDescriptor)
    (lines : List LogLine) : Prop where
  acquired : o.framesAcquired = frames.length
  /-- Between the change to the phase of the watch and the change to the next phase there are the
  lines about the frames in their order and then the line about the end, and nothing else. No line
  before or after is one of the watch. -/
  trace : ∃ before after, lines = before ++
      (RunEvent.transition .configured .acquiring).line :: (frameTrace settings 0 frames ++
        closingLine settings frames.length o.verdict ::
          (RunEvent.transition .acquiring o.verdict.phase).line :: after) ∧
    ∀ l ∈ before ++ after, l.message ∉ watchMessages
  warnings : countMessage degradedMessage lines = o.degradedFrames
  progress : countMessage progressMessage lines = frames.length / settings.progressEvery
  silent : settings.progressEvery = 0 → countMessage progressMessage lines = 0
  closing : lines.filter (fun l => l.message = reachedMessage ∨ l.message = missedMessage) =
    [closingLine settings frames.length o.verdict]
  judged : o.verdict = .completed ∨ o.verdict = .stalled (frames.length + 1)
  completed : reachedLine frames.length ∈ lines ↔ o.verdict = .completed
  stalled : missedLine settings frames.length ∈ lines ↔ o.verdict = .stalled (frames.length + 1)

theorem message_frameTrace {settings : RunSettings} (n : ℕ) (frames : List FrameDescriptor) :
    ∀ l ∈ frameTrace settings n frames,
      l.message = degradedMessage ∨ l.message = progressMessage := by
  intro l hl
  obtain ⟨x, -, hl⟩ := List.mem_flatMap.mp hl
  rcases List.mem_append.mp hl with hl | hl
  · split at hl
    · rw [List.mem_singleton.mp hl]
      exact .inl rfl
    · cases hl
  · split at hl
    · rw [List.mem_singleton.mp hl]
      exact .inr rfl
    · cases hl

theorem closingLine_of_ne (settings : RunSettings) (n : ℕ) {v : Verdict} (hv : v ≠ .completed) :
    closingLine settings n v = missedLine settings n := by
  cases v with
  | completed => exact absurd rfl hv
  | stalled | setupFailed => rfl

/-- Whether the line is one at the end of a watch. -/
def LogLine.isClosing (l : LogLine) : Bool :=
  l.message = reachedMessage ∨ l.message = missedMessage

section Trace

variable {settings : RunSettings} {n : ℕ} {v : Verdict} {before trace after : List LogLine}
  {first last : LogLine} {message : String}

theorem isClosing_closingLine (settings : RunSettings) (n : ℕ) (v : Verdict) :
    (closingLine settings n v).isClosing = true := by
  cases v <;> rfl

theorem reachedLine_eq_iff : reachedLine n = closingLine settings n v ↔ v = .completed := by
  refine ⟨fun heq => by_contra fun hv => ?_, fun hv => by rw [hv]; rfl⟩
  rw [closingLine_of_ne settings n hv] at heq
  exact absurd (congrArg LogLine.message heq) (by show ¬ reachedMessage = missedMessage; decide)

theorem missedLine_eq_iff : missedLine settings n = closingLine settings n v ↔ v ≠ .completed := by
  refine ⟨fun heq hv => ?_, fun hv => (closingLine_of_ne settings n hv).symm⟩
  rw [hv] at heq
  exact absurd (congrArg LogLine.message heq) (by show ¬ missedMessage = reachedMessage; decide)

/-- What the line at the end does not say is said as often in the whole as in the middle. -/
theorem countMessage_trace (hmessage : message = degradedMessage ∨ message = progressMessage)
    (hother : ∀ l ∈ before ++ first :: last :: after, l.message ∉ watchMessages) :
    countMessage message (before ++ first :: (trace ++ closingLine settings n v :: last :: after)) =
      countMessage message trace := by
  have hwatch : message ∈ watchMessages := by
    rcases hmessage with rfl | rfl <;> decide
  have hnone := countMessage_eq_zero hwatch hother
  have hclosing : ¬ (closingLine settings n v).message = message := by
    intro heq
    have hcloses := isClosing_closingLine settings n v
    rw [LogLine.isClosing, heq] at hcloses
    rcases hmessage with rfl | rfl <;> exact absurd hcloses (by decide)
  rw [countMessage_append, countMessage_cons, countMessage_cons] at hnone
  rw [countMessage_append, countMessage_cons, countMessage_append, countMessage_cons,
    countMessage_cons, if_neg hclosing]
  omega

theorem filter_trace (htrace : ∀ l ∈ trace, l.isClosing = false)
    (hother : ∀ l ∈ before ++ first :: last :: after, l.message ∉ watchMessages) :
    (before ++ first :: (trace ++ closingLine settings n v :: last :: after)).filter
      LogLine.isClosing = [closingLine settings n v] := by
  have hopen : ∀ l ∈ before ++ first :: last :: after, ¬ l.isClosing = true := fun l hl hclosing =>
    hother l hl (by
      rcases of_decide_eq_true hclosing with hmessage | hmessage <;> rw [hmessage] <;> decide)
  simp only [List.mem_append, List.mem_cons] at hopen
  rw [List.filter_append, List.filter_cons_of_neg (hopen first (by simp)), List.filter_append,
    List.filter_cons_of_pos (isClosing_closingLine settings n v),
    List.filter_cons_of_neg (hopen last (by simp)),
    List.filter_eq_nil_iff.mpr fun l hl => hopen l (.inl hl),
    List.filter_eq_nil_iff.mpr fun l hl => hopen l (.inr (.inr (.inr hl))),
    List.filter_eq_nil_iff.mpr fun l hl => by rw [htrace l hl]; exact Bool.false_ne_true]
  rfl

end Trace

namespace RunCourse

variable {σ : Type} {rig : Rig σ} {settings : RunSettings} {s₀ s : RunState σ} {o : Outcome}
  {path : SetupPath} {taken : List (FrameDescriptor × Duration)} {f : TeardownFailures}

/-- The lines of a run whose setup succeeds. -/
theorem lines_eq (h : RunCourse rig settings s₀ o s path taken f) (hpath : path.error? = none) :
    ∃ before after, s.events.map RunEvent.line = before ++
        (RunEvent.transition .configured .acquiring).line ::
          (frameTrace settings 0 (taken.map Prod.fst) ++
            closingLine settings taken.length o.verdict ::
              (RunEvent.transition .acquiring o.verdict.phase).line :: after) ∧
      ∀ l ∈ before ++ after, l.message ∉ watchMessages := by
  obtain ⟨gaps, hgaps, hevents⟩ := h.events_eq
  obtain ⟨torn, htorn, hteardown⟩ :=
    (path.standing settings rig.logsOpening).logged_teardown f
  have hdriven : path.drivenSteps settings (taken.map Prod.fst) .configured =
      watchSteps settings .configured (taken.map Prod.fst) := by
    unfold SetupPath.drivenSteps
    rw [hpath]
  have hwatched := line_watchSteps settings .configured (taken.map Prod.fst) (v := o.verdict)
    (by rw [List.length_map]; exact h.verdict_of_none hpath)
  rw [List.length_map] at hwatched
  rw [path.phase_standing_of_none settings _ hpath, hdriven, htorn] at hevents
  refine ⟨(logged (path.standing settings rig.logsOpening).trail).map RunEvent.line,
    (torn ++ .tornDown :: .transition o.verdict.phase .stopped :: gaps).map RunEvent.line, ?_, ?_⟩
  · rw [hevents]
    simp only [List.map_append, hwatched, List.append_assoc, List.cons_append, List.nil_append,
      List.map_cons]
  · -- the rest comes from setup, teardown and the gaps that are told last
    rw [← List.map_append]
    intro l hl
    obtain ⟨e, he, rfl⟩ := List.mem_map.mp hl
    rw [RunEvent.mem_watchMessages_iff, Bool.not_eq_true]
    rcases List.mem_append.mp he with he | he
    · exact isWatch_standing settings _ path e he
    · rcases List.mem_append.mp he with he | he
      · exact RunEvent.isWatch_of_isTeardown (hteardown e he).1
      · rcases List.mem_cons.mp he with rfl | he
        · rfl
        · rcases List.mem_cons.mp he with rfl | he
          · rfl
          · obtain ⟨gaps, lost, rfl⟩ := hgaps e he
            rfl

theorem watchLog (h : RunCourse rig settings s₀ o s path taken f) (hpath : path.error? = none) :
    WatchLog settings o (taken.map Prod.fst) (s.events.map RunEvent.line) := by
  have hjudged : o.verdict = .completed ∨ o.verdict = .stalled (taken.length + 1) :=
    (h.verdict_cases hpath).imp And.right And.right
  have hdegraded : o.degradedFrames = (taken.map Prod.fst).countP (·.degraded) := by
    rw [h.degraded, List.countP_map]
    rfl
  obtain ⟨before, after, hlines, hother⟩ := h.lines_eq hpath
  have hlength : taken.length = (taken.map Prod.fst).length := by rw [List.length_map]
  have hframes := h.frames
  rw [hlength] at hjudged hlines hframes
  generalize taken.map Prod.fst = frames at hdegraded hjudged hlines hframes ⊢
  have hother' : ∀ l ∈ before ++ (RunEvent.transition .configured .acquiring).line ::
      (RunEvent.transition .acquiring o.verdict.phase).line :: after,
      l.message ∉ watchMessages := by
    rw [List.forall_mem_append, List.forall_mem_cons, List.forall_mem_cons]
    rw [List.forall_mem_append] at hother
    exact ⟨hother.1, RunEvent.transition_not_mem _ _, RunEvent.transition_not_mem _ _, hother.2⟩
  have hprogress : countMessage progressMessage (s.events.map RunEvent.line) =
      frames.length / settings.progressEvery := by
    have hcount := countMessage_progress settings 0 frames
    rw [Nat.zero_div, Nat.zero_add, Nat.zero_add] at hcount
    rw [hlines, countMessage_trace (.inr rfl) hother', hcount]
  have hclosing : (s.events.map RunEvent.line).filter LogLine.isClosing =
      [closingLine settings frames.length o.verdict] := by
    rw [hlines]
    refine filter_trace (fun l hl => ?_) hother'
    rcases message_frameTrace 0 frames l hl with hmessage | hmessage <;>
      rw [LogLine.isClosing, hmessage] <;> decide
  refine ⟨hframes, ⟨before, after, hlines, hother⟩, ?warnings, hprogress, fun hzero => ?silent,
    hclosing, hjudged, ?completed, ?stalled⟩
  case warnings =>
    rw [hdegraded, ← countMessage_degraded settings 0, hlines,
      countMessage_trace (.inl rfl) hother']
  case silent =>
    rw [hprogress, hzero, Nat.div_zero]
  case completed =>
    have hmem : reachedLine frames.length ∈ s.events.map RunEvent.line ↔
        reachedLine frames.length ∈ (s.events.map RunEvent.line).filter LogLine.isClosing := by
      rw [List.mem_filter, and_iff_left (show (reachedLine _).isClosing = true from rfl)]
    rw [hmem, hclosing, List.mem_singleton, reachedLine_eq_iff]
  case stalled =>
    have hmem : missedLine settings frames.length ∈ s.events.map RunEvent.line ↔
        missedLine settings frames.length ∈
          (s.events.map RunEvent.line).filter LogLine.isClosing := by
      rw [List.mem_filter, and_iff_left (show (missedLine _ _).isClosing = true from rfl)]
    rw [hmem, hclosing, List.mem_singleton, missedLine_eq_iff]
    rcases hjudged with hv | hv <;> simp [hv]

end RunCourse

/-- **The log of the watch.** A run whose setup succeeds logs, between the changes to the phase of
its watch and to the next one, the lines about its frames one after the other and then how the watch
ended, and none of these lines anywhere else. -/
theorem Runner.watch_log {σ : Type} (rig : Rig σ) (r : Runner σ) (number : ℕ)
    (hstarts : Starts (r.run rig number).2.1.past.toList) :
    WatchLog r.settings (r.run rig number).1 (deliveries (r.run rig number).2.1.mailboxEvents)
      ((r.run rig number).2.1.events.map RunEvent.line) := by
  obtain ⟨path, taken, f, hcourse⟩ := r.run_course rig number
  rw [hcourse.deliveries_eq]
  exact hcourse.watchLog (hcourse.starts_iff.mp hstarts)

/-- A camera that announces a frame that cannot be fetched as it starts, one more when that is
logged, and another one that cannot be fetched when progress is logged. -/
def Script.chatty : Script :=
  .ofReplies ⟨.ok ⟨1⟩, .ok 0, .ok 16, .ok (), .ok (), .ok (), .ok (), .ok (), none⟩
    [⟨1, 0, .failed, false, false⟩]
    [[⟨2, 1, .offset 16, false, false⟩], [⟨3, 2, .failed, false, false⟩]] [] [] []

namespace Runner

/-- Every second frame of that camera is logged. -/
def chatty : Runner Script := fresh { RunSettings.standard with progressEvery := 2 } .chatty

/-- A run on that camera. -/
def chat : Outcome × RunState Script × Runner Script :=
  chatty.run (Script.rig fun _ => some 4096) 1

theorem watch_log_chatty :
    Starts chat.2.1.past.toList ∧
      WatchLog chatty.settings chat.1 (deliveries chat.2.1.mailboxEvents)
        (chat.2.1.events.map RunEvent.line) ∧
      (deliveries chat.2.1.mailboxEvents).map (·.degraded) = [true, false, true] ∧
      chat.1.verdict = .stalled 4 := by
  have hstarts : Starts chat.2.1.past.toList := ⟨⟨1⟩, 320, by decide +kernel⟩
  have hlog := watch_log (Script.rig fun _ => some 4096) chatty 1
  rw [show chatty.run (Script.rig fun _ => some 4096) 1 = chat from rfl] at hlog
  exact ⟨hstarts, hlog hstarts, by decide +kernel, by decide +kernel⟩

end Runner

end FrameWatch
