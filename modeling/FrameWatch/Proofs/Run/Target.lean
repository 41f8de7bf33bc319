import FrameWatch.Proofs.Run.Blame
import FrameWatch.Proofs.Run.Upkeep
import FrameWatch.Proofs.Run.Verdict
import FrameWatch.Run.Script

/-!
# Fewer frames

A run that wants fewer frames than another one, and that the same frames come to, is the beginning
of the other one: it waits, takes and stalls as the other one does, until it has as many frames as
it wants.

1. `MailboxEvent.batches`: the frames that are put in before each wait. The wait takes the last of
   them (`MailboxHistory.taken_eq`), so that runs which face the same frames (`Faces`) concur in how
   their waits end, as far as both wait (`Faces.concur`).
2. `PrefixLaw` follows where the waits concur (`RunCourse.prefixLaw`).
3. `Rig.IgnoresTarget`: on a camera that does not look at how many frames are wanted, the two runs
   go side by side until the shorter one is done (`Watch.waits_frames`), so that their waits concur
   as well. `Runner.prefix_law` states the law for both kinds of runs.
-/

namespace FrameWatch

open MailboxEvent

variable {σ τ α : Type}

/-! ## The frames before each wait -/

namespace MailboxEvent

/-- The frames put in before each wait so far, and those put in since the last one. -/
def sort (sorted : List (List FrameDescriptor) × List FrameDescriptor) :
    MailboxEvent → List (List FrameDescriptor) × List FrameDescriptor
  | signalled d => (sorted.1, sorted.2 ++ [d])
  | fired _ | timedOut => (sorted.1 ++ [sorted.2], [])
  | reset => (sorted.1, [])

/-- The frames put in before each wait, since the wait before it. -/
def batches (es : List MailboxEvent) : List (List FrameDescriptor) := (es.foldl sort ([], [])).1

/-- The frames put in since the last wait. -/
def unfinished (es : List MailboxEvent) : List FrameDescriptor := (es.foldl sort ([], [])).2

theorem batches_concat (es : List MailboxEvent) (e : MailboxEvent) :
    batches (es ++ [e]) = (sort (batches es, unfinished es) e).1 := by
  unfold batches unfinished
  rw [List.foldl_append]
  rfl

theorem unfinished_concat (es : List MailboxEvent) (e : MailboxEvent) :
    unfinished (es ++ [e]) = (sort (batches es, unfinished es) e).2 := by
  unfold batches unfinished
  rw [List.foldl_append]
  rfl

end MailboxEvent

namespace MailboxHistory

variable {es : List MailboxEvent} {m : Mailbox}

/-- Whatever waits in the mailbox has come since the last wait. -/
theorem pending_eq (h : MailboxHistory es m) : m.pending? = (unfinished es).getLast? := by
  induction h with
  | start => rfl
  | signal _ d => rw [unfinished_concat, Mailbox.pending?_signal]; exact List.getLast?_concat.symm
  | @wait es m =>
    rw [unfinished_concat, Mailbox.pending?_take]
    cases m.take.1 <;> rfl
  | reset => rw [unfinished_concat]; rfl

/-- A wait takes the last frame put in since the wait before it. -/
theorem taken_eq (h : MailboxHistory es m) :
    es.filterMap taken? = (batches es).map List.getLast? := by
  induction h with
  | start => rfl
  | signal _ d ih =>
    rw [List.filterMap_append, ih, batches_concat]
    exact List.append_nil _
  | @wait es m h ih =>
    have htaken : [ofTaken m.take.1].filterMap taken? = [m.take.1] := by
      cases m.take.1 <;> rfl
    have hbatches : batches (es ++ [ofTaken m.take.1]) = batches es ++ [unfinished es] := by
      rw [batches_concat]
      cases m.take.1 <;> rfl
    rw [List.filterMap_append, ih, htaken, hbatches, Mailbox.take_fst, h.pending_eq,
      List.map_append]
    rfl
  | reset _ ih =>
    rw [List.filterMap_append, ih, batches_concat]
    exact List.append_nil _

end MailboxHistory

/-- The frames `env 0` come before the first wait ends, and `env n` between wait number `n`, counted
from 1, and the next one. -/
def Faces (env : ℕ → List FrameDescriptor) (es : List MailboxEvent) : Prop :=
  batches es = (List.range (batches es).length).map env

instance (env : ℕ → List FrameDescriptor) (es : List MailboxEvent) : Decidable (Faces env es) :=
  inferInstanceAs (Decidable (_ = _))

/-- The lists are the same as far as both reach. -/
def Concur (xs ys : List α) : Prop := ∀ (i : ℕ) (x y : α), xs[i]? = some x → ys[i]? = some y → x = y

theorem Concur.of_front {xs ys : List α} (h : xs <+: ys) : Concur xs ys := by
  intro i x y hx hy
  obtain ⟨rest, rfl⟩ := h
  rw [List.getElem?_append_left (List.getElem?_eq_some_iff.mp hx).1, hx] at hy
  exact Option.some.inj hy

namespace Faces

variable {env : ℕ → List FrameDescriptor} {es es' : List MailboxEvent} {m m' : Mailbox}

theorem eq_env (h : Faces env es) {i : ℕ} {batch : List FrameDescriptor}
    (hi : (batches es)[i]? = some batch) : batch = env i := by
  rw [h, List.getElem?_map] at hi
  obtain ⟨j, hj, rfl⟩ := Option.map_eq_some_iff.mp hi
  obtain ⟨hi, rfl⟩ := List.getElem?_eq_some_iff.mp hj
  rw [List.getElem_range]

/-- Waits that face the same frames end alike. -/
theorem concur (h : Faces env es) (h' : Faces env es') (hes : MailboxHistory es m)
    (hes' : MailboxHistory es' m') :
    Concur (es'.filterMap taken?) (es.filterMap taken?) := by
  intro i x y hx hy
  rw [hes'.taken_eq, List.getElem?_map] at hx
  rw [hes.taken_eq, List.getElem?_map] at hy
  obtain ⟨batch', hbatch', rfl⟩ := Option.map_eq_some_iff.mp hx
  obtain ⟨batch, hbatch, rfl⟩ := Option.map_eq_some_iff.mp hy
  rw [h.eq_env hbatch, h'.eq_env hbatch']

end Faces

/-! ## Waits that concur -/

section Waits

/-- How the waits of a watch for `target` frames end that takes these frames. -/
def watchWaits (target : ℕ) (taken : List FrameDescriptor) : List (Option FrameDescriptor) :=
  taken.map some ++ lastWait (taken.length = target)

theorem getElem?_watchWaits (target : ℕ) {taken : List FrameDescriptor} {i : ℕ}
    (hi : i < taken.length) : (watchWaits target taken)[i]? = some (some taken[i]) := by
  unfold watchWaits
  rw [List.getElem?_append_left (by simpa using hi), List.getElem?_map,
    List.getElem?_eq_getElem hi]
  rfl

/-- A watch that misses its target has waited once more than it has taken frames. -/
theorem getElem?_watchWaits_length {target : ℕ} {taken : List FrameDescriptor}
    (hmissed : taken.length ≠ target) : (watchWaits target taken)[taken.length]? = some none := by
  unfold watchWaits lastWait
  rw [decide_eq_false hmissed, List.getElem?_append_right (by simp)]
  simp

variable {fewer target : ℕ} {taken taken' : List FrameDescriptor} (hle : fewer ≤ target)
  (hshort : taken'.length ≤ fewer) (h : Concur (watchWaits fewer taken') (watchWaits target taken))

include hle hshort h

/-- The shorter watch takes frames until it has as many as it wants or the longer one stalls. -/
theorem length_eq_min_of_concur : taken'.length = min fewer taken.length := by
  -- where one watch has waited in vain, the other one cannot have taken a frame
  have hlonger : taken'.length ≤ taken.length := by
    by_contra hlt
    have hmissed : taken.length ≠ target := by omega
    cases h _ _ _ (getElem?_watchWaits fewer (Nat.lt_of_not_le hlt))
      (getElem?_watchWaits_length hmissed)
  have hreached : taken'.length = fewer ∨ taken.length ≤ taken'.length := by
    by_contra hlt
    rw [not_or] at hlt
    cases h _ _ _ (getElem?_watchWaits_length hlt.1)
      (getElem?_watchWaits target (Nat.lt_of_not_le hlt.2))
  omega

/-- It takes the same frames. -/
theorem eq_take_of_concur : taken' = taken.take taken'.length := by
  have hlength := length_eq_min_of_concur hle hshort h
  refine List.ext_getElem (by rw [List.length_take]; omega) fun i hi _ => ?_
  have hi' : i < taken.length := by omega
  have hsame := h i _ _ (getElem?_watchWaits fewer hi) (getElem?_watchWaits target hi')
  rw [List.getElem_take]
  exact Option.some.inj hsame

/-- It waits as the longer one does. -/
theorem prefix_of_concur : watchWaits fewer taken' <+: watchWaits target taken := by
  have hlength := length_eq_min_of_concur hle hshort h
  have htake := eq_take_of_concur hle hshort h
  by_cases hreached : taken'.length = fewer
  · have hfront : taken' <+: taken := List.prefix_iff_eq_take.mpr htake
    have hdone : watchWaits fewer taken' = taken'.map some := by
      unfold watchWaits
      rw [decide_eq_true hreached]
      exact List.append_nil _
    rw [hdone]
    exact (hfront.map some).trans (List.prefix_append _ _)
  · have hall : taken'.length = taken.length := by omega
    obtain rfl : taken' = taken := by rw [htake, hall, List.take_length]
    have hsame : watchWaits fewer taken' = watchWaits target taken' := by
      unfold watchWaits
      rw [decide_eq_false hreached, decide_eq_false (by omega)]
    exact hsame ▸ List.prefix_rfl

end Waits

/-! ## The prefix law -/

/-- The law of a run that wants `fewer` frames and ends in `s'`, next to one that ends in `s`. -/
structure PrefixLaw (fewer : ℕ) (o : Outcome) (s : RunState σ) (o' : Outcome) (s' : RunState τ) :
    Prop where
  acquired : o'.framesAcquired = min fewer o.framesAcquired
  consumed :
    deliveries s'.mailboxEvents = (deliveries s.mailboxEvents).take o'.framesAcquired
  completed : o'.verdict = .completed ↔ fewer ≤ o.framesAcquired
  stalled : ∀ frame, o'.verdict = .stalled frame → o.verdict = .stalled frame
  /-- No wait is made besides those of the other run. -/
  waits : waits s'.past.toList <+: waits s.past.toList

namespace RunCourse

variable {rig : Rig σ} {rig' : Rig τ} {settings settings' : RunSettings} {s₀ s : RunState σ}
  {s₀' s' : RunState τ} {o o' : Outcome} {path path' : SetupPath}
  {taken taken' : List (FrameDescriptor × Duration)} {f f' : TeardownFailures}

theorem waits_eq_watchWaits (h : RunCourse rig settings s₀ o s path taken f)
    (hstarts : Starts s.past.toList) :
    waits s.past.toList = watchWaits settings.targetFrames (taken.map Prod.fst) := by
  rw [h.waits_eq, h.waits_driven, h.starts_iff.mp hstarts]
  unfold watchWaits
  rw [List.length_map]

/-- The law holds where the waits concur. -/
theorem prefixLaw (h : RunCourse rig settings s₀ o s path taken f)
    (h' : RunCourse rig' settings' s₀' o' s' path' taken' f')
    (hle : settings'.targetFrames ≤ settings.targetFrames) (hstarts : Starts s.past.toList)
    (hstarts' : Starts s'.past.toList)
    (hconcur : Concur (waits s'.past.toList) (waits s.past.toList)) :
    PrefixLaw settings'.targetFrames o s o' s' := by
  have hwaits := h.waits_eq_watchWaits hstarts
  have hwaits' := h'.waits_eq_watchWaits hstarts'
  rw [hwaits, hwaits'] at hconcur
  have hshort : (taken'.map Prod.fst).length ≤ settings'.targetFrames := by
    rw [List.length_map]
    exact h'.short
  have hlength := length_eq_min_of_concur hle hshort hconcur
  have htake := eq_take_of_concur hle hshort hconcur
  simp only [List.length_map] at hlength htake
  have hverdict := h.verdict_cases (h.starts_iff.mp hstarts)
  have hverdict' := h'.verdict_cases (h'.starts_iff.mp hstarts')
  constructor
  case acquired => rw [h.frames, h'.frames, hlength]
  case consumed => rw [h.deliveries_eq, h'.deliveries_eq, h'.frames, htake]
  case completed =>
    rw [h.frames]
    rcases hverdict' with ⟨hn, hv⟩ | ⟨hn, hv⟩
    · exact iff_of_true hv (by omega)
    · exact iff_of_false (by rw [hv]; simp) (by omega)
  case stalled =>
    intro frame hstalled
    rcases hverdict' with ⟨-, hv⟩ | ⟨hn', hv⟩
    · rw [hv] at hstalled; cases hstalled
    · rcases hverdict with ⟨hn, -⟩ | ⟨-, hv'⟩
      · omega
      · rw [← hstalled, hv, hv']
        congr 1
        omega
  case waits =>
    rw [hwaits, hwaits']
    exact prefix_of_concur hle hshort hconcur

end RunCourse

/-! ## The waits of the parts of a run -/

section Parts

theorem RunState.waits_of_trail {s s' : RunState σ} {steps : List RunStep}
    (h : s'.trail = s.trail ++ steps) :
    waits s'.past.toList = waits s.past.toList ++ waits steps := by
  rw [← s'.waits_trail, ← s.waits_trail, h, waits_append]

variable (rig : Rig σ) (settings : RunSettings) (s : RunState σ)

theorem Act.waits_log (e : RunEvent) : waits (log e s).2.past.toList = waits s.past.toList :=
  (RunState.waits_of_trail (congrArg Standing.trail (standing_log s e))).trans (List.append_nil _)

theorem Act.waits_enter (p : Phase) : waits (enter p s).2.past.toList = waits s.past.toList :=
  (RunState.waits_of_trail (congrArg Standing.trail (standing_enter s p))).trans
    (List.append_nil _)

/-- Setup waits for no frame. -/
theorem Setup.waits_steps (hs : s.standing = .fresh) :
    waits (steps rig settings s).2.past.toList = [] := by
  obtain ⟨path, -, -, hst⟩ := steps_path rig settings hs
  have htrail : (steps rig settings s).2.trail = (path.standing settings rig.logsOpening).trail :=
    congrArg Standing.trail hst
  rw [← RunState.waits_trail, htrail, path.waits_standing]

namespace Watch

theorem waits_wait (deadline : Duration) : waits (wait rig deadline s).2.past.toList =
    waits s.past.toList ++ [(wait rig deadline s).1] :=
  RunState.waits_of_trail (congrArg Standing.trail (standing_wait rig s deadline))

theorem waits_reportFrame (n : ℕ) (d : FrameDescriptor) :
    waits (reportFrame rig settings n d s).2.past.toList = waits s.past.toList := by
  have htrail := congrArg Standing.trail (standing_reportFrame rig settings s n d)
  rw [RunState.waits_of_trail htrail, waits_report, List.append_nil]

end Watch

end Parts

/-! ## Cameras that do not look at the target -/

/-- What the camera announces while progress is logged does not depend on how many frames are
wanted. -/
def Rig.IgnoresTarget (rig : Rig σ) : Prop := ∀ frames target target',
  rig.arrivals (.logging (.progress frames target)) =
    rig.arrivals (.logging (.progress frames target'))

/-- What a run is compared by with one that wants another number of frames. -/
abbrev Comparison.same (σ : Type) : Comparison σ σ := .self fun _ => True

theorem Rig.same_holds (rig : Rig σ) : (Comparison.same σ).Holds rig rig := by
  refine Rig.Keeps.holds ?_
  constructor <;> intros <;> trivial

namespace Watch

variable {rig : Rig σ} (hrig : rig.IgnoresTarget) (settings : RunSettings) (target : ℕ)

include hrig

theorem report_progress (frames : ℕ) :
    InStep (.same σ) Eq (report rig (.progress frames settings.targetFrames))
      (report rig (.progress frames target)) := by
  have hdeliver : Act.deliver rig (.logging (.progress frames target)) =
      Act.deliver rig (.logging (.progress frames settings.targetFrames)) := by
    unfold Act.deliver
    rw [hrig frames target settings.targetFrames]
  unfold report
  rw [hdeliver]
  exact (InStep.log _ _).andThen fun _ => rig.same_holds.deliver _

/-- Two watches go side by side until the shorter one is done. -/
theorem waits_frames (fewer more : ℕ) {s s' : RunState σ} (last last' : Duration)
    {p p' : Progress} (hm : s.Matches (.same σ) s')
    (hwaits : waits s'.past.toList = waits s.past.toList) (hp : p'.frames = p.frames) :
    waits (frames rig (settings.wanting target) fewer last' p' s').2.past.toList <+:
      waits (frames rig settings (fewer + more) last p s).2.past.toList := by
  -- before each wait of the shorter watch the states match, after the same waits
  induction fewer generalizing s s' last last' p p' with
  | zero =>
    have hmoves := Act.watches_moves rig (frames_watches rig settings s (0 + more) last p)
    rw [frames_zero, Act.waits_log, hwaits]
    exact hmoves.prefix_past.filterMap _
  | succ fewer ih =>
    rw [Nat.add_right_comm]
    obtain ⟨htaken, hm₁⟩ := (rig.same_holds.wait settings.frameDeadline).step s s' hm trivial
      trivial
    have hwaits₁ : waits (wait rig settings.frameDeadline s').2.past.toList =
        waits (wait rig settings.frameDeadline s).2.past.toList := by
      rw [waits_wait, waits_wait, hwaits, htaken]
    cases hwait : (wait rig settings.frameDeadline s).1 with
    | none =>
      have hwait' : (wait rig (settings.wanting target).frameDeadline s').1 = none :=
        htaken.symm.trans hwait
      rw [frames_of_none rig _ s' last' p' hwait', frames_of_none rig settings s last p hwait,
        Act.waits_log, Act.waits_log]
      exact hwaits₁ ▸ List.prefix_rfl
    | some d =>
      have hwait' : (wait rig (settings.wanting target).frameDeadline s').1 = some d :=
        htaken.symm.trans hwait
      have hreport := rig.same_holds.reportFrame_of_progress settings target (p.frames + 1) d
        (report_progress hrig settings target (p.frames + 1))
      have hm₂ := (hreport.step _ _ hm₁ trivial trivial).2
      have hframes : (progressAt rig last' p' d
          (wait rig (settings.wanting target).frameDeadline s').2).frames = p.frames + 1 :=
        congrArg (· + 1) hp
      rw [frames_of_some rig _ s' last' p' hwait', frames_of_some rig settings s last p hwait]
      refine ih _ _ ?_ ?_ hframes
      · rw [hframes]
        exact hm₂
      · rw [waits_reportFrame, waits_reportFrame]
        exact hwaits₁

end Watch

section Drive

variable {rig : Rig σ} (hrig : rig.IgnoresTarget) (settings : RunSettings) {fewer : ℕ}

include hrig

/-- Where the longer run is set up, so is the shorter one, which waits as the longer one does. -/
theorem Run.waits_drive (hle : fewer ≤ settings.targetFrames) {s : RunState σ}
    (hs : s.standing = .fresh)
    (hok : Act.failure? (Setup.steps rig settings s).1 = none) :
    Act.failure? (Setup.steps rig (settings.wanting fewer) s).1 = none ∧
      waits (drive rig (settings.wanting fewer) s).2.past.toList <+:
        waits (drive rig settings s).2.past.toList := by
  obtain ⟨more, hmore⟩ := Nat.exists_eq_add_of_le hle
  obtain ⟨hagreed, hm⟩ := (rig.same_holds.setup_steps settings fewer).step s s
    (RunState.matches_self trivial) trivial trivial
  cases hlong : (Setup.steps rig settings s).1 with
  | error e => rw [hlong] at hok; cases hok
  | ok began =>
    cases hshort : (Setup.steps rig (settings.wanting fewer) s).1 with
    | error e =>
      replace hagreed : Agreed _ (Setup.steps rig settings s).1
        (Setup.steps rig (settings.wanting fewer) s).1 := hagreed
      rw [hlong, hshort] at hagreed
      cases hagreed
    | ok began' =>
      refine ⟨rfl, ?_⟩
      have hentered := (InStep.enter (c := .same σ) .acquiring).step _ _ hm trivial trivial
      have hwaits : waits (Act.enter .acquiring
          (Setup.steps rig (settings.wanting fewer) s).2).2.past.toList =
          waits (Act.enter .acquiring (Setup.steps rig settings s).2).2.past.toList := by
        rw [Act.waits_enter, Act.waits_enter, Setup.waits_steps rig _ s hs,
          Setup.waits_steps rig _ s hs]
      have hframes := Watch.waits_frames hrig settings fewer fewer more began began' hentered.2
        hwaits (Eq.refl Progress.none.frames)
      rw [← hmore] at hframes
      rw [drive_of_ok rig _ s hshort, drive_of_ok rig settings s hlong]
      dsimp only
      rw [Act.waits_enter, Act.waits_enter]
      exact hframes

end Drive

namespace Runner

variable {rig : Rig σ} (r : Runner σ) (number : ℕ)

/-- The runner with settings that want so many frames. -/
def wanting (target : ℕ) : Runner σ := { r with settings := r.settings.wanting target }

/-- Runs that face the same frames keep the law. -/
theorem prefixLaw_of_faces {rig' : Rig τ} (r' : Runner τ) (number' : ℕ)
    {env : ℕ → List FrameDescriptor} (hle : r'.settings.targetFrames ≤ r.settings.targetFrames)
    (hstarts : Starts (r.run rig number).2.1.past.toList)
    (hstarts' : Starts (r'.run rig' number').2.1.past.toList)
    (hfaces : Faces env (r.run rig number).2.1.mailboxEvents)
    (hfaces' : Faces env (r'.run rig' number').2.1.mailboxEvents) :
    PrefixLaw r'.settings.targetFrames (r.run rig number).1 (r.run rig number).2.1
      (r'.run rig' number').1 (r'.run rig' number').2.1 := by
  obtain ⟨path, taken, f, hcourse⟩ := r.run_course rig number
  obtain ⟨path', taken', f', hcourse'⟩ := r'.run_course rig' number'
  have hconcur := hfaces.concur hfaces'
    (hcourse.moves.history (RunState.keepsHistory_initial r.rig r.mailbox))
    (hcourse'.moves.history (RunState.keepsHistory_initial r'.rig r'.mailbox))
  rw [RunState.waits_eq, RunState.waits_eq] at hconcur
  exact hcourse.prefixLaw hcourse' hle hstarts hstarts' hconcur

/-- So do runs on the same camera, if it does not look at how many frames are wanted. -/
theorem prefixLaw_of_ignores (hrig : rig.IgnoresTarget) {fewer : ℕ}
    (hle : fewer ≤ r.settings.targetFrames)
    (hstarts : Starts (r.run rig number).2.1.past.toList) :
    PrefixLaw fewer (r.run rig number).1 (r.run rig number).2.1
      ((r.wanting fewer).run rig number).1 ((r.wanting fewer).run rig number).2.1 := by
  obtain ⟨path, taken, f, hcourse⟩ := r.run_course rig number
  obtain ⟨path', taken', f', hcourse'⟩ := (r.wanting fewer).run_course rig number
  have hok := hcourse.setup_error.trans (hcourse.starts_iff.mp hstarts)
  obtain ⟨hok', hwaits⟩ := Run.waits_drive hrig r.settings hle rfl hok
  have hstarts' := hcourse'.starts_iff.mpr (hcourse'.setup_error.symm.trans hok')
  have hfront : waits ((r.wanting fewer).run rig number).2.1.past.toList <+:
      waits (r.run rig number).2.1.past.toList := by
    rw [hcourse.waits_eq, hcourse'.waits_eq]
    exact hwaits
  exact hcourse.prefixLaw hcourse' hle hstarts hstarts' (.of_front hfront)

/-- **The prefix law.** Where the camera is started, a run that wants fewer frames is the beginning
of the one that wants more, if the same frames come to both before each wait. They do on a camera
that does not look at how many frames are wanted. -/
theorem prefix_law (rig : Rig σ) (r : Runner σ) (number : ℕ)
    (hstarts : Starts (r.run rig number).2.1.past.toList) :
    (∀ (rig' : Rig τ) (r' : Runner τ) (number' : ℕ) (env : ℕ → List FrameDescriptor),
      r'.settings.targetFrames ≤ r.settings.targetFrames →
      Starts (r'.run rig' number').2.1.past.toList →
      Faces env (r.run rig number).2.1.mailboxEvents →
      Faces env (r'.run rig' number').2.1.mailboxEvents →
      PrefixLaw r'.settings.targetFrames (r.run rig number).1 (r.run rig number).2.1
        (r'.run rig' number').1 (r'.run rig' number').2.1) ∧
    ∀ fewer ≤ r.settings.targetFrames, rig.IgnoresTarget →
      PrefixLaw fewer (r.run rig number).1 (r.run rig number).2.1
        ((r.wanting fewer).run rig number).1 ((r.wanting fewer).run rig number).2.1 :=
  ⟨fun _ r' number' _ hle hstarts' hfaces hfaces' =>
      r.prefixLaw_of_faces number r' number' hle hstarts hstarts' hfaces hfaces',
    fun _ hle hrig => r.prefixLaw_of_ignores number hrig hle hstarts⟩

end Runner

namespace Script

/-- A camera that announces two frames as it starts, one that cannot be fetched once the first
progress is logged, and two more when so much is said about that one. -/
def hasty : Script :=
  .ofReplies ⟨.ok ⟨1⟩, .ok 0, .ok 16, .ok (), .ok (), .ok (), .ok (), .ok (), none⟩
    [⟨1, 0, .offset 0, false, false⟩, ⟨2, 1, .offset 16, false, false⟩]
    [[⟨3, 2, .failed, false, false⟩], [],
      [⟨4, 3, .offset 32, false, false⟩, ⟨5, 4, .offset 48, false, false⟩]] [] [] []

theorem ignoresTarget (allocator : Allocator) : (rig allocator).IgnoresTarget := fun _ _ _ => rfl

end Script

namespace Runner

/-- So many frames are wanted of that camera, and every one is logged. -/
def hasty (target : ℕ) : Runner Script :=
  fresh { RunSettings.standard with targetFrames := target, progressEvery := 1 } .hasty

/-- A run that wants so many frames of that camera. -/
def haste (target : ℕ) : Outcome × RunState Script × Runner Script :=
  (hasty target).run (Script.rig fun _ => some 4096) 1

/-- The frames that come before each wait. -/
def hasteFrames (n : ℕ) : List FrameDescriptor := (batches (haste 4).2.1.mailboxEvents).getD n []

theorem prefix_law_hasty :
    (haste 4).1.verdict = .stalled 4 ∧ (haste 2).1.verdict = .completed ∧
      (haste 2).1.framesAcquired = 2 ∧
      deliveries (haste 2).2.1.mailboxEvents = (deliveries (haste 4).2.1.mailboxEvents).take 2 ∧
      waits (haste 2).2.1.past.toList <+: waits (haste 4).2.1.past.toList := by
  have hrun : ∀ target, (hasty target).run (Script.rig fun _ => some 4096) 1 = haste target :=
    fun _ => rfl
  have hwanting : (hasty 4).wanting 2 = hasty 2 := rfl
  have htarget : (hasty 2).settings.targetFrames = 2 := rfl
  have hstarts : Starts (haste 4).2.1.past.toList := ⟨⟨1⟩, 320, by decide +kernel⟩
  have hstarts' : Starts (haste 2).2.1.past.toList := ⟨⟨1⟩, 320, by decide +kernel⟩
  have hfaces : Faces hasteFrames (haste 4).2.1.mailboxEvents := by decide +kernel
  have hfaces' : Faces hasteFrames (haste 2).2.1.mailboxEvents := by decide +kernel
  have hacquired : (haste 4).1.framesAcquired = 3 := by decide +kernel
  have hstalled : (haste 4).1.verdict = .stalled 4 := by decide +kernel
  have hlaw := prefix_law (τ := Script) (Script.rig fun _ => some 4096) (hasty 4) 1
  rw [hrun] at hlaw
  obtain ⟨hsame, hignores⟩ := hlaw hstarts
  replace hsame := hsame (Script.rig fun _ => some 4096) (hasty 2) 1 hasteFrames (by decide)
  replace hignores := hignores 2 (by decide) (Script.ignoresTarget _)
  rw [hrun, htarget] at hsame
  rw [hwanting, hrun] at hignores
  replace hsame := hsame hstarts' hfaces hfaces'
  have htwo : (haste 2).1.framesAcquired = 2 := by rw [hsame.acquired, hacquired]; rfl
  have hconsumed := hsame.consumed
  rw [htwo] at hconsumed
  exact ⟨hstalled, hignores.completed.mpr (by rw [hacquired]; decide), htwo, hconsumed,
    hignores.waits⟩

end Runner

end FrameWatch
