import FrameWatch.Proofs.Run.Course
import FrameWatch.Proofs.Run.SideBySide

/-!
# What a run does after its setup

Once setup is left, whether it has succeeded or not, a run only watches and gives back: it opens,
configures, registers and starts nothing more, and asks for no memory. `UnwindMove` lists what is
left for it to do; that takes it from the end of setup to its teardown (`Run.drive_unwinds`) and on
to its end (`Run.leave_unwinds`). What each of these moves keeps, the run keeps once setup has
brought it about.
-/

namespace FrameWatch

open Relation (ReflTransGen)

variable {σ α : Type}

/-- What a run can do at once after its setup. -/
inductive UnwindMove (rig : Rig σ) : RunState σ → RunState σ → Prop
  | watch {s s' : RunState σ} (h : WatchMove rig s s') : UnwindMove rig s s'
  | lastError (s : RunState σ) : UnwindMove rig s { s with rig := (rig.lastError s.rig).2 }
  | abort (s : RunState σ) (camera : Handle) :
      UnwindMove rig s { s with rig := (rig.abort camera s.rig).2 }
  | deregister (s : RunState σ) (camera : Handle) :
      UnwindMove rig s { s with rig := (rig.deregister camera s.rig).2 }
  | close (s : RunState σ) (camera : Handle) :
      UnwindMove rig s { s with rig := (rig.close camera s.rig).2 }
  /-- The run lets go of what it holds, or goes on to another phase. -/
  | loosen {s s' : RunState σ} (hrig : s'.rig = s.rig) (hpast : s'.past = s.past)
      (hregistered : s'.registered = true → s.registered = true)
      (hlive : ∀ handler, s'.context.live? = some handler → s.context.live? = some handler)
      (hbuffer : ∀ buffer, s'.buffer = .held buffer → s.buffer = .held buffer) :
      UnwindMove rig s s'

/-- Some of these moves one after the other. -/
abbrev Unwinds (rig : Rig σ) : RunState σ → RunState σ → Prop := ReflTransGen (UnwindMove rig)

theorem Unwinds.keeps {rig : Rig σ} {P : RunState σ → Prop} {s s' : RunState σ}
    (hmove : ∀ s s', UnwindMove rig s s' → P s → P s') (hs : Unwinds rig s s') (h : P s) :
    P s' := by
  induction hs with
  | refl => exact h
  | tail _ hlast ih => exact hmove _ _ hlast ih

section Moves

variable (rig : Rig σ) (s : RunState σ)

theorem unwinds_of_watches {s s' : RunState σ} (h : ReflTransGen (WatchMove rig) s s') :
    Unwinds rig s s' := ReflTransGen.mono (fun _ _ hmove => UnwindMove.watch hmove) _ _ h

theorem Act.log_unwinds (e : RunEvent) : Unwinds rig s (Act.log e s).2 :=
  unwinds_of_watches rig (Act.log_watches rig s e)

theorem Act.enter_unwinds (p : Phase) : Unwinds rig s (Act.enter p s).2 :=
  (Act.log_unwinds rig s (.transition s.phase p)).tail
    (.loosen rfl rfl id (fun _ => id) fun _ => id)

theorem Act.call_unwinds (c : CameraCall) (effect : StateM σ (Except CameraError α))
    (hc : (RunStep.noted (.call c)).isOwn = true)
    (heffect : ∀ s, UnwindMove rig s { s with rig := (effect s.rig).2 }) :
    Unwinds rig s (Act.call rig c effect s).2 := by
  have hbegins : ReflTransGen (WatchMove rig) s (s.note (.call c)) :=
    .single (.did s _ hc (by simp))
  have hbefore := unwinds_of_watches rig
    (hbegins.trans (Act.deliver_watches rig (s.note (.call c)) (.before c)))
  refine (hbefore.tail (heffect _)).trans (unwinds_of_watches rig ?_)
  exact (Act.deliver_watches rig _ (.after c)).tail (.did _ _ rfl (by simp))

/-! ## Teardown -/

namespace Teardown

theorem attempt_unwinds (c : CameraCall) (effect : StateM σ (Except CameraError Unit))
    (event : CameraError → RunEvent) (hc : (RunStep.noted (.call c)).isOwn = true)
    (heffect : ∀ s, UnwindMove rig s { s with rig := (effect s.rig).2 }) :
    Unwinds rig s (attempt rig c effect event s).2 := by
  have hcall := Act.call_unwinds rig s c effect hc heffect
  rw [attempt_eq]
  split
  · exact hcall
  · exact hcall.trans (Act.log_unwinds rig _ _)

theorem abort_unwinds : Unwinds rig s (abort rig s).2 := by
  rw [run_abort]
  cases s.camera with
  | none => exact .refl
  | some camera => exact attempt_unwinds rig s _ _ _ rfl fun s => .abort s camera

theorem deregister_unwinds : Unwinds rig s (deregister rig s).2 := by
  cases hcamera : s.camera with
  | none =>
    rw [run_deregister, hcamera]
    exact .refl
  | some camera =>
    by_cases hreg : s.registered = true
    · have hcall := attempt_unwinds rig s (.deregister camera) (rig.deregister camera)
        .deregisterFailed rfl fun s => .deregister s camera
      rw [deregister_of_registered rig s hcamera hreg]
      dsimp only
      split
      · exact hcall.tail (.loosen rfl rfl (fun h => by cases h) (fun _ => id) fun _ => id)
      · exact hcall
    · rw [deregister_of_unregistered rig s (by simpa using hreg)]

theorem dropContext_unwinds (gone : Bool) : Unwinds rig s (dropContext gone s).2 := by
  unfold dropContext
  rw [Act.run_bind, Act.run_get]
  cases hcontext : s.context with
  | held handler =>
    cases gone with
    | true => exact .single (.loosen rfl rfl id (fun _ h => by cases h) fun _ => id)
    | false =>
      refine (Act.log_unwinds rig s .contextLeaked).tail
        (.loosen rfl rfl id (fun handler' h => ?_) fun _ => id)
      show s.context.live? = _
      rw [hcontext]
      exact h
  | _ => exact .refl

theorem dropBuffer_unwinds (aborted : Bool) : Unwinds rig s (dropBuffer aborted s).2 := by
  unfold dropBuffer
  rw [Act.run_bind, Act.run_get]
  cases s.buffer with
  | held buffer =>
    cases aborted with
    | true =>
      exact (Act.log_unwinds rig s _).tail
        (.loosen rfl rfl id (fun _ => id) fun _ h => by cases h)
    | false =>
      exact (Act.log_unwinds rig s _).tail
        (.loosen rfl rfl id (fun _ => id) fun _ h => by cases h)
  | _ => exact .refl

theorem close_unwinds : Unwinds rig s (close rig s).2 := by
  rw [run_close]
  cases s.camera with
  | none => exact .refl
  | some camera =>
    have hcall := attempt_unwinds rig s (.close camera) (rig.close camera) .closeFailed rfl
      fun s => .close s camera
    exact hcall.tail (.loosen rfl rfl id (fun _ => id) fun _ => id)

theorem giveBack_unwinds : Unwinds rig s (giveBack rig s).2 := by
  have haborted := abort_unwinds rig s
  have hderegistered := haborted.trans (deregister_unwinds rig _)
  have hdropped := hderegistered.trans
    (dropContext_unwinds rig _ (deregister rig (abort rig s).2).1)
  have hgiven := hdropped.trans (dropBuffer_unwinds rig _ (abort rig s).1)
  exact (hgiven.trans (close_unwinds rig _)).trans (Act.log_unwinds rig _ .tornDown)

theorem steps_unwinds : Unwinds rig s (steps rig s).2 := by
  rw [run_steps]
  cases s.tornDown with
  | true => exact .refl
  | false =>
    have hmarked : UnwindMove rig s { s with tornDown := true } := .loosen rfl rfl id (fun _ => id)
      fun _ => id
    exact ReflTransGen.head hmarked (giveBack_unwinds rig { s with tornDown := true })

end Teardown

/-! ## Whole runs -/

namespace Run

theorem failSetup_unwinds (e : SetupError) : Unwinds rig s (failSetup rig e s).2 := by
  have hends (s : RunState σ) :
      Unwinds rig s (Act.enter .setupFailed (Act.log (.setupFailed e) s).2).2 :=
    (Act.log_unwinds rig s _).trans (Act.enter_unwinds rig _ _)
  unfold failSetup
  cases e.cause with
  | camera reason =>
    have hbegins : WatchMove rig s (s.note (.call .lastError)) := .did s _ rfl (by simp)
    have hasked : Unwinds rig s (Act.ask rig.lastError (s.note (.call .lastError))).2 :=
      ReflTransGen.head (.watch hbegins) (.single (.lastError _))
    exact hasked.trans (hends _)
  | allocation reason => exact hends s

theorem drive_unwinds (settings : RunSettings) :
    Unwinds rig (Setup.steps rig settings s).2 (drive rig settings s).2 := by
  cases h : (Setup.steps rig settings s).1 with
  | error e =>
    rw [drive_of_error rig settings s h]
    exact failSetup_unwinds rig _ e
  | ok began =>
    rw [drive_of_ok rig settings s h]
    have hwatch := (Act.enter_unwinds rig (Setup.steps rig settings s).2 .acquiring).trans
      (unwinds_of_watches rig
        (Watch.frames_watches rig settings _ settings.targetFrames began .none))
    exact hwatch.trans (Act.enter_unwinds rig _ _)

theorem stop_unwinds (counters : HandlerCounters) : Unwinds rig s (stop counters s).2 := by
  unfold stop
  rw [Act.run_bind]
  split
  · exact (Act.enter_unwinds rig s .stopped).trans (Act.log_unwinds rig _ _)
  · exact Act.enter_unwinds rig s .stopped

/-- From the end of the watch to the end of the run. -/
theorem leave_unwinds (settings : RunSettings) (number : ℕ) :
    Unwinds rig (drive rig settings s).2 (observe rig settings number s).2 :=
  (Teardown.steps_unwinds rig _).trans
    (stop_unwinds rig _ (Teardown.steps rig (drive rig settings s).2).1.1)

end Run

end Moves

end FrameWatch
