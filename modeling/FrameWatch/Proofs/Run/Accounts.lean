import FrameWatch.Proofs.Run.HandOff
import FrameWatch.Proofs.Run.Verdict

/-!
# The accounts of a run

Handler and mailbox count the same notifications, but they are read at different moments: the
handler's counters when its context is given up, the mailbox at the end of the run. In between lies
the last call, and only a handler that could not be deregistered is called there.

1. `RunState.Counts`: while the context lives, its counters are those of the steps of the run. Every
   move keeps it (`Move.counts`), and with it the mailbox tallies with the steps
   (`RunState.Counts.tallied`).
2. `Moves.settled`: once the context is gone for good, no notification is handled any more.
3. `Teardown.handled_giveBack` and `Teardown.giveBack_leaked`: what teardown tells, and where the
   notifications lie that it does not tell of.
4. `Runner.accounts` balances the accounts of every run.
-/

namespace FrameWatch

open MailboxEvent

variable {σ α : Type}

/-! ## The notifications that are handled -/

/-- How fetching the frame ended, if the step handles a notification. -/
def RunStep.fetched? : RunStep → Option Fetched
  | handled _ answer _ => some answer
  | _ => none

/-- How fetching a frame ended for each notification that was handled. -/
def fetches (steps : List RunStep) : List Fetched := steps.filterMap RunStep.fetched?

/-- The notifications whose fetch broke off. -/
def crashes (steps : List RunStep) : ℕ := (fetches steps).countP (· = .crashed)

/-- Only notifications with data and context are handled, and each of them is put into the mailbox
unless its fetch broke off. -/
def Genuine (steps : List RunStep) : Prop :=
  ∀ n answer noted, .handled n answer noted ∈ steps →
    n.info.isSome ∧ n.hasContext = true ∧ (noted = none ↔ answer = .crashed)

/-- How the accounts of a run balance. -/
structure Accounts (steps : List RunStep) (o : Outcome) : Prop where
  genuine : Genuine steps
  /-- What was put in is taken, has given way or still waits. -/
  balance : ∃ pending ≤ 1, o.tally.signals = o.framesAcquired + o.tally.overwritten + pending ∧
    (o.teardown.contextLeaked = false →
      o.callbacks = o.framesAcquired + o.tally.overwritten + pending + crashes steps)
  kept : o.teardown.contextLeaked = false → o.callbacks = o.tally.signals + crashes steps
  callbacks_le : o.callbacks ≤ o.tally.signals + crashes steps
  /-- A handler that is called after it could not be deregistered is called while the camera is
  closed, and what it counts then is missing from its counters. -/
  leaked : o.teardown.contextLeaked = true → ∃ camera e failure before quiet inside rest,
    steps = before ++ .answered (.deregister camera) (some e) :: quiet ++
      .noted (.call (.close camera)) :: inside ++ .answered (.close camera) failure :: rest ∧
    fetches quiet = [] ∧ fetches rest = [] ∧
    o.callbacks + (fetches inside).length = o.tally.signals + crashes steps

section Steps

variable (xs ys : List RunStep)

@[simp] theorem fetches_append : fetches (xs ++ ys) = fetches xs ++ fetches ys :=
  List.filterMap_append

theorem RunStep.fetched?_of_own {e : RunStep} (h : e.isOwn = true) : e.fetched? = none := by
  cases e with
  | handled => cases h
  | _ => rfl

theorem fetches_cons (e : RunStep) : fetches (e :: xs) = e.fetched?.toList ++ fetches xs := by
  unfold fetches
  rw [List.filterMap_cons]
  cases e.fetched? <;> rfl

/-- The signals among the steps, and the notifications that came to none. -/
theorem length_signals_add_crashes (h : Genuine xs) :
    (signals (xs.filterMap RunStep.mailboxEvent?)).length + crashes xs = (fetches xs).length := by
  induction xs with
  | nil => rfl
  | cons e xs ih =>
    have ih := ih fun n answer noted hmem => h n answer noted (List.mem_cons_of_mem _ hmem)
    unfold crashes at ih ⊢
    cases e with
    | handled n answer noted =>
      have hnoted := (h n answer noted List.mem_cons_self).2.2
      rw [show fetches (.handled n answer noted :: xs) = answer :: fetches xs from rfl,
        List.countP_cons, List.length_cons]
      cases noted with
      | none =>
        rw [if_pos (by simpa using hnoted.mp rfl)]
        show _ + (_ + 1) = _
        rw [← Nat.add_assoc, ← ih]
        rfl
      | some d =>
        rw [if_neg (by simpa using mt hnoted.mpr (by simp))]
        show (signals (xs.filterMap RunStep.mailboxEvent?)).length + 1 + _ = _
        omega
    | waited taken => cases taken <;> exact ih
    | _ => exact ih

end Steps

/-! ## What every move keeps -/

/-- The handler's counters tell the notifications that were handled, as long as there are any. -/
structure RunState.Counts (s : RunState σ) : Prop where
  genuine : Genuine s.past.toList
  live : ∀ handler, s.context.live? = some handler →
    handler.counters.handled = (fetches s.past.toList).length
  absent : s.context = .absent → fetches s.past.toList = []

namespace RunState

variable {s : RunState σ}

theorem past_step (s : RunState σ) (e : RunStep) :
    (s.step e).past.toList = s.past.toList ++ [e] := Array.toList_push

theorem fetches_step (s : RunState σ) {e : RunStep} (he : e.fetched? = none) :
    fetches (s.step e).past.toList = fetches s.past.toList := by
  rw [past_step, fetches_append, fetches_cons, he]
  exact List.append_nil _

theorem fetches_handled (rig : Rig σ) (s : RunState σ) (handler : Handler) (n : Notification)
    (info : FrameInfo) :
    fetches (Act.handled rig handler n info s).past.toList =
      fetches s.past.toList ++ [(rig.fetch handler.camera s.rig).1] := by
  show fetches (RunState.step _ _).past.toList = _
  rw [past_step, fetches_append, note, fetches_step _ rfl]
  rfl

namespace Counts

theorem initial (x : σ) (mailbox : Mailbox) : (RunState.initial x mailbox).Counts where
  genuine _ _ _ hmem := by cases hmem
  live _ hlive := by cases hlive
  absent _ := rfl

theorem step (h : s.Counts) {e : RunStep} (he : e.fetched? = none) : (s.step e).Counts where
  genuine n answer noted hmem := by
    rw [past_step, List.mem_append, List.mem_singleton] at hmem
    rcases hmem with hmem | rfl
    · exact h.genuine n answer noted hmem
    · cases he
  live handler hlive := by rw [fetches_step s he]; exact h.live handler hlive
  absent habsent := by rw [fetches_step s he]; exact h.absent habsent

theorem handled (h : s.Counts) (rig : Rig σ) {handler : Handler} {info : FrameInfo}
    {n : Notification} (hlive : s.context.live? = some handler) (hinfo : n.info = some info)
    (hcontext : n.hasContext = true) : (Act.handled rig handler n info s).Counts where
  genuine n' answer noted hmem := by
    have hpast := (s.note (.call (.fetch handler.camera))).past_step
      (.handled n (rig.fetch handler.camera s.rig).1
        (handler.descriptor? info (rig.fetch handler.camera s.rig).1))
    change _ ∈ (RunState.step _ _).past.toList at hmem
    rw [hpast, note, past_step, List.mem_append, List.mem_append, List.mem_singleton,
      List.mem_singleton] at hmem
    rcases hmem with (hmem | hmem) | hmem
    · exact h.genuine n' answer noted hmem
    · cases hmem
    · cases hmem
      refine ⟨by rw [hinfo]; rfl, hcontext, ?_⟩
      cases (rig.fetch handler.camera s.rig).1 <;> simp [Handler.descriptor?]
  live handler' hlive' := by
    have hcounted : ((handler.count info.number).noteFetch
        (rig.fetch handler.camera s.rig).1).counters.handled = handler.counters.handled + 1 := by
      cases (rig.fetch handler.camera s.rig).1 <;> rfl
    change (s.context.map _).live? = some handler' at hlive'
    rw [Custody.live?_map, hlive] at hlive'
    cases hlive'
    rw [fetches_handled, List.length_append, hcounted, h.live handler hlive]
    rfl
  absent habsent := by
    change s.context.map _ = .absent at habsent
    rw [Custody.map_eq_absent] at habsent
    rw [habsent] at hlive
    cases hlive

/-- The mailbox tallies with the notifications that were handled. -/
theorem tallied (h : s.Counts) (hs : s.KeepsHistory) :
    s.mailbox.tally.signals + crashes s.past.toList = (fetches s.past.toList).length := by
  rw [hs.ledger.signals_eq, sinceReset_of_not_mem s.reset_not_mem]
  exact length_signals_add_crashes _ h.genuine

end Counts

end RunState

section Moves

variable {rig : Rig σ} {s s' : RunState σ}

theorem Move.counts (hmove : Move rig s s') (h : s.Counts) : s'.Counts := by
  cases hmove with
  | did e hown => exact h.step (RunStep.fetched?_of_own hown)
  | take =>
    have htaken : RunState.Counts { s with mailbox := s.mailbox.take.2 } := ⟨h.1, h.2, h.3⟩
    exact htaken.step rfl
  | handle n hreg hlive hinfo hcontext => exact h.handled rig hlive hinfo hcontext
  | stray n => exact h.step rfl
  | allocate camera buffer hreg habsent =>
    refine ⟨h.genuine, fun handler hlive => ?_, by simp⟩
    cases hlive
    rw [h.absent habsent]
    rfl
  | dropContext => exact ⟨h.genuine, by simp [Custody.live?], by simp⟩
  | leakContext hheld =>
    refine ⟨h.genuine, fun handler hlive => h.live handler ?_, by simp⟩
    rw [hheld]
    exact hlive
  | _ => exact ⟨h.genuine, h.live, h.absent⟩

theorem Moves.counts (hmoves : Moves rig s s') (h : s.Counts) : s'.Counts := by
  induction hmoves with
  | refl => exact h
  | tail _ hmove ih => exact hmove.counts ih

/-- Without a context there is nothing to handle notifications, and teardown sets up no new one. -/
theorem Move.settled (hmove : Move rig s s') (hgone : s.context.live? = none)
    (htorn : s.tornDown = true) :
    s'.context.live? = none ∧ s'.tornDown = true ∧
      fetches s'.past.toList = fetches s.past.toList := by
  cases hmove with
  | did e hown => exact ⟨hgone, htorn, s.fetches_step (RunStep.fetched?_of_own hown)⟩
  | take => exact ⟨hgone, htorn, RunState.fetches_step { s with mailbox := _ } rfl⟩
  | handle n hreg hlive => rw [hgone] at hlive; cases hlive
  | stray n => exact ⟨hgone, htorn, s.fetches_step rfl⟩
  | allocate camera buffer hreg habsent hdue => rw [htorn] at hdue; cases hdue
  | dropContext => exact ⟨rfl, htorn, rfl⟩
  | leakContext hheld => rw [hheld] at hgone; cases hgone
  | tearDown => exact ⟨hgone, rfl, rfl⟩
  | _ => exact ⟨hgone, htorn, rfl⟩

theorem Moves.settled (hmoves : Moves rig s s') (hgone : s.context.live? = none)
    (htorn : s.tornDown = true) : fetches s'.past.toList = fetches s.past.toList := by
  suffices h : s'.context.live? = none ∧ s'.tornDown = true ∧
      fetches s'.past.toList = fetches s.past.toList from h.2.2
  induction hmoves with
  | refl => exact ⟨hgone, htorn, rfl⟩
  | tail _ hmove ih =>
    obtain ⟨hgone, htorn, heq⟩ := hmove.settled ih.1 ih.2.1
    exact ⟨hgone, htorn, heq.trans ih.2.2⟩

end Moves

/-! ## The steps around a call of teardown -/

/-- From `s` to `s'`, nothing is asked of the camera and no notification is handled. -/
structure RunState.Quietly (s s' : RunState σ) : Prop where
  camera : s'.camera = s.camera
  tornDown : s'.tornDown = s.tornDown
  past : ∃ quiet, s'.past.toList = s.past.toList ++ quiet ∧ fetches quiet = []

namespace RunState.Quietly

variable {s s' s'' : RunState σ}

theorem refl (s : RunState σ) : Quietly s s := ⟨rfl, rfl, [], by simp, rfl⟩

theorem trans (h : Quietly s s') (h' : Quietly s' s'') : Quietly s s'' := by
  obtain ⟨quiet, hpast, hquiet⟩ := h.past
  obtain ⟨quiet', hpast', hquiet'⟩ := h'.past
  refine ⟨h'.camera.trans h.camera, h'.tornDown.trans h.tornDown, quiet ++ quiet', ?_, ?_⟩
  · rw [hpast', hpast, List.append_assoc]
  · rw [fetches_append, hquiet, hquiet', List.append_nil]

theorem log (s : RunState σ) (e : RunEvent) : Quietly s (s.log e) :=
  ⟨rfl, rfl, _, s.past_step _, rfl⟩

end RunState.Quietly

open RunState (Quietly)

namespace Act

variable (rig : Rig σ) (s : RunState σ)

/-- The notifications that a call lets in lie between the call and its answer. -/
theorem call_past (c : CameraCall) (effect : StateM σ (Except CameraError α)) :
    ∃ inside, (call rig c effect s).2.past.toList = s.past.toList ++ .noted (.call c) :: inside ++
      [.answered c (failure? (call rig c effect s).1)] := by
  unfold call
  simp only [run_bind, run_modify, run_pure]
  set s₁ := (deliver rig (.before c) (s.note (.call c))).2 with hs₁
  obtain ⟨inside₁, h₁⟩ := (deliver_moves rig (s.note (.call c)) (.before c)).prefix_past
  obtain ⟨inside₂, h₂⟩ := (deliver_moves rig (ask effect s₁).2 (.after c)).prefix_past
  refine ⟨inside₁ ++ inside₂, ?_⟩
  have hasked : (ask effect s₁).2.past = s₁.past := rfl
  rw [RunState.past_step, ← h₂, hasked, hs₁, ← h₁, RunState.note, RunState.past_step]
  simp only [List.append_assoc, List.cons_append, List.nil_append]

end Act

namespace Teardown

variable (rig : Rig σ) (s : RunState σ)

theorem attempt_past (c : CameraCall) (effect : StateM σ (Except CameraError Unit))
    (event : CameraError → RunEvent) :
    ∃ failure inside rest, (attempt rig c effect event s).1 = failure.isNone ∧
      (attempt rig c effect event s).2.past.toList =
        s.past.toList ++ .noted (.call c) :: inside ++ .answered c failure :: rest ∧
      fetches rest = [] := by
  obtain ⟨inside, hpast⟩ := Act.call_past rig s c effect
  rw [attempt_eq]
  cases h : (Act.call rig c effect s).1 with
  | ok =>
    rw [h] at hpast
    exact ⟨none, inside, [], rfl, hpast, rfl⟩
  | error e =>
    rw [h] at hpast
    refine ⟨some e, inside, [.noted (.event (event e))], rfl, ?_, rfl⟩
    show ((Act.call rig c effect s).2.log (event e)).past.toList = _
    rw [RunState.log, RunState.note, RunState.past_step, hpast, List.append_assoc]
    rfl

theorem deregister_past (h : (deregister rig s).1 = false) :
    ∃ camera e before quiet, (deregister rig s).2.camera = some camera ∧
      (deregister rig s).2.past.toList =
        before ++ .answered (.deregister camera) (some e) :: quiet ∧ fetches quiet = [] := by
  unfold deregister at h ⊢
  rw [Act.run_bind, Act.run_get] at h ⊢
  dsimp only at h ⊢
  cases hcamera : s.camera with
  | none => rw [hcamera] at h; cases h
  | some camera =>
    rw [hcamera] at h
    dsimp only at h ⊢
    by_cases hreg : s.registered = true
    · rw [if_pos hreg, Act.run_bind] at h ⊢
      obtain ⟨failure, inside, rest, hanswer, hpast, hrest⟩ :=
        attempt_past rig s (.deregister camera) (rig.deregister camera) .deregisterFailed
      obtain ⟨_, -, hst, -⟩ :=
        attempt_path rig s (.deregister camera) (rig.deregister camera) .deregisterFailed rfl
      cases failure with
      | none => rw [hanswer] at h; cases h
      | some e =>
        rw [hanswer]
        refine ⟨camera, e, _, rest, ?_, hpast, hrest⟩
        exact (congrArg Standing.camera hst).trans hcamera
    · rw [if_neg hreg] at h
      cases h

theorem close_past {camera : Handle} (hcamera : s.camera = some camera) :
    ∃ failure inside rest, (close rig s).2.past.toList =
        s.past.toList ++ .noted (.call (.close camera)) :: inside ++
          .answered (.close camera) failure :: rest ∧
      fetches rest = [] := by
  obtain ⟨failure, inside, rest, -, hpast, hrest⟩ :=
    attempt_past rig s (.close camera) (rig.close camera) .closeFailed
  refine ⟨failure, inside, rest, ?_, hrest⟩
  unfold close
  rw [Act.run_bind, Act.run_get]
  dsimp only
  rw [hcamera]
  exact hpast

theorem dropContext_quietly (gone : Bool) : Quietly s (dropContext gone s).2 := by
  unfold dropContext
  rw [Act.run_bind, Act.run_get]
  cases s.context with
  | held handler =>
    cases gone with
    | true => exact ⟨rfl, rfl, (Quietly.refl s).past⟩
    | false => exact ⟨rfl, rfl, (Quietly.log s .contextLeaked).past⟩
  | _ => exact .refl s

theorem dropBuffer_quietly (aborted : Bool) : Quietly s (dropBuffer aborted s).2 := by
  unfold dropBuffer
  rw [Act.run_bind, Act.run_get]
  cases s.buffer with
  | held buffer =>
    cases aborted with
    | true => exact ⟨rfl, rfl, (Quietly.log s (.bufferReleased buffer.size)).past⟩
    | false => exact ⟨rfl, rfl, (Quietly.log s (.bufferLeaked buffer.size)).past⟩
  | _ => exact .refl s

theorem dropBuffer_moves (aborted : Bool) : Moves rig s (dropBuffer aborted s).2 := by
  unfold dropBuffer
  rw [Act.run_bind, Act.run_get]
  cases s.buffer with
  | held buffer =>
    cases aborted with
    | true => exact (Act.log_moves rig s _).tail (.giveBuffer _ .released)
    | false => exact (Act.log_moves rig s _).tail (.giveBuffer _ (.leaked buffer))
  | _ => exact .refl

/-- The counters that teardown tells are those of the handler, if there is one. -/
theorem counters_dropContext (gone : Bool)
    (hcontext : s.context = .absent ∨ ∃ handler, s.context = .held handler) :
    (dropContext gone s).1.1 = s.context.live?.elim .zero Handler.counters := by
  unfold dropContext
  rw [Act.run_bind, Act.run_get]
  rcases hcontext with habsent | ⟨handler, hheld⟩
  · dsimp only
    rw [habsent]
    rfl
  · dsimp only
    rw [hheld]
    cases gone <;> rfl

/-- They are those of the notifications handled until then. -/
theorem handled_dropContext (gone : Bool) (h : s.Counts)
    (hcontext : s.context = .absent ∨ ∃ handler, s.context = .held handler) :
    (dropContext gone s).1.1.handled = (fetches s.past.toList).length := by
  rw [counters_dropContext s gone hcontext]
  rcases hcontext with habsent | ⟨handler, hheld⟩
  · rw [h.absent habsent, habsent]
    rfl
  · rw [← h.live handler (by rw [hheld]; rfl), hheld]
    rfl

theorem live?_dropContext (gone : Bool)
    (hcontext : s.context = .absent ∨ ∃ handler, s.context = .held handler)
    (hkept : (dropContext gone s).1.2 = false) : (dropContext gone s).2.context.live? = none := by
  unfold dropContext at hkept ⊢
  rw [Act.run_bind, Act.run_get] at hkept ⊢
  rcases hcontext with habsent | ⟨handler, hheld⟩
  · dsimp only at hkept ⊢
    rw [habsent]
    exact congrArg Custody.live? habsent
  · dsimp only at hkept ⊢
    rw [hheld] at hkept ⊢
    cases gone with
    | true => rfl
    | false => cases hkept

theorem gone_of_leaked (gone : Bool) (hleaked : (dropContext gone s).1.2 = true) :
    gone = false := by
  unfold dropContext at hleaked
  rw [Act.run_bind, Act.run_get] at hleaked
  dsimp only at hleaked
  cases gone with
  | false => rfl
  | true => cases h : s.context <;> rw [h] at hleaked <;> cases hleaked

/-! ## A whole teardown -/

section GiveBack

variable {s} (hclosed : s.camera = none → s.registered = false)
  (hcontext : s.context = .absent ∨ ∃ handler, s.context = .held handler)
  (htorn : s.tornDown = true) (hcounts : s.Counts)

include hclosed hcontext

/-- Until the context is given up, the run goes on as before. -/
theorem deregister_abort :
    let d := (deregister rig (abort rig s).2).2
    Moves rig s d ∧ (d.context = .absent ∨ ∃ handler, d.context = .held handler) ∧
      d.tornDown = s.tornDown := by
  obtain ⟨_, -, -, h₁, hmoves₁⟩ := abort_path rig s
  have hcamera₁ : (abort rig s).2.camera = s.camera := congrArg Standing.camera h₁
  have hreg₁ : (abort rig s).2.registered = s.registered := congrArg Standing.registered h₁
  obtain ⟨_, -, -, h₂, hmoves₂⟩ :=
    deregister_path rig (abort rig s).2 (by rw [hcamera₁, hreg₁]; exact hclosed)
  intro d
  have hst : d.context.map Handler.pristine = s.context.map Handler.pristine := by
    show d.standing.context = s.standing.context
    rw [h₂, h₁]
    rfl
  refine ⟨hmoves₁.trans hmoves₂, ?_, ?_⟩
  · rcases hcontext with habsent | ⟨handler, hheld⟩
    · rw [habsent] at hst
      exact .inl (Custody.map_eq_absent.mp hst)
    · rw [hheld] at hst
      cases hd : d.context with
      | held handler' => exact .inr ⟨handler', rfl⟩
      | _ => rw [hd] at hst; cases hst
  · exact (congrArg Standing.tornDown h₂).trans (congrArg Standing.tornDown h₁)

include htorn in
/-- Where the context is not leaked, the counters are read once the handler is deregistered, and no
notification is handled afterwards. -/
theorem giveBack_reads (hkept : (giveBack rig s).1.2.contextLeaked = false) :
    let d := (deregister rig (abort rig s).2).2
    (giveBack rig s).1.1 = d.context.live?.elim .zero Handler.counters ∧
      ∃ rest, (giveBack rig s).2.past.toList = d.past.toList ++ rest ∧ fetches rest = [] := by
  obtain ⟨-, hcontext₁, htorn₁⟩ := deregister_abort rig hclosed hcontext
  set d := deregister rig (abort rig s).2 with hd
  have hquiet := dropContext_quietly d.2 d.1
  obtain ⟨_, hmoves⟩ := close_path rig (dropBuffer (abort rig s).1 (dropContext d.1 d.2).2).2
  have hmoves := ((dropBuffer_moves rig (dropContext d.1 d.2).2 (abort rig s).1).trans
    hmoves.2).trans (Act.log_moves rig _ .tornDown)
  have hsettled := Moves.settled hmoves (live?_dropContext d.2 d.1 hcontext₁ hkept)
    (hquiet.tornDown.trans (htorn₁.trans htorn))
  obtain ⟨quiet, hpast, hnone⟩ := hquiet.past
  obtain ⟨rest, hrest⟩ := Moves.prefix_past hmoves
  rw [← hrest, fetches_append] at hsettled
  refine ⟨counters_dropContext d.2 d.1 hcontext₁, quiet ++ rest, ?_, ?_⟩
  · rw [← List.append_assoc, ← hpast, hrest]
    rfl
  · rw [fetches_append, hnone, List.nil_append]
    exact List.append_right_eq_self.mp hsettled

include htorn hcounts in
/-- Where the context is not leaked, every notification that was handled is counted. -/
theorem handled_giveBack (hkept : (giveBack rig s).1.2.contextLeaked = false) :
    (giveBack rig s).1.1.handled = (fetches (giveBack rig s).2.past.toList).length := by
  obtain ⟨hmoves, hcontext₁, -⟩ := deregister_abort rig hclosed hcontext
  obtain ⟨hreads, rest, hpast, hnone⟩ := giveBack_reads rig hclosed hcontext htorn hkept
  set d := deregister rig (abort rig s).2 with hd
  rw [hpast, fetches_append, hnone, List.append_nil, hreads,
    ← counters_dropContext d.2 d.1 hcontext₁]
  exact handled_dropContext d.2 d.1 (hmoves.counts hcounts) hcontext₁

include hcounts in
/-- Where the context is leaked, what is not counted is handled while the camera is closed. -/
theorem giveBack_leaked (hleaked : (giveBack rig s).1.2.contextLeaked = true) :
    ∃ camera e failure before quiet inside rest,
      (giveBack rig s).2.past.toList =
        before ++ .answered (.deregister camera) (some e) :: quiet ++
          .noted (.call (.close camera)) :: inside ++ .answered (.close camera) failure :: rest ∧
      fetches quiet = [] ∧ fetches rest = [] ∧
      (giveBack rig s).1.1.handled = (fetches before).length := by
  obtain ⟨hmoves, hcontext₁, -⟩ := deregister_abort rig hclosed hcontext
  set d := deregister rig (abort rig s).2 with hd
  obtain ⟨camera, e, before, quiet, hcamera, hpast, hnone⟩ :=
    deregister_past rig (abort rig s).2 (gone_of_leaked d.2 d.1 hleaked)
  have hquiet := (dropContext_quietly d.2 d.1).trans
    (dropBuffer_quietly (dropContext d.1 d.2).2 (abort rig s).1)
  obtain ⟨quiet', hpast', hnone'⟩ := hquiet.past
  obtain ⟨failure, inside, rest, hclose, hrest⟩ := close_past rig _ (hquiet.camera.trans hcamera)
  refine ⟨camera, e, failure, before, quiet ++ quiet', inside,
    rest ++ [.noted (.event .tornDown)], ?_, ?_, ?_, ?_⟩
  · have hlogged : (giveBack rig s).2.past.toList = (close rig
        (dropBuffer (abort rig s).1 (dropContext d.1 d.2).2).2).2.past.toList ++
          [.noted (.event .tornDown)] := RunState.past_step _ _
    rw [hlogged, hclose, hpast', hd, hpast]
    simp only [List.append_assoc, List.cons_append]
  · rw [fetches_append, hnone, hnone', List.append_nil]
  · rw [fetches_append, hrest]
    rfl
  · calc (giveBack rig s).1.1.handled
        = (fetches d.2.past.toList).length :=
        handled_dropContext d.2 d.1 (hmoves.counts hcounts) hcontext₁
      _ = (fetches before).length := by
        rw [hd, hpast, fetches_append, fetches_cons, hnone]
        simp [RunStep.fetched?]

end GiveBack

end Teardown

/-! ## The accounts of a run -/

theorem Run.stop_quietly (counters : HandlerCounters) (s : RunState σ) :
    Quietly s (stop counters s).2 := by
  have hentered : Quietly s (Act.enter .stopped s).2 := ⟨rfl, rfl, _, s.past_step _, rfl⟩
  unfold stop
  rw [Act.run_bind]
  split
  · exact hentered.trans (.log _ _)
  · exact hentered

namespace RunCourse

variable {rig : Rig σ} {settings : RunSettings} {s₀ s : RunState σ} {o : Outcome}
  {path : SetupPath} {taken : List (FrameDescriptor × Duration)} {f : TeardownFailures}

/-- The state in which teardown gives everything back. -/
def giving (rig : Rig σ) (settings : RunSettings) (s₀ : RunState σ) : RunState σ :=
  { (Run.drive rig settings s₀).2 with tornDown := true }

theorem moves_giving (h : RunCourse rig settings s₀ o s path taken f) :
    Moves rig s₀ (giving rig settings s₀) := h.drives.tail (.tearDown _)

theorem closed_giving (h : RunCourse rig settings s₀ o s path taken f) :
    (giving rig settings s₀).camera = none → (giving rig settings s₀).registered = false := by
  show (Run.drive rig settings s₀).2.standing.camera = none →
    (Run.drive rig settings s₀).2.standing.registered = false
  rw [h.driven]
  exact path.registered_of_closed settings rig.logsOpening

theorem context_giving (h : RunCourse rig settings s₀ o s path taken f) :
    (giving rig settings s₀).context = .absent ∨
      ∃ handler, (giving rig settings s₀).context = .held handler := by
  have hst : (giving rig settings s₀).context.map Handler.pristine =
      (path.standing settings rig.logsOpening).context := congrArg Standing.context h.driven
  rcases path.resources_standing settings rig.logsOpening with
    ⟨-, habsent, -⟩ | ⟨-, handler, -, hheld⟩
  · exact .inl (Custody.map_eq_absent.mp (hst.trans habsent))
  · rw [hheld] at hst
    cases hctx : (giving rig settings s₀).context with
    | held handler' => exact .inr ⟨handler', rfl⟩
    | _ => rw [hctx] at hst; cases hst

/-- The teardown of a run gives everything back. -/
theorem steps_drive (h : RunCourse rig settings s₀ o s path taken f) :
    Teardown.steps rig (Run.drive rig settings s₀).2 =
      Teardown.giveBack rig (giving rig settings s₀) :=
  Teardown.steps_of_standing rig _
    ((congrArg Standing.tornDown h.driven).trans (path.tornDown_driven settings _ _))

/-- Where the context is not leaked, the counters are read once the handler is deregistered, and no
notification is handled afterwards. -/
theorem reads (h : RunCourse rig settings s₀ o s path taken f)
    (hkept : o.teardown.contextLeaked = false) :
    let d := (Teardown.deregister rig (Teardown.abort rig (giving rig settings s₀)).2).2
    (Teardown.steps rig (Run.drive rig settings s₀).2).1.1 =
        d.context.live?.elim .zero Handler.counters ∧
      ∃ rest, s.past.toList = d.past.toList ++ rest ∧ fetches rest = [] := by
  obtain ⟨-, hteardown⟩ := h.settles
  obtain ⟨counters, hs⟩ := h.ends
  rw [h.steps_drive] at hteardown hs ⊢
  rw [hteardown] at hkept
  obtain ⟨hreads, rest, hpast, hnone⟩ :=
    Teardown.giveBack_reads rig h.closed_giving h.context_giving rfl hkept
  obtain ⟨quiet, hpast', hnone'⟩ :=
    (Run.stop_quietly counters (Teardown.giveBack rig (giving rig settings s₀)).2).past
  refine ⟨hreads, rest ++ quiet, ?_, ?_⟩
  · rw [hs, hpast', hpast, List.append_assoc]
  · rw [fetches_append, hnone, hnone', List.append_nil]

/-- How teardown comes to its end: what it tells covers all notifications that were handled, but for
those that a leaked context lets in. -/
theorem callbacks (h : RunCourse rig settings s₀ o s path taken f) (hs₀ : s₀.Counts) :
    (o.teardown.contextLeaked = false → o.callbacks = (fetches s.past.toList).length) ∧
    (o.teardown.contextLeaked = true → ∃ camera e failure before quiet inside rest,
      s.past.toList = before ++ .answered (.deregister camera) (some e) :: quiet ++
        .noted (.call (.close camera)) :: inside ++ .answered (.close camera) failure :: rest ∧
      fetches quiet = [] ∧ fetches rest = [] ∧
      o.callbacks + (fetches inside).length = (fetches s.past.toList).length) := by
  have hcounts := h.moves_giving.counts hs₀
  obtain ⟨hcallbacks, hteardown⟩ := h.settles
  obtain ⟨counters, hs⟩ := h.ends
  rw [h.steps_drive] at hcallbacks hteardown hs
  set t := Teardown.giveBack rig (giving rig settings s₀) with ht
  obtain ⟨quiet', hpast, hnone⟩ := (Run.stop_quietly counters t.2).past
  rw [← hs] at hpast
  rw [hcallbacks, hteardown, hpast, fetches_append, hnone, List.append_nil]
  refine ⟨Teardown.handled_giveBack rig h.closed_giving h.context_giving rfl hcounts,
    fun hleaked => ?_⟩
  obtain ⟨camera, e, failure, before, quiet, inside, rest, hsteps, hquiet, hrest, hhandled⟩ :=
    Teardown.giveBack_leaked rig h.closed_giving h.context_giving hcounts hleaked
  refine ⟨camera, e, failure, before, quiet, inside, rest ++ quiet', ?_, hquiet, ?_, ?_⟩
  · rw [hsteps]
    simp only [List.append_assoc, List.cons_append]
  · rw [fetches_append, hrest, hnone]
    rfl
  · rw [hhandled, hsteps]
    simp [fetches_cons, RunStep.fetched?, hquiet, hrest]

theorem balanced (h : RunCourse rig settings s₀ o s path taken f) (hs₀ : s₀.KeepsHistory)
    (hcounts : s₀.Counts) : Accounts s.past.toList o := by
  have hhistory := h.moves.history hs₀
  have hfinal := h.moves.counts hcounts
  have htallied := hfinal.tallied hhistory
  have hbalance := hhistory.ledger.balance
  rw [← h.tally] at htallied hbalance
  rw [h.consumed_eq hs₀, ← h.frames] at hbalance
  obtain ⟨hkept, hleaked⟩ := h.callbacks hcounts
  rw [← htallied] at hkept hleaked
  refine ⟨hfinal.genuine, ⟨_, ?_, hbalance, fun hk => ?_⟩, hkept, ?_, hleaked⟩
  · split <;> omega
  · rw [hkept hk, hbalance]
  · cases hcase : o.teardown.contextLeaked with
    | false => exact (hkept hcase).le
    | true =>
      obtain ⟨_, _, _, _, _, _, _, -, -, -, heq⟩ := hleaked hcase
      omega

end RunCourse

/-- **Accounts.** Whatever the camera answers and whenever it announces frames, the accounts of a
run balance: what was put into the mailbox was taken, has given way or still waits, and the handler
has counted it together with the fetches that broke off. Only a leaked context leaves something out,
and that was handled inside the last call. -/
theorem Runner.accounts (rig : Rig σ) (r : Runner σ) (number : ℕ) :
    Accounts (r.run rig number).2.1.past.toList (r.run rig number).1 := by
  obtain ⟨path, taken, f, hcourse⟩ := r.run_course rig number
  exact hcourse.balanced (RunState.keepsHistory_initial r.rig r.mailbox)
    (RunState.Counts.initial r.rig _)

end FrameWatch
