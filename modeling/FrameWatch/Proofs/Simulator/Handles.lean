import FrameWatch.Proofs.Simulator.Automaton

/-!
# Handles that come round again

An opening returns the number of openings before it, as a word of sixteen bits. Once 65536 openings
have been made the numbers come round again, and no opening looks whether its handle is in use.

1. `Handle.ofCount_eq_iff`: which openings share a handle.
2. `Simulator.InOrder`: the openings of a history have their handles in order.
3. `Simulator.InOrder.isSome_iff`: the next handle is in use if the opening 65536 before has not
   been closed since.
4. `Simulator.handle_law` says so of every history, and what becomes of a session whose handle is
   returned again. `Simulator.handle_reissued` is a history in which that happens.
-/

namespace FrameWatch

/-- Openings share a handle if a multiple of 65536 lies between them. -/
theorem Handle.ofCount_eq_iff {i j : ℕ} : ofCount i = ofCount j ↔ i % 65536 = j % 65536 := by
  unfold ofCount
  rw [Handle.mk.injEq]
  constructor
  · intro hbmod
    have hi : (i : ℤ).bmod 65536 % (65536 : ℕ) = i % (65536 : ℕ) := Int.bmod_emod
    have hj : (j : ℤ).bmod 65536 % (65536 : ℕ) = j % (65536 : ℕ) := Int.bmod_emod
    rw [hbmod, hj] at hi
    omega
  · intro hmod
    have hcast : (i : ℤ) % (65536 : ℕ) = j % (65536 : ℕ) := by omega
    rw [← Int.emod_bmod, hcast, Int.emod_bmod]

/-- The camera can be opened under that name. -/
structure SimulatorBehavior.Opens (b : SimulatorBehavior) (name : String) : Prop where
  stage : b.failStage ≠ some .openDevice
  name : name ∈ b.cameras

namespace Simulator

variable {b : SimulatorBehavior} {h k : Handle} {e : Event} {es : List Event} {s s' : Simulator}
  {c : Call} {answer : Answer} {name : String} {x : History}

/-! ## Openings by their number -/

/-- Every event with `p` has a number among those with `p`. -/
theorem exists_of_lt_countP {p : Event → Bool} {n : ℕ} (hn : n < es.countP p) :
    ∃ before e rest, es = before ++ e :: rest ∧ p e = true ∧ before.countP p = n := by
  induction es generalizing n with
  | nil => simp at hn
  | cons e es ih =>
    by_cases he : p e = true
    · rw [List.countP_cons_of_pos he] at hn
      cases n with
      | zero => exact ⟨[], e, es, rfl, he, rfl⟩
      | succ n =>
        obtain ⟨before, e', rest, rfl, he', hcount⟩ := ih (Nat.lt_of_succ_lt_succ hn)
        refine ⟨e :: before, e', rest, rfl, he', ?_⟩
        rw [List.countP_cons_of_pos he, hcount]
    · rw [List.countP_cons_of_neg he] at hn
      obtain ⟨before, e', rest, rfl, he', hcount⟩ := ih hn
      refine ⟨e :: before, e', rest, rfl, he', ?_⟩
      rw [List.countP_cons_of_neg he, hcount]

theorem isOpening_of_opens (hopens : e.opens h = true) : e.isOpening = true := by
  cases e with
  | called c answer => exact (opens_called hopens).2
  | passed => cases hopens

theorem opens_inj (hh : e.opens h = true) (hk : e.opens k = true) : h = k := by
  cases e with
  | called c answer =>
    have hsame := (opens_called hh).1.symm.trans (opens_called hk).1
    exact Answer.opened.inj hsame
  | passed => cases hh

/-- The openings of a history return its handles in order. -/
structure InOrder (x : History) : Prop where
  opened : x.camera.opened = x.events.countP Event.isOpening
  handles : ∀ before e rest, x.events = before ++ e :: rest → e.isOpening = true →
    e.opens (.ofCount (before.countP Event.isOpening)) = true

namespace InOrder

theorem concat (hx : InOrder x)
    (hopened : s'.opened = x.camera.opened + if e.isOpening then 1 else 0)
    (he : e.isOpening = true → e.opens (.ofCount x.camera.opened) = true) :
    InOrder ⟨s', x.events ++ [e]⟩ where
  opened := by rw [hopened, hx.opened, List.countP_append, List.countP_singleton]
  handles before e' rest hsplit hopening := by
    cases rest using List.reverseRecOn with
    | nil =>
      obtain ⟨rfl, hlast⟩ := List.append_inj' hsplit rfl
      obtain rfl : e = e' := by simpa using hlast
      rw [← hx.opened]
      exact he hopening
    | append_singleton rest last =>
      have hsplit' : x.events ++ [e] = (before ++ e' :: rest) ++ [last] := by simpa using hsplit
      exact hx.handles before e' rest (List.append_inj' hsplit' rfl).1 hopening

theorem called (hx : InOrder x) (heffect : Effect x.camera c answer s') :
    InOrder ⟨s', x.events ++ [.called c answer]⟩ := by
  refine hx.concat heffect.opened_eq fun hopening => ?_
  cases heffect with
  | opened => simp [Event.opens]
  | @refused c => cases c <;> cases hopening
  | closed | selected | configured | registered | deregistered | started | threadless | aborted
  | fetched => cases hopening

theorem of (b : SimulatorBehavior) (canSpawn : Bool) (inputs : List Input) :
    InOrder (.of b canSpawn inputs) :=
  History.after_induction (P := InOrder) (fun _ _ _ _ hx heffect => hx.called heffect)
    (fun _ _ _ _ hx hpassage => hx.concat hpassage.keeps.2.2.2 fun hopening => nomatch hopening)
    ⟨rfl, fun before _ _ hsplit => by cases before <;> cases hsplit⟩ inputs

end InOrder

/-! ## Handles in use -/

/-- Opening number `n`, counted from 0, returned `h`, which has not been closed since. -/
def OpenSince (h : Handle) (n : ℕ) (es : List Event) : Prop :=
  ∃ before e rest, es = before ++ e :: rest ∧ before.countP Event.isOpening = n ∧
    e.opens h = true ∧ ∀ e' ∈ rest, e'.closes h = false

theorem History.tracked (b : SimulatorBehavior) (canSpawn : Bool) (inputs : List Input)
    (h : Handle) :
    Tracked h ((of b canSpawn inputs).camera.sessions.get? h) (of b canSpawn inputs).events :=
  of_turns (P := fun o es => Tracked h o es) (fun _ _ _ _ hes hturn => hes.turn hturn)
    Tracked.nothing canSpawn inputs

/-- The handle of the next opening is in use if the opening 65536 before has not been closed
since. -/
theorem InOrder.isSome_iff (hx : InOrder x) (ht : Tracked h (x.camera.sessions.get? h) x.events)
    (hh : h = .ofCount (x.events.countP Event.isOpening)) :
    (x.camera.sessions.get? h).isSome = true ↔
      ∃ n, n + 65536 = x.events.countP Event.isOpening ∧ OpenSince h n x.events := by
  rw [ht.opened]
  constructor
  · rintro ⟨before, e, rest, hsplit, hopens, hclosed⟩
    have hopening := isOpening_of_opens hopens
    have hnumber := opens_inj hopens (hx.handles before e rest hsplit hopening)
    have hcount : x.events.countP Event.isOpening =
        before.countP Event.isOpening + (rest.countP Event.isOpening + 1) := by
      rw [hsplit, List.countP_append, List.countP_cons_of_pos hopening]
    have hmod := Handle.ofCount_eq_iff.mp (hh.symm.trans hnumber)
    set m := x.events.countP Event.isOpening with hm
    set i := before.countP Event.isOpening with hi
    refine ⟨m - 65536, by omega, ?_⟩
    by_cases hlast : i + 65536 = m
    · exact ⟨before, e, rest, hsplit, by omega, hopens, fun e' he' => by simpa using hclosed e' he'⟩
    · -- the handle was returned again since, last by the opening 65536 before
      obtain ⟨between, e', rest', rfl, hopening', hbetween⟩ :=
        exists_of_lt_countP (show m - 65536 - i - 1 < rest.countP Event.isOpening by omega)
      have hsplit' : x.events = (before ++ e :: between) ++ e' :: rest' := by
        rw [hsplit, List.append_assoc, List.cons_append]
      have hnumber' : (before ++ e :: between).countP Event.isOpening = m - 65536 := by
        rw [List.countP_append, List.countP_cons_of_pos hopening]
        omega
      have hopens' := hx.handles _ e' rest' hsplit' hopening'
      have hsame : Handle.ofCount (m - 65536) = h := by
        rw [hh]
        exact Handle.ofCount_eq_iff.mpr (by omega)
      rw [hnumber', hsame] at hopens'
      refine ⟨_, e', rest', hsplit', hnumber', hopens', fun e'' he'' => ?_⟩
      simpa using hclosed e'' (List.mem_append_right _ (List.mem_cons_of_mem _ he''))
  · rintro ⟨n, -, before, e, rest, hsplit, -, hopens, hclosed⟩
    exact ⟨before, e, rest, hsplit, hopens, fun e' he' => by simpa using hclosed e' he'⟩

/-! ## Opening -/

/-- An opening asks neither whether a handle is left nor whether its handle is in use. -/
theorem opened_iff : ((Call.openCamera name).perform s).1 = .opened h ↔
    s.behavior.Opens name ∧ h = .ofCount s.opened := by
  have heffect := (Call.openCamera name).effect s
  have hrun : Simulator.openCamera name s = (if s.behavior.failStage = some .openDevice then
      fail injectedFailure ("Mock failure injected at " ++ SetupStage.openDevice.name)
    else fun s => (if s.behavior.cameras.contains name then _ else _ : Action (Reply Handle)) s)
      (s.counting (.openCamera name)) := rfl
  have hperform : ((Call.openCamera name).perform s).1 =
      (answered .opened (Simulator.openCamera name) s).1 := rfl
  unfold answered at hperform
  rw [hrun] at hperform
  by_cases hstage : s.behavior.failStage = some .openDevice
  · rw [if_pos hstage] at hperform
    exact iff_of_false (fun hanswer => nomatch hperform.symm.trans hanswer)
      fun hopens => hopens.1.stage hstage
  · rw [if_neg hstage] at hperform
    by_cases hname : (s.counting (.openCamera name)).behavior.cameras.contains name = true
    · rw [if_pos hname] at hperform
      refine ⟨fun hanswer => ⟨⟨hstage, by simpa using! hname⟩, heffect.handle_eq hanswer⟩, ?_⟩
      rintro ⟨-, rfl⟩
      exact hperform
    · rw [if_neg hname] at hperform
      refine iff_of_false (fun hanswer => nomatch hperform.symm.trans hanswer)
        fun hopens => hname ?_
      simpa using! hopens.1.name

/-- The session of the handle gives way to a fresh one, and every other session stays. -/
theorem Effect.get?_of_opened (heffect : Effect s c answer s') (hanswer : answer = .opened h)
    (k : Handle) : s'.sessions.get? k = if h = k then some .fresh else s.sessions.get? k := by
  cases heffect with
  | opened =>
    obtain rfl := Answer.opened.inj hanswer
    exact SessionTable.get?_insert ..
  | refused | closed | selected | configured | registered | deregistered | started | threadless
  | aborted | fetched => cases hanswer

theorem History.of_append (b : SimulatorBehavior) (canSpawn : Bool) (inputs more : List Input) :
    of b canSpawn (inputs ++ more) = (of b canSpawn inputs).after more :=
  List.foldl_append ..

theorem History.after_calls (x : History) (c c' : Call) :
    (x.after [.call c, .call c']).camera = (c'.perform (c.perform x.camera).2).2 := rfl

/-- After openings alone, every handle that one of them returned is in use. -/
theorem History.of_openings (hopens : b.Opens name) (canSpawn : Bool) (n : ℕ) :
    let y := of b canSpawn (List.replicate n (.call (.openCamera name)))
    y.camera.opened = n ∧ ∀ i < n, y.camera.sessions.get? (.ofCount i) = some .fresh := by
  induction n with
  | zero => exact ⟨rfl, fun i hi => absurd hi (Nat.not_lt_zero i)⟩
  | succ n ih =>
    have hbehavior :=
      (reached_of b canSpawn (List.replicate n (.call (.openCamera name)))).behavior
    rw [List.replicate_succ', of_append]
    generalize of b canSpawn (List.replicate n (.call (.openCamera name))) = y at hbehavior ih ⊢
    obtain ⟨hopened, hsessions⟩ := ih
    have heffect := (Call.openCamera name).effect y.camera
    have hanswer : ((Call.openCamera name).perform y.camera).1 = .opened (.ofCount n) :=
      opened_iff.mpr ⟨by rwa [hbehavior], by rw [hopened]⟩
    refine ⟨?_, fun i hi => ?_⟩
    · have hcount := heffect.opened_eq
      rw [hanswer, hopened] at hcount
      exact hcount
    · refine (heffect.get?_of_opened hanswer _).trans ?_
      by_cases hsame : Handle.ofCount n = .ofCount i
      · rw [if_pos hsame]
      · rw [if_neg hsame]
        refine hsessions i (lt_of_le_of_ne (Nat.lt_succ_iff.mp hi) ?_)
        rintro rfl
        exact hsame rfl

/-! ## Every history -/

/-- What an opening returns, and what becomes of the sessions there are. -/
structure HandleLaw (b : SimulatorBehavior) (x : History) : Prop where
  /-- An opening returns the number of openings before it, whatever the table of sessions says. -/
  answers : ∀ name h, ((Call.openCamera name).perform x.camera).1 = .opened h ↔
    b.Opens name ∧ h = .ofCount (x.events.countP Event.isOpening)
  /-- The handle was in use if the opening 65536 before returned it, and it has not been closed
  since. -/
  reissued : ∀ name h, ((Call.openCamera name).perform x.camera).1 = .opened h →
    ((x.camera.sessions.get? h).isSome = true ↔
      ∃ n, n + 65536 = x.events.countP Event.isOpening ∧ OpenSince h n x.events)
  /-- The first 65536 openings return handles that are not in use. -/
  fresh : ∀ name h, ((Call.openCamera name).perform x.camera).1 = .opened h →
    x.events.countP Event.isOpening < 65536 → x.camera.sessions.get? h = none
  /-- A session whose handle is returned is lost; no other session changes. -/
  replaces : ∀ name h, ((Call.openCamera name).perform x.camera).1 = .opened h → ∀ k,
    ((Call.openCamera name).perform x.camera).2.sessions.get? k =
      if h = k then some .fresh else x.camera.sessions.get? k

/-- **Handles.** An opening returns a handle in use exactly if the opening 65536 before returned it
and nobody has closed it since; the session of that handle is then replaced. -/
theorem handle_law (b : SimulatorBehavior) (canSpawn : Bool) (inputs : List Input) :
    HandleLaw b (.of b canSpawn inputs) := by
  have hbehavior := (History.reached_of b canSpawn inputs).behavior
  have horder := InOrder.of b canSpawn inputs
  have htracked := History.tracked b canSpawn inputs
  generalize History.of b canSpawn inputs = x at hbehavior horder htracked ⊢
  have hanswers : ∀ name h, ((Call.openCamera name).perform x.camera).1 = .opened h ↔
      b.Opens name ∧ h = .ofCount (x.events.countP Event.isOpening) := fun name h => by
    rw [opened_iff, hbehavior, horder.opened]
  have hreissued : ∀ name h, ((Call.openCamera name).perform x.camera).1 = .opened h →
      ((x.camera.sessions.get? h).isSome = true ↔
        ∃ n, n + 65536 = x.events.countP Event.isOpening ∧ OpenSince h n x.events) :=
    fun name h hanswer => horder.isSome_iff (htracked h) ((hanswers name h).mp hanswer).2
  refine ⟨hanswers, hreissued, fun name h hanswer hfew => ?fresh, fun name h hanswer k => ?replaces⟩
  case fresh =>
    rw [Option.eq_none_iff_forall_ne_some]
    intro session hs
    obtain ⟨n, hn, -⟩ := (hreissued name h hanswer).mp (by rw [hs]; rfl)
    omega
  case replaces =>
    exact ((Call.openCamera name).effect x.camera).get?_of_opened hanswer k

theorem get?_configure {session : CameraSession} {region : Region} {mode : NegotiatedMode}
    {exposureMs : ℕ} {policy : BufferPolicy} (hs : s.sessions.get? h = some session)
    (hstage : s.behavior.failStage ≠ some .setupAcquisition) (hregion : region.isValid = true) :
    ((Call.configure h region mode exposureMs policy).perform s).2.sessions.get? h =
      some { session with
        frameBytes := some (s.behavior.frameBytes.getD region.frameBytes) } := by
  have heffect := (Call.configure h region mode exposureMs policy).effect s
  generalize (Call.configure h region mode exposureMs policy).perform s = t at heffect ⊢
  obtain ⟨answer, s'⟩ := t
  cases heffect with
  | configured _ hbytes =>
    rw [hbytes]
    exact get?_modify_of_some hs fun session =>
      { session with frameBytes := some (s.behavior.frameBytes.getD region.frameBytes) }
  | refused hrefused =>
    exfalso
    cases hrefused with
    | injected hc hinjected =>
      obtain rfl := Option.some.inj hc
      exact hstage hinjected
    | notOpen hc hnone =>
      obtain rfl : h = _ := Option.some.inj hc
      rw [hs] at hnone
      cases hnone
    | badRegion hbad =>
      rw [hregion] at hbad
      cases hbad

/-- What is called with another handle opens nothing and leaves the session of a handle alone. -/
theorem Effect.of_handle (heffect : Effect s c answer s') (hc : c.handle? = some k) (hk : k ≠ h) :
    s'.opened = s.opened ∧ s'.sessions.get? h = s.sessions.get? h := by
  constructor
  · rw [heffect.opened_eq]
    cases c with
    | openCamera => cases hc
    | _ => rfl
  · refine heffect.get?_of_ne (fun hown => hk (Option.some.inj (hc.symm.trans hown)))
      fun hanswer => ?_
    rw [heffect.handle?_of_opened hanswer] at hc
    cases hc

/-- A handle is not open after a call to close it, even a refused one. -/
theorem get?_close (s : Simulator) (h : Handle) :
    ((Call.close h).perform s).2.sessions.get? h = none := by
  have heffect := (Call.close h).effect s
  generalize (Call.close h).perform s = t at heffect ⊢
  obtain ⟨answer, s'⟩ := t
  cases heffect with
  | closed =>
    dsimp only
    rw [SessionTable.get?_erase, if_pos rfl]
  | refused hrefused =>
    cases hrefused with
    | injected hc => cases hc
    | notOpen hc hnone =>
      obtain rfl : h = _ := Option.some.inj hc
      exact hnone

/-- The next opening returns a handle that has been set up, though another has been closed. -/
theorem reissue {session : CameraSession} {region : Region} {mode : NegotiatedMode} {exposureMs : ℕ}
    {policy : BufferPolicy} {bytes : ℕ} (hopens : s.behavior.Opens name)
    (hstage : s.behavior.failStage ≠ some .setupAcquisition) (hregion : region.isValid = true)
    (hbytes : bytes = s.behavior.frameBytes.getD region.frameBytes)
    (hh : h = .ofCount s.opened) (hs : s.sessions.get? h = some session) (hk : k ≠ h) :
    let s₁ := ((Call.configure h region mode exposureMs policy).perform s).2
    let s₂ := ((Call.close k).perform s₁).2
    let next := (Call.openCamera name).perform s₂
    s₂.sessions.get? k = none ∧
      s₂.sessions.get? h = some { session with frameBytes := some bytes } ∧
      next.1 = .opened h ∧ next.2.sessions.get? h = some .fresh := by
  intro s₁ s₂ next
  have hconfigure := (Call.configure h region mode exposureMs policy).effect s
  have hclose := (Call.close k).effect s₁
  obtain ⟨hcount, -⟩ := hconfigure.of_handle rfl hk.symm
  obtain ⟨hcount', hspared⟩ := hclose.of_handle rfl hk
  have hnext : next.1 = .opened h := by
    refine opened_iff.mpr ⟨?_, ?_⟩
    · rwa [hclose.behavior, hconfigure.behavior]
    · rw [hh, hcount', hcount]
  refine ⟨get?_close .., hspared.trans ?_, hnext, ?_⟩
  · rw [hbytes, get?_configure hs hstage hregion]
  · rw [((Call.openCamera name).effect s₂).get?_of_opened hnext, if_pos rfl]

/-- As many openings as there are handles, one handle of which is then set up and another closed. -/
def crowd : List Input :=
  List.replicate 65536 (.call (.openCamera RunSettings.standardCamera)) ++
    [.call (.configure ⟨0⟩ (.square 64) ⟨.timed, 0⟩ 10 .overwrite), .call (.close ⟨5⟩)]

/-- With a handle to spare, the next opening returns one that has been set up, which thereafter is
not. -/
theorem handle_reissued :
    let x := History.of .standard true crowd
    let next := (Call.openCamera RunSettings.standardCamera).perform x.camera
    x.camera.sessions.get? ⟨5⟩ = none ∧
      x.camera.sessions.get? ⟨0⟩ = some { CameraSession.fresh with frameBytes := some 8192 } ∧
      next.1 = .opened ⟨0⟩ ∧ next.2.sessions.get? ⟨0⟩ = some .fresh := by
  have hopens : SimulatorBehavior.standard.Opens RunSettings.standardCamera :=
    ⟨by decide, by decide⟩
  obtain ⟨hopened, hsessions⟩ := History.of_openings hopens true 65536
  have hbehavior := (History.reached_of .standard true
    (List.replicate 65536 (.call (.openCamera RunSettings.standardCamera)))).behavior
  unfold crowd
  rw [History.of_append]
  dsimp only
  rw [History.after_calls]
  refine reissue (by rwa [hbehavior]) (by rw [hbehavior]; decide) (by decide) ?_ ?_
    (hsessions 0 ?_) (by decide)
  · rw [hbehavior]
    decide
  · rw [hopened]
    decide
  · omega

end Simulator

end FrameWatch
