import FrameWatch.Proofs.Run.Books
import FrameWatch.Proofs.Run.HandOff
import FrameWatch.Proofs.Simulator.Upkeep

/-!
# The books of the simulated camera

Runs leave the simulated camera as they found it: closed, with every call accounted for.

1. `Simulator.SameTable` and `Simulator.SameCounts`: which calls open or close nothing, and what
   each call counts.
2. `Simulation.Squares`: the table of open handles and the counters are those of the calls made and
   of the answers given since the camera was as `first`, and no call of teardown has failed. Every
   question of a run keeps that (`Simulation.rig_books`).
3. `SetupPath.adds`: what one run adds to the counters, by its exit from setup. `Runner.settles`: it
   leaves a camera closed that it finds closed.
4. `Simulation.left_as_found`: any number of runs, each with settings of its own, leave a camera
   that is closed, and counters that square with the runs.
-/

namespace FrameWatch

open Act (failure?)

/-! ## What calls open, close and count -/

/-- The counters of the calls that runs make themselves; the others are those of the handler. -/
def CallCounts.own (c : CallCounts) : CallCounts :=
  { c with fetches := 0, delivered := 0, blocked := 0 }

/-- The counters after one call more. -/
def CallCounts.made (c : CallCounts) : CameraCall → CallCounts
  | .openCamera _ => { c with opens := c.opens + 1 }
  | .register _ => { c with registers := c.registers + 1 }
  | .start .. => { c with starts := c.starts + 1 }
  | .fetch _ => { c with fetches := c.fetches + 1 }
  | .abort _ => { c with aborts := c.aborts + 1 }
  | .deregister _ => { c with deregisters := c.deregisters + 1 }
  | .close _ => { c with closes := c.closes + 1 }
  | .selectMode .. | .configure .. | .lastError => c

theorem SessionTable.map_fst_modify (t : SessionTable) (h : Handle)
    (f : CameraSession → CameraSession) : (t.modify h f).map Prod.fst = t.map Prod.fst := by
  unfold modify
  rw [List.map_map]
  refine List.map_congr_left fun e _ => ?_
  show (if e.1 = h then (e.1, f e.2) else e).1 = e.1
  split <;> rfl

namespace Simulator

variable {s : Simulator} {h : Handle}

/-- The same handles are open, and as many have been opened. -/
def SameTable (s s' : Simulator) : Prop :=
  s'.sessions.map Prod.fst = s.sessions.map Prod.fst ∧ s'.opened = s.opened

theorem sameTable_lenient : Lenient SameTable where
  refl _ := ⟨rfl, rfl⟩
  trans h h' := ⟨h'.1.trans h.1, h'.2.trans h.2⟩
  counts _ _ := ⟨rfl, rfl⟩
  lastError _ _ := ⟨rfl, rfl⟩

theorem sameTable_change (h : Handle) (f : CameraSession → CameraSession) :
    Within SameTable (change h f) := fun s => ⟨s.sessions.map_fst_modify h f, rfl⟩

/-- The same calls have been counted. -/
def SameCounts (s s' : Simulator) : Prop := s'.counts = s.counts

theorem sameCounts_tolerant : Tolerant SameCounts where
  refl _ := rfl
  trans h h' := h'.trans h
  lastError _ _ := rfl

theorem sameCounts_change (h : Handle) (f : CameraSession → CameraSession) :
    Within SameCounts (change h f) := fun _ => rfl

/-- A frame period opens and closes nothing, and counts none of the run's own calls. -/
theorem tick_keeps (h : Handle) (s : Simulator) :
    SameTable s (tick h s).2 ∧ (tick h s).2.counts.own = s.counts.own := by
  have hpassage := passage h s
  generalize (tick h s).1 = announced, (tick h s).2 = s' at hpassage ⊢
  cases hpassage with
  | rested | blocked => exact ⟨⟨rfl, rfl⟩, rfl⟩
  | skipped => exact ⟨⟨by simp only [SessionTable.map_fst_modify], rfl⟩, rfl⟩
  | delivered =>
    refine ⟨⟨?_, rfl⟩, rfl⟩
    unfold deliver
    simp only [SessionTable.map_fst_modify]

/-- The handle that a successful call returns is the one that is opened. -/
theorem openCamera_table (name : String) (s : Simulator) :
    (openCamera name s).2.sessions.map Prod.fst =
        (openCamera name s).1.toOption.toList ++ s.sessions.map Prod.fst ∧
      (openCamera name s).2.opened = s.opened + (openCamera name s).1.toOption.toList.length := by
  set s₁ : Simulator := { s with counts := { s.counts with opens := s.counts.opens + 1 } } with hs₁
  have hrun : openCamera name s = (if s.behavior.failStage = some .openDevice then
      fail injectedFailure ("Mock failure injected at " ++ SetupStage.openDevice.name)
    else fun s => (if s.behavior.cameras.contains name then _ else _ : Action (Reply Handle)) s)
      s₁ := rfl
  rw [hrun]
  split
  · exact ⟨rfl, rfl⟩
  · dsimp only
    split <;> exact ⟨rfl, rfl⟩

theorem exists_session_of_table (hopen : s.sessions.map Prod.fst = [h]) :
    ∃ session, s.sessions = [(h, session)] := by
  obtain ⟨⟨_, session⟩, hs, rfl⟩ := List.map_eq_singleton_iff.mp hopen
  exact ⟨session, hs⟩

theorem get?_of_table (hopen : s.sessions.map Prod.fst = [h]) :
    ∃ session, s.sessions.get? h = some session := by
  obtain ⟨session, hs⟩ := exists_session_of_table hopen
  exact ⟨session, by rw [hs]; exact if_pos rfl⟩

theorem close_of_table (hopen : s.sessions.map Prod.fst = [h]) :
    close h s = (.ok (), { s with
      counts := { s.counts with closes := s.counts.closes + 1 }
      sessions := [] }) := by
  obtain ⟨session, hs⟩ := exists_session_of_table hopen
  obtain ⟨_, hget⟩ := get?_of_table hopen
  have hnone : s.sessions.erase h = [] := by rw [hs]; simp [SessionTable.erase]
  rw [close_of_open hget, hnone]

/-- The call counts itself among the run's own calls. -/
def Counts {α : Type} (c : CameraCall) (call : Action α) : Prop :=
  ∀ s, (call s).2.counts.own = s.counts.own.made c

theorem counts_of_past {α : Type} {c : CameraCall} {count : CallCounts → CallCounts}
    {call : Action α} (h : Past SameCounts count call)
    (hcount : ∀ k, (count k).own = k.own.made c) : Counts c call := fun s =>
  (congrArg CallCounts.own (h s)).trans (hcount s.counts)

theorem counts_openCamera (name : String) : Counts (.openCamera name) (openCamera name) :=
  counts_of_past (sameCounts_tolerant.openCamera fun _ => rfl) fun _ => rfl

theorem counts_selectMode (h : Handle) (mode : ExposureMode) :
    Counts (.selectMode h mode) (selectMode h mode) := fun s =>
  congrArg CallCounts.own (sameCounts_tolerant.selectMode h mode s)

theorem counts_configure (h : Handle) (region : Region) (mode : NegotiatedMode) (ms : ℕ)
    (policy : BufferPolicy) : Counts (.configure h region mode ms policy) (configure h region) :=
  fun s => congrArg CallCounts.own
    (sameCounts_tolerant.configure (fun _ => sameCounts_change _ _) s)

theorem counts_register (h : Handle) (token : ℕ) : Counts (.register h) (register h token) :=
  counts_of_past (sameCounts_tolerant.register (sameCounts_change _ _)) fun _ => rfl

theorem counts_start (h : Handle) (base : Option ℕ) (size bytes : ℕ) :
    Counts (.start h bytes) (start h base size) :=
  counts_of_past (sameCounts_tolerant.start (sameCounts_change _ _) fun _ =>
    sameCounts_change _ _) fun _ => rfl

theorem counts_abort (h : Handle) : Counts (.abort h) (abort h) :=
  counts_of_past (sameCounts_tolerant.abort (sameCounts_change _ _)) fun _ => rfl

theorem counts_deregister (h : Handle) : Counts (.deregister h) (deregister h) :=
  counts_of_past (sameCounts_tolerant.deregister (sameCounts_change _ _)) fun _ => rfl

theorem own_fetch (h : Handle) (s : Simulator) : (fetch h s).2.counts.own = s.counts.own :=
  (congrArg CallCounts.own (sameCounts_tolerant.fetch (sameCounts_change h _) s)).trans rfl

end Simulator

/-! ## The entries of the books -/

namespace Entries

/-- How often a camera was opened successfully. -/
def opened (entries : Entries) : ℕ := entries.countP fun e => e matches (.openCamera _, none)

/-- How often a handler was registered successfully. -/
def registered (entries : Entries) : ℕ := entries.countP fun e => e matches (.register _, none)

@[simp] theorem opened_append (xs ys : Entries) : (xs ++ ys).opened = xs.opened + ys.opened :=
  List.countP_append

@[simp] theorem registered_append (xs ys : Entries) :
    (xs ++ ys).registered = xs.registered + ys.registered := List.countP_append

end Entries

/-- Whether the call is one of teardown. -/
def CameraCall.isTeardown : CameraCall → Bool
  | abort _ | deregister _ | close _ => true
  | _ => false

namespace Simulation

/-- The simulated camera squares with the entries since it was `first`, if `camera` is open. -/
structure Squares (first : Simulator) (camera : Option Handle) (entries : Entries)
    (x : Simulation) : Prop where
  faultless : x.faults = .none
  table : x.camera.sessions.map Prod.fst = camera.toList
  counts : x.camera.counts.own = (entries.map Prod.fst).foldl CallCounts.made first.counts.own
  opened : x.camera.opened = first.opened + entries.opened
  /-- No call of teardown has failed. -/
  succeeds : ∀ c e, (c, some e) ∈ entries → c.isTeardown = false

namespace Squares

variable {first : Simulator} {camera : Option Handle} {entries : Entries} {x x' : Simulation}

/-- What opens and closes nothing, and counts none of the run's own calls, keeps the books. -/
theorem kept (hx : Squares first camera entries x) (hfaults : x'.faults = x.faults)
    (htable : Simulator.SameTable x.camera x'.camera)
    (hcounts : x'.camera.counts.own = x.camera.counts.own) : Squares first camera entries x' where
  faultless := hfaults.trans hx.faultless
  table := htable.1.trans hx.table
  counts := hcounts.trans hx.counts
  opened := htable.2.trans hx.opened
  succeeds := hx.succeeds

/-- A call keeps the books if it counts itself, opens what its answer says and, as a call of
teardown, does not fail. -/
theorem posted {after : Option Handle} {c : CameraCall} {failure : Option CameraError}
    (hx : Squares first camera entries x) (hfaults : x'.faults = x.faults)
    (htable : x'.camera.sessions.map Prod.fst = after.toList)
    (hopened : x'.camera.opened = x.camera.opened + Entries.opened [(c, failure)])
    (hcounts : x'.camera.counts.own = x.camera.counts.own.made c)
    (hsucceeds : c.isTeardown = true → failure = none) :
    Squares first after (entries ++ [(c, failure)]) x' where
  faultless := hfaults.trans hx.faultless
  table := htable
  counts := by rw [List.map_append, List.foldl_append, ← hx.counts]; exact hcounts
  opened := by rw [hopened, hx.opened, Entries.opened_append, Nat.add_assoc]
  succeeds c' e hmem := by
    rcases List.mem_append.mp hmem with hmem | hmem
    · exact hx.succeeds c' e hmem
    · obtain ⟨rfl, rfl⟩ := Prod.mk.inj (List.mem_singleton.mp hmem)
      cases hc : c'.isTeardown with
      | false => rfl
      | true => cases hsucceeds hc

end Squares

section Rig

variable (pace : Pace) (allocator : Allocator) (first : Simulator)

open Simulator

/-- A call to the camera that opens and closes nothing keeps the books. -/
theorem ask_posts {α : Type} {call : Simulator.Action (Simulator.Reply α)} {camera : Option Handle}
    {c : CameraCall} (htable : Within SameTable call) (hcounts : Counts c call)
    (hopened : ∀ failure, Entries.opened [(c, failure)] = 0)
    (hsucceeds : c.isTeardown = true → ∀ s : Simulator,
      s.sessions.map Prod.fst = camera.toList → failure? (call s).1 = none) :
    BookRule.Posts (Squares first) camera (fun _ => camera) c (ask call) := by
  intro entries x hx
  obtain ⟨hkeys, hcount⟩ := htable x.camera
  exact hx.posted rfl (hkeys.trans hx.table) (by rw [hopened]; exact hcount) (hcounts x.camera)
    fun h => hsucceeds h x.camera hx.table

/-- No call fails on its way to the camera. -/
theorem unlessFaulty_posts {call : Simulator.Action (Simulator.Reply Unit)}
    {fault : SimulatorFaults → Bool} {message : String} {camera : Option Handle} {c : CameraCall}
    (hfault : fault .none = false)
    (hposts : BookRule.Posts (Squares first) camera (fun _ => camera) c (ask call)) :
    BookRule.Posts (Squares first) camera (fun _ => camera) c
      (unlessFaulty fault message call) := by
  intro entries x hx
  have hasked : unlessFaulty fault message call x = ask call x := by
    rw [unlessFaulty_eq, hx.faultless, if_neg (by simp [hfault]), ← hx.faultless]
    rfl
  rw [hasked]
  exact hposts entries x hx

theorem openCamera_posts (name : String) :
    BookRule.Posts (Squares first) none Except.toOption (.openCamera name) (openCamera name) := by
  intro entries x hx
  obtain ⟨htable, hopened⟩ := openCamera_table name x.camera
  rw [openCamera_eq]
  refine hx.posted rfl ?_ ?_ (counts_openCamera name x.camera) (fun h => by cases h)
  · show (Simulator.openCamera name x.camera).2.sessions.map Prod.fst = _
    rw [htable, hx.table]
    exact List.append_nil _
  · show (Simulator.openCamera name x.camera).2.opened = _
    rw [hopened]
    cases (Simulator.openCamera name x.camera).1 <;> rfl

theorem close_posts (h : Handle) :
    BookRule.Posts (Squares first) (some h) (fun _ => none) (.close h) (close h) := by
  intro entries x hx
  rw [close_eq, close_of_table hx.table, if_neg (by rw [hx.faultless]; decide)]
  exact hx.posted rfl rfl rfl rfl fun _ => rfl

theorem tick_spares : BookRule.Spares (Squares first) tick := by
  intro camera entries x hx
  cases hh : x.handle with
  | none =>
    obtain ⟨_, faults, handle, epoch, clock, moments, acquiringAtClose⟩ := x
    obtain rfl : handle = none := hh
    exact hx
  | some h =>
    rw [tick_of_handle hh]
    exact hx.kept rfl (tick_keeps h x.camera).1 (tick_keeps h x.camera).2

/-- Every question of a run to the simulated camera keeps the books. -/
theorem rig_books : (rig pace allocator).Books (Squares first) where
  openCamera name := openCamera_posts first name
  selectMode h mode := ask_posts first (sameTable_lenient.selectMode h mode)
    (counts_selectMode h mode) (fun _ => rfl) nofun
  configure h region mode ms policy := ask_posts first
    (sameTable_lenient.configure fun _ => sameTable_change _ _)
    (counts_configure h region mode ms policy) (fun _ => rfl) nofun
  register h := ask_posts first (sameTable_lenient.register (sameTable_change _ _))
    (counts_register h 0) (fun _ => rfl) nofun
  start h buffer := ask_posts first
    (sameTable_lenient.start (sameTable_change _ _) fun _ => sameTable_change _ _)
    (counts_start h (some buffer.base) buffer.size buffer.size) (fun _ => rfl) nofun
  abort h := unlessFaulty_posts first rfl <|
    ask_posts first (sameTable_lenient.abort (sameTable_change _ _)) (counts_abort h)
      (fun _ => rfl) fun _ _ hopen => by rw [(abort_eq (get?_of_table hopen).choose_spec).1]; rfl
  deregister h := unlessFaulty_posts first rfl <|
    ask_posts first (sameTable_lenient.deregister (sameTable_change _ _)) (counts_deregister h)
      (fun _ => rfl) fun _ _ hopen => by
        rw [(deregister_eq (get?_of_table hopen).choose_spec).1]; rfl
  close h := close_posts first h
  fetch h camera entries x hx := by
    dsimp only [rig]
    rw [fetch_eq]
    exact hx.kept rfl (sameTable_lenient.fetch (sameTable_change _ _) x.camera)
      (own_fetch h x.camera)
  lastError _ _ _ hx := hx
  reserve bytes camera entries x hx := by
    rw [reserve_eq]
    cases allocator bytes with
    | none => exact hx
    | some base => exact hx.kept rfl ⟨rfl, rfl⟩ rfl
  arrivals _ _ _ _ hx := hx.kept rfl ⟨rfl, rfl⟩ rfl
  tick := tick_spares first

end Rig

end Simulation

/-! ## What a run adds -/

/-- A run that made these calls has led the counters from `c` to `c'`. -/
structure CallCounts.Adds (c c' : CallCounts) (entries : Entries) : Prop where
  opens : c'.opens = c.opens + 1
  registers : c'.registers ≤ c.registers + 1
  starts : c'.starts + c.registers ≤ c.starts + c'.registers
  aborts : c'.aborts = c.aborts + entries.opened
  closes : c'.closes = c.closes + entries.opened
  deregisters : c'.deregisters = c.deregisters + entries.registered

theorem CallCounts.Adds.of_own {c c' : CallCounts} {entries : Entries}
    (h : c.own.Adds c'.own entries) : c.Adds c' entries :=
  ⟨h.opens, h.registers, h.starts, h.aborts, h.closes, h.deregisters⟩

/-- What a run adds depends on its exit from setup. -/
theorem SetupPath.adds {path : SetupPath} {settings : RunSettings} {f : TeardownFailures}
    {entries : Entries} (h : entries = path.answers settings ++ path.teardownAnswers f)
    (c : CallCounts) : c.Adds ((entries.map Prod.fst).foldl CallCounts.made c) entries := by
  -- the path fixes which calls were made, and what teardown has to give back
  subst h
  cases path <;> constructor <;>
    simp [answers, teardownAnswers, Standing.configureCall, CallCounts.made, Entries.opened,
      Entries.registered] <;> omega

/-- What a run leaves behind that found the camera closed as `x`. -/
structure Simulation.Settles (x x' : Simulation) (entries : Entries) (teardown : TeardownSummary) :
    Prop where
  faultless : x'.faults = .none
  closed : x'.camera.sessions = []
  adds : x.camera.counts.Adds x'.camera.counts entries
  opened : x'.camera.opened = x.camera.opened + entries.opened
  clean : teardown = .clean

theorem Simulation.squares_start {x : Simulation} (hfaults : x.faults = .none)
    (hclosed : x.camera.sessions = []) : x.Squares x.camera none [] where
  faultless := hfaults
  table := congrArg (List.map Prod.fst) hclosed
  counts := rfl
  opened := rfl
  succeeds _ _ h := nomatch h

theorem HandOff.clean_of_succeeds {s : RunState Simulation} {teardown : TeardownSummary}
    (h : HandOff s.past.toList s teardown)
    (hsucceeds : ∀ c e, (c, some e) ∈ answers s.past.toList → c.isTeardown = false) :
    teardown = .clean := by
  obtain ⟨bufferLeaked, contextLeaked⟩ := teardown
  have hbuffer : bufferLeaked ≠ true := fun hleaked => by
    obtain ⟨-, camera, e, hfailed⟩ := h.reportsBuffer.mp hleaked
    cases hsucceeds _ e hfailed
  have hcontext : contextLeaked ≠ true := fun hleaked => by
    obtain ⟨camera, e, hfailed⟩ := h.reportsContext.mp hleaked
    cases hsucceeds _ e hfailed
  rw [Bool.eq_false_of_not_eq_true hbuffer, Bool.eq_false_of_not_eq_true hcontext]
  rfl

/-- A run that finds the camera closed leaves it closed, with all its calls accounted for. -/
theorem Runner.settles {pace : Pace} {allocator : Allocator} {r : Runner Simulation}
    (hfaults : r.rig.faults = .none) (hclosed : r.rig.camera.sessions = []) (number : ℕ) :
    r.rig.Settles (r.run (Simulation.rig pace allocator) number).2.2.rig
      (answers (r.run (Simulation.rig pace allocator) number).2.1.past.toList)
      (r.run (Simulation.rig pace allocator) number).1.teardown := by
  obtain ⟨path, taken, f, hcourse⟩ := r.run_course (Simulation.rig pace allocator) number
  have hbooks := Runner.books (Simulation.rig_books pace allocator r.rig.camera) r number
    (Simulation.squares_start hfaults hclosed)
  have hadds := SetupPath.adds hcourse.answers_eq r.rig.camera.counts.own
  rw [← hbooks.counts] at hadds
  have hhanded := hcourse.handOff ⟨fun hreg => absurd hreg (by simp [RunState.initial]),
    by simp [RunState.initial]⟩
  exact {
    faultless := hbooks.faultless
    closed := List.map_eq_nil_iff.mp hbooks.table
    adds := hadds.of_own
    opened := hbooks.opened
    clean := hhanded.clean_of_succeeds hbooks.succeeds }

/-! ## Runs one after the other -/

/-- A run to be made: with what settings, how frames come meanwhile, and what the mailbox was left
with. -/
structure Attempt where
  settings : RunSettings
  pace : Pace
  allocator : Allocator
  mailbox : Mailbox
  number : ℕ

namespace Attempt

/-- The run on the simulated camera: its outcome, the state in which it ends, and the runner after
it. -/
def run (a : Attempt) (x : Simulation) : Outcome × RunState Simulation × Runner Simulation :=
  (Runner.mk a.settings a.mailbox x).run (Simulation.rig a.pace a.allocator) a.number

/-- The simulated camera at the moment at which the run has it opened. -/
def opening (a : Attempt) (x : Simulation) : Simulation :=
  (Act.deliver (Simulation.rig a.pace a.allocator) (.before (.openCamera a.settings.camera))
    ((RunState.initial x a.mailbox.reset).note (.call (.openCamera a.settings.camera)))).2.rig

/-- The camera is still closed when the run has it opened. -/
theorem closed_opening (a : Attempt) {x : Simulation} (hfaults : x.faults = .none)
    (hclosed : x.camera.sessions = []) : (a.opening x).camera.sessions = [] := by
  have hkept : (a.opening x).Squares x.camera none [] :=
    (Simulation.rig_books a.pace a.allocator x.camera).watches
      (Act.deliver_watches (Simulation.rig a.pace a.allocator) _ _)
      (Simulation.squares_start hfaults hclosed)
  exact List.map_eq_nil_iff.mp hkept.table

end Attempt

namespace Simulation

/-- The runs made one after the other, each with its outcome and the state in which it ends. -/
def history : List Attempt → Simulation → List (Outcome × RunState Simulation)
  | [], _ => []
  | a :: rest, x => ((a.run x).1, (a.run x).2.1) :: history rest (a.run x).2.2.rig

/-- The simulated camera after these runs. -/
def after (attempts : List Attempt) (x : Simulation) : Simulation :=
  attempts.foldl (fun x a => (a.run x).2.2.rig) x

/-- All calls of some runs. -/
def entries (runs : List (Outcome × RunState Simulation)) : Entries :=
  runs.flatMap fun run => answers run.2.past.toList

/-- The camera is as it was before these runs, and its counters square with them. -/
structure Balanced (runs : List (Outcome × RunState Simulation)) (x : Simulation) : Prop where
  closed : x.camera.sessions = []
  idle : ∀ h, x.camera.isAcquiring h = false
  opens : x.camera.counts.opens = runs.length
  opened : x.camera.opened = (entries runs).opened
  registers : x.camera.counts.registers ≤ x.camera.counts.opens
  starts : x.camera.counts.starts ≤ x.camera.counts.registers
  aborts : x.camera.counts.aborts = (entries runs).opened
  closes : x.camera.counts.closes = (entries runs).opened
  deregisters : x.camera.counts.deregisters = (entries runs).registered
  clean : ∀ run ∈ runs, run.1.teardown = .clean

theorem isAcquiring_of_closed {s : Simulator} (hclosed : s.sessions = []) (h : Handle) :
    s.isAcquiring h = false := by
  unfold Simulator.isAcquiring
  rw [hclosed]
  rfl

theorem entries_concat (runs : List (Outcome × RunState Simulation))
    (run : Outcome × RunState Simulation) :
    entries (runs ++ [run]) = entries runs ++ answers run.2.past.toList := by
  simp [entries]

variable {runs : List (Outcome × RunState Simulation)} {x : Simulation}

theorem balanced_fresh (b : SimulatorBehavior) (canSpawn : Bool) (epoch : Timestamp) :
    (fresh (.fresh b canSpawn) .none epoch).Balanced [] where
  closed := rfl
  idle _ := rfl
  opens := rfl
  opened := rfl
  registers := le_rfl
  starts := le_rfl
  aborts := rfl
  closes := rfl
  deregisters := rfl
  clean _ h := nomatch h

/-- One run more. -/
theorem Balanced.run (hx : x.Balanced runs) (hfaults : x.faults = .none) (a : Attempt) :
    (a.run x).2.2.rig.Balanced (runs ++ [((a.run x).1, (a.run x).2.1)]) ∧
      (a.run x).2.2.rig.faults = .none := by
  have hsettles : x.Settles (a.run x).2.2.rig (answers (a.run x).2.1.past.toList)
      (a.run x).1.teardown := Runner.settles (r := ⟨a.settings, a.mailbox, x⟩) hfaults hx.closed _
  have hadds := hsettles.adds
  refine ⟨?_, hsettles.faultless⟩
  constructor
  case closed => exact hsettles.closed
  case idle => exact isAcquiring_of_closed hsettles.closed
  case opens => rw [hadds.opens, hx.opens, List.length_append, List.length_singleton]
  case opened => rw [hsettles.opened, hx.opened, entries_concat, Entries.opened_append]
  case registers => have := hadds.opens; have := hadds.registers; have := hx.registers; omega
  case starts => have := hadds.starts; have := hx.starts; omega
  case aborts => rw [hadds.aborts, hx.aborts, entries_concat, Entries.opened_append]
  case closes => rw [hadds.closes, hx.closes, entries_concat, Entries.opened_append]
  case deregisters =>
    rw [hadds.deregisters, hx.deregisters, entries_concat, Entries.registered_append]
  case clean =>
    exact List.forall_mem_append.mpr ⟨hx.clean, List.forall_mem_singleton.mpr hsettles.clean⟩

/-- Any number of runs more. -/
theorem Balanced.after (hx : x.Balanced runs) (hfaults : x.faults = .none)
    (attempts : List Attempt) :
    (after attempts x).Balanced (runs ++ history attempts x) ∧
      (Simulation.after attempts x).faults = .none := by
  induction attempts generalizing x runs with
  | nil => rw [history, List.append_nil]; exact ⟨hx, hfaults⟩
  | cons a rest ih =>
    obtain ⟨hrun, hfaults'⟩ := hx.run hfaults a
    have hrest := ih hrun hfaults'
    rw [List.append_assoc] at hrest
    exact hrest

/-- **As it was found.** Whatever the behaviour of the simulated camera and whatever runs are made
on it, with whatever settings and however they end: after any number of runs it is closed and
acquires for no handle, it was aborted and closed as often as it was opened and deregistered as
often as a handler was registered, and no run has leaked anything. Every run finds it closed at the
moment at which it opens it. -/
theorem left_as_found (b : SimulatorBehavior) (canSpawn : Bool) (epoch : Timestamp)
    (attempts : List Attempt) :
    (after attempts (fresh (.fresh b canSpawn) .none epoch)).Balanced
        (history attempts (fresh (.fresh b canSpawn) .none epoch)) ∧
      ∀ next : Attempt,
        (next.opening (after attempts (fresh (.fresh b canSpawn) .none epoch))).camera.sessions =
          [] := by
  obtain ⟨hbalanced, hfaults⟩ := (balanced_fresh b canSpawn epoch).after rfl attempts
  exact ⟨hbalanced, fun next => next.closed_opening hfaults hbalanced.closed⟩

/-- The runs may well end in all three ways, one after the other. -/
example :
    let attempt (camera : String) (pace : Pace) : Attempt :=
      ⟨{ RunSettings.standard with camera := camera, targetFrames := 1 }, pace,
        fun _ => some 4096, .empty, 1⟩
    (history [attempt "PMUSBCam00" lockStep, attempt "PMUSBCam00" fun _ _ => (0, .zero),
        attempt "NoSuchCamera" lockStep] (fresh (.fresh .standard true) .none ⟨0, 0⟩)).map
      (·.1.verdict) =
      [.completed, .stalled 1, .setupFailed
        ⟨.openDevice, .camera ⟨3005, "Camera 'NoSuchCamera' not found"⟩⟩
        (some ⟨3005, "Camera 'NoSuchCamera' not found"⟩)] := by
  decide +kernel

end Simulation

end FrameWatch
