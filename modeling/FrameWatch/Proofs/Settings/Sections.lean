import FrameWatch.Proofs.Settings.Records
import FrameWatch.Program.Probe

/-!
# All settings

The settings one by one, with the keys and positions that lead to them, and what a value has to be
like for a configuration to be decoded from it.

1. The slots of each section (`applicationSlots` and so on) are the fields that are decoded.
2. `Setting.all` are the settings themselves: those of all sections, and those of the region inside
   the camera section.
3. A configuration is decoded from the values that fit (`accepts_config_iff`), and each setting from
   what its steps lead to (`settles_config`).
-/

namespace FrameWatch.Settings

open Value

variable {ρ : Type}

/-- The options of the program and of its run command. -/
abbrev Options : Type := CommandLine.GlobalOptions × CommandLine.RunOptions

/-! ## Slots of the sections -/

def applicationSlots : List (Slot Options ApplicationConfig) :=
  [ { name := "name", decode := Decode.text
      get := (·.name), set := fun c s => { c with name := s } },
    { name := "log_level", decode := Decode.text
      get := (·.logLevel), set := fun c s => { c with logLevel := s } },
    { name := "log_format", decode := Decode.logFormat, flag := fun o => o.1.logFormat
      get := (·.logFormat), set := fun c f => { c with logFormat := f } } ]

def cameraSlots : List (Slot Options CameraConfig) :=
  [ { name := "backend", decode := Decode.backend, flag := fun o => o.1.backend
      get := (·.backend), set := fun c b => { c with backend := b } },
    { name := "name", decode := Decode.text
      get := (·.name), set := fun c s => { c with name := s } },
    { name := "region", decode := Decode.region
      get := (·.region), set := fun c r => { c with region := r } },
    { name := "exposure_mode", decode := Decode.exposureMode
      get := (·.exposureMode), set := fun c m => { c with exposureMode := m } },
    { name := "exposure_ms", decode := Decode.count
      get := (·.exposureMs), set := fun c n => { c with exposureMs := n } } ]

def regionSlots : List (Slot Options Region) :=
  [ { name := "s1", decode := Decode.bound, get := (·.s1), set := fun r n => { r with s1 := n } },
    { name := "s2", decode := Decode.bound, get := (·.s2), set := fun r n => { r with s2 := n } },
    { name := "sbin", decode := Decode.bound
      get := (·.sbin), set := fun r n => { r with sbin := n } },
    { name := "p1", decode := Decode.bound, get := (·.p1), set := fun r n => { r with p1 := n } },
    { name := "p2", decode := Decode.bound, get := (·.p2), set := fun r n => { r with p2 := n } },
    { name := "pbin", decode := Decode.bound
      get := (·.pbin), set := fun r n => { r with pbin := n } } ]

def acquisitionSlots : List (Slot Options AcquisitionConfig) :=
  [ { name := "target_frames", decode := Decode.count, flag := fun o => o.2.target
      get := (·.targetFrames), set := fun c n => { c with targetFrames := n } },
    { name := "frame_deadline", decode := Decode.duration, flag := fun o => o.2.deadline
      get := (·.frameDeadline), set := fun c d => { c with frameDeadline := d } },
    { name := "buffer_frames", decode := Decode.size
      get := (·.bufferFrames), set := fun c n => { c with bufferFrames := n } },
    { name := "buffer_limit_bytes", decode := Decode.optional Decode.size
      get := (·.bufferLimit), set := fun c n => { c with bufferLimit := n } },
    { name := "buffer_policy", decode := Decode.bufferPolicy
      get := (·.bufferPolicy), set := fun c p => { c with bufferPolicy := p } },
    { name := "progress_every", decode := Decode.count
      get := (·.progressEvery), set := fun c n => { c with progressEvery := n } },
    { name := "runs", decode := Decode.count, flag := fun o => o.2.runs
      get := (·.runs), set := fun c n => { c with runs := n } } ]

def reportSlots : List (Slot Options ReportConfig) :=
  [ { name := "format", decode := Decode.reportFormat
      flag := fun o => if o.2.json then some .json else none
      get := (·.format), set := fun c f => { c with format := f } } ]

def simulatorSlots : List (Slot Options SimulatorBehavior) :=
  [ { name := "cameras", decode := Decode.list Decode.text
      get := (·.cameras), set := fun b names => { b with cameras := names } },
    { name := "frame_interval", decode := Decode.duration
      get := (·.frameInterval), set := fun b d => { b with frameInterval := d } },
    { name := "stop_after", decode := Decode.optional Decode.count
      get := (·.stopAfter), set := fun b n => { b with stopAfter := n } },
    { name := "fail_fetch_on", decode := Decode.list Decode.frameNumber
      get := (·.failFetchOn), set := fun b ns => { b with failFetchOn := ns } },
    { name := "null_info_on", decode := Decode.list Decode.frameNumber
      get := (·.nullInfoOn), set := fun b ns => { b with nullInfoOn := ns } },
    { name := "drop_frames", decode := Decode.list Decode.frameNumber
      get := (·.dropFrames), set := fun b ns => { b with dropFrames := ns } },
    { name := "fail_stage", decode := Decode.optional Decode.setupStage
      get := (·.failStage), set := fun b s => { b with failStage := s } },
    { name := "ready_queue_depth", decode := Decode.size
      get := (·.readyQueueDepth), set := fun b n => { b with readyQueueDepth := n } },
    { name := "frame_bytes", decode := Decode.optional Decode.size
      get := (·.frameBytes), set := fun b n => { b with frameBytes := n } },
    { name := "default_exposure_mode", decode := Decode.rawMode
      get := (·.defaultExposureMode), set := fun b n => { b with defaultExposureMode := n } } ]

def configSlots : List (Slot Options Config) :=
  [ { name := "application", decode := Decode.application
      get := (·.application), set := fun c a => { c with application := a } },
    { name := "camera", decode := Decode.camera
      get := (·.camera), set := fun c a => { c with camera := a } },
    { name := "acquisition", decode := Decode.acquisition
      get := (·.acquisition), set := fun c a => { c with acquisition := a } },
    { name := "report", decode := Decode.report
      get := (·.report), set := fun c a => { c with report := a } },
    { name := "mock", decode := Decode.simulator
      get := (·.simulator), set := fun c b => { c with simulator := b } } ]

theorem layout_application : Layout applicationSlots :=
  ⟨by simp [applicationSlots], by simp [applicationSlots, Slot.Spares], by decide⟩

theorem layout_camera : Layout cameraSlots :=
  ⟨by simp [cameraSlots], by simp [cameraSlots, Slot.Spares], by decide⟩

theorem layout_acquisition : Layout acquisitionSlots :=
  ⟨by simp [acquisitionSlots], by simp [acquisitionSlots, Slot.Spares], by decide⟩

theorem layout_report : Layout reportSlots :=
  ⟨by simp [reportSlots], by simp [reportSlots], by decide⟩

theorem layout_simulator : Layout simulatorSlots :=
  ⟨by simp [simulatorSlots], by simp [simulatorSlots, Slot.Spares], by decide⟩

theorem layout_config : Layout configSlots :=
  ⟨by simp [configSlots], by simp [configSlots, Slot.Spares], by decide⟩

theorem application_eq : Decode.application =
    Decode.record "ApplicationConfig" Config.standard.application
      (applicationSlots.map Slot.field) := rfl

theorem camera_eq : Decode.camera =
    Decode.record "CameraConfig" Config.standard.camera (cameraSlots.map Slot.field) := rfl

theorem acquisition_eq : Decode.acquisition =
    Decode.record "AcquisitionConfig" Config.standard.acquisition
      (acquisitionSlots.map Slot.field) := rfl

theorem report_eq : Decode.report =
    Decode.record "ReportConfig" Config.standard.report (reportSlots.map Slot.field) := rfl

theorem simulator_eq : Decode.simulator =
    Decode.record "MockBehavior" SimulatorBehavior.standard
      (simulatorSlots.map Slot.field) := rfl

theorem config_eq : Decode.config =
    Decode.record "ProbeConfig" Config.standard (configSlots.map Slot.field) := rfl

/-! ## The region -/

namespace Region

open Decode (RegionDraft regionFields bound)

/-- The slots of a region of which not all fields are known. -/
def draftSlots : List (Slot Options RegionDraft) :=
  [ { name := "s1", decode := fun v => (bound v).map some
      get := (·.s1), set := fun r n => { r with s1 := n } },
    { name := "s2", decode := fun v => (bound v).map some
      get := (·.s2), set := fun r n => { r with s2 := n } },
    { name := "sbin", decode := fun v => (bound v).map some
      get := (·.sbin), set := fun r n => { r with sbin := n } },
    { name := "p1", decode := fun v => (bound v).map some
      get := (·.p1), set := fun r n => { r with p1 := n } },
    { name := "p2", decode := fun v => (bound v).map some
      get := (·.p2), set := fun r n => { r with p2 := n } },
    { name := "pbin", decode := fun v => (bound v).map some
      get := (·.pbin), set := fun r n => { r with pbin := n } } ]

theorem layout_draft : Layout draftSlots :=
  ⟨by simp [draftSlots], by simp [draftSlots, Slot.Spares], by decide⟩

theorem regionFields_eq : regionFields = draftSlots.map Slot.field := by
  have hfield (name : String) (set : RegionDraft → Option ℕ → RegionDraft) :
      Decode.field name (fun v => (bound v).map some) set =
        Decode.field name bound fun r n => set r (some n) := by
    show Decode.Field.mk name _ = Decode.Field.mk name _
    congr 1
    funext r v
    dsimp only
    cases bound v <;> rfl
  simp only [draftSlots, List.map_cons, List.map_nil, Slot.field, hfield]
  rfl

/-- Nothing is known of the region. -/
def blank : RegionDraft := ⟨none, none, none, none, none, none⟩

/-- All of the region is known. -/
def drafted (r : Region) : RegionDraft :=
  ⟨some r.s1, some r.s2, some r.sbin, some r.p1, some r.p2, some r.pbin⟩

theorem finish_eq_ok {d : RegionDraft} {r : Region} : d.finish = .ok r ↔ d = drafted r := by
  obtain ⟨s1, s2, sbin, p1, p2, pbin⟩ := d
  obtain ⟨t1, t2, tbin, q1, q2, qbin⟩ := r
  cases s1 <;> cases s2 <;> cases sbin <;> cases p1 <;> cases p2 <;> cases pbin <;>
    simp [RegionDraft.finish, drafted, bind, Except.bind, pure, Except.pure]

theorem region_eq_record {v : Value} {r : Region} :
    Decode.region v = .ok r ↔
      Decode.record "Region" blank (draftSlots.map Slot.field) v = .ok (drafted r) := by
  unfold Decode.region
  rw [regionFields_eq, bind_eq_ok]
  constructor
  · rintro ⟨d, hd, hr⟩
    split at hr
    · rename_i r' hfinish
      obtain rfl := Except.ok.inj hr
      rwa [← finish_eq_ok.mp hfinish]
    · cases hr
  · intro hd
    refine ⟨_, hd, ?_⟩
    rw [finish_eq_ok.mpr rfl]
    rfl

/-- The value, if there is one, is the bound `n`. -/
def IsBound (v : Option Value) (n : ℕ) : Prop := ∃ w, v = some w ∧ bound w = .ok n

/-- What the draft holds of a bound. -/
def Drafts (v : Option Value) (n : Option ℕ) : Prop :=
  match v with
  | some w => (bound w).map some = .ok n
  | none => n = none

theorem Drafts.eq_some_iff {v : Option Value} {d : Option ℕ} (h : Drafts v d) (n : ℕ) :
    d = some n ↔ IsBound v n := by
  unfold Drafts at h
  cases v with
  | none => simp [IsBound, h]
  | some w =>
    dsimp only at h
    cases hw : bound w with
    | error e => rw [hw] at h; cases h
    | ok m =>
      rw [hw] at h
      obtain rfl := Except.ok.inj h
      simp [IsBound, hw]

theorem drafts_of_record {v : Value} (hv : v.WellFormed) {d : RegionDraft}
    (hd : Decode.record "Region" blank (draftSlots.map Slot.field) v = .ok d) :
    Drafts (v.item? ("s1", 0)) d.s1 ∧ Drafts (v.item? ("s2", 1)) d.s2 ∧
      Drafts (v.item? ("sbin", 2)) d.sbin ∧ Drafts (v.item? ("p1", 3)) d.p1 ∧
      Drafts (v.item? ("p2", 4)) d.p2 ∧ Drafts (v.item? ("pbin", 5)) d.pbin :=
  have hholds (i : ℕ) {s : Slot Options RegionDraft} (hs : draftSlots[i]? = some s) :=
    Decode.holds_record layout_draft hv hd hs
  ⟨(hholds 0 rfl :), (hholds 1 rfl :), (hholds 2 rfl :), (hholds 3 rfl :), (hholds 4 rfl :),
    (hholds 5 rfl :)⟩

/-- A region has all its bounds. -/
def HasBounds (v : Value) (r : Region) : Prop :=
  IsBound (v.item? ("s1", 0)) r.s1 ∧ IsBound (v.item? ("s2", 1)) r.s2 ∧
    IsBound (v.item? ("sbin", 2)) r.sbin ∧ IsBound (v.item? ("p1", 3)) r.p1 ∧
    IsBound (v.item? ("p2", 4)) r.p2 ∧ IsBound (v.item? ("pbin", 5)) r.pbin

theorem IsBound.accepts {v : Option Value} {n : ℕ} (h : IsBound v n) :
    ∀ w, v = some w → Accepts (fun v => (bound v).map some) w := by
  intro w hw
  obtain ⟨w', hw', hbound⟩ := h
  obtain rfl := Option.some.inj (hw'.symm.trans hw)
  exact ⟨some n, congrArg (Except.map some) hbound⟩

theorem HasBounds.accepts {v : Value} {r : Region} (h : HasBounds v r) (i : ℕ)
    (s : Slot Options RegionDraft) (hs : draftSlots[i]? = some s) :
    ∀ w, v.item? (s.name, i) = some w → Accepts s.decode w := by
  obtain ⟨h1, h2, h3, h4, h5, h6⟩ := h
  match i, hs with
  | 0, hs => exact Option.some.inj hs ▸ h1.accepts
  | 1, hs => exact Option.some.inj hs ▸ h2.accepts
  | 2, hs => exact Option.some.inj hs ▸ h3.accepts
  | 3, hs => exact Option.some.inj hs ▸ h4.accepts
  | 4, hs => exact Option.some.inj hs ▸ h5.accepts
  | 5, hs => exact Option.some.inj hs ▸ h6.accepts
  | i + 6, hs => cases hs

/-- A region is decoded from a table or a list that has all its bounds. -/
theorem region_eq_ok_iff {v : Value} (hv : v.WellFormed) {r : Region} :
    Decode.region v = .ok r ↔ v.IsRecord ∧ HasBounds v r := by
  have hdrafted {d : RegionDraft}
      (hd : Decode.record "Region" blank (draftSlots.map Slot.field) v = .ok d) :
      d = drafted r ↔ HasBounds v r := by
    obtain ⟨h1, h2, h3, h4, h5, h6⟩ := drafts_of_record hv hd
    unfold HasBounds
    rw [← h1.eq_some_iff, ← h2.eq_some_iff, ← h3.eq_some_iff, ← h4.eq_some_iff,
      ← h5.eq_some_iff, ← h6.eq_some_iff]
    obtain ⟨s1, s2, sbin, p1, p2, pbin⟩ := d
    simp [drafted]
  rw [region_eq_record]
  constructor
  · intro hd
    exact ⟨((Decode.accepts_record_iff layout_draft hv).mp ⟨_, hd⟩).1, (hdrafted hd).mp rfl⟩
  · rintro ⟨hrecord, hbounds⟩
    obtain ⟨d, hd⟩ := (Decode.accepts_record_iff layout_draft hv).mpr
      ⟨hrecord, hbounds.accepts⟩
    rwa [(hdrafted hd).mpr hbounds] at hd

/-- Every bound of a region is decoded from what its step leads to. -/
theorem HasBounds.of_slot {v : Value} {r : Region} (h : HasBounds v r) {i : ℕ}
    {s : Slot Options Region} (hs : regionSlots[i]? = some s) :
    ∃ w, v.item? (s.name, i) = some w ∧ s.decode w = .ok (s.get r) := by
  obtain ⟨h1, h2, h3, h4, h5, h6⟩ := h
  match i, hs with
  | 0, hs => exact Option.some.inj hs ▸ h1
  | 1, hs => exact Option.some.inj hs ▸ h2
  | 2, hs => exact Option.some.inj hs ▸ h3
  | 3, hs => exact Option.some.inj hs ▸ h4
  | 4, hs => exact Option.some.inj hs ▸ h5
  | 5, hs => exact Option.some.inj hs ▸ h6
  | i + 6, hs => cases hs

theorem settles_region (standard : Region) {i : ℕ} {s : Slot Options Region}
    (hs : regionSlots[i]? = some s) :
    Settles Decode.region standard [(s.name, i)] s.decode s.get := by
  intro v r hv hr
  obtain ⟨w, hw, hdecode⟩ := ((region_eq_ok_iff hv).mp hr).2.of_slot hs
  rw [at?_singleton, hw]
  exact hdecode

/-- A region is decoded from a table or a list with all its bounds. -/
theorem accepts_region_iff {v : Value} (hv : v.WellFormed) :
    Accepts Decode.region v ↔
      v.IsRecord ∧ ∀ (i : ℕ) s, regionSlots[i]? = some s →
        ∃ w, v.item? (s.name, i) = some w ∧ Accepts s.decode w := by
  constructor
  · rintro ⟨r, hr⟩
    obtain ⟨hrecord, hbounds⟩ := (region_eq_ok_iff hv).mp hr
    refine ⟨hrecord, fun i s hs => ?_⟩
    obtain ⟨w, hw, hdecode⟩ := hbounds.of_slot hs
    exact ⟨w, hw, _, hdecode⟩
  · rintro ⟨hrecord, hslots⟩
    have hbound (i : ℕ) (s : Slot Options Region) (hs : regionSlots[i]? = some s) :
        ∃ a w, v.item? (s.name, i) = some w ∧ s.decode w = .ok a :=
      let ⟨w, hw, a, ha⟩ := hslots i s hs
      ⟨a, w, hw, ha⟩
    obtain ⟨s1, h1⟩ := hbound 0 _ rfl
    obtain ⟨s2, h2⟩ := hbound 1 _ rfl
    obtain ⟨sbin, h3⟩ := hbound 2 _ rfl
    obtain ⟨p1, h4⟩ := hbound 3 _ rfl
    obtain ⟨p2, h5⟩ := hbound 4 _ rfl
    obtain ⟨pbin, h6⟩ := hbound 5 _ rfl
    exact ⟨⟨s1, s2, sbin, p1, p2, pbin⟩,
      (region_eq_ok_iff hv).mpr ⟨hrecord, h1, h2, h3, h4, h5, h6⟩⟩

end Region

/-! ## Settings -/

/-- A setting: the steps that lead to it, how it is decoded, where it stands in a configuration, and
the option that takes its place. -/
structure Setting where
  steps : List Step
  {Kind : Type}
  decode : Decoder Kind
  get : Config → Kind
  flag : Options → Option Kind

namespace Setting

/-- The keys that lead to the setting. -/
def path (s : Setting) : List String := keys s.steps

/-- The setting of a slot that stands in a record of the configuration. -/
def ofSlot (outer : List Step) (reach : Config → ρ) (slot : Slot Options ρ) (position : ℕ) :
    Setting where
  steps := outer ++ [(slot.name, position)]
  decode := slot.decode
  get c := slot.get (reach c)
  flag := slot.flag

/-- The settings of all slots of a record of the configuration. -/
def inRecord (outer : List Step) (reach : Config → ρ) (slots : List (Slot Options ρ)) :
    List Setting :=
  slots.zipIdx.map fun slot => ofSlot outer reach slot.1 slot.2

theorem mem_inRecord {outer : List Step} {reach : Config → ρ} {slots : List (Slot Options ρ)}
    {s : Setting} :
    s ∈ inRecord outer reach slots ↔
      ∃ (i : ℕ) (slot : Slot Options ρ), slots[i]? = some slot ∧ ofSlot outer reach slot i = s := by
  unfold inRecord
  rw [List.mem_map]
  constructor
  · rintro ⟨⟨slot, i⟩, hmem, rfl⟩
    exact ⟨i, slot, List.mem_zipIdx_iff_getElem?.mp hmem, rfl⟩
  · rintro ⟨i, slot, hslot, rfl⟩
    exact ⟨(slot, i), List.mem_zipIdx_iff_getElem?.mpr hslot, rfl⟩

theorem forall_inRecord {outer : List Step} {reach : Config → ρ} {slots : List (Slot Options ρ)}
    {P : Setting → Prop} :
    (∀ s ∈ inRecord outer reach slots, P s) ↔
      ∀ (i : ℕ) slot, slots[i]? = some slot → P (ofSlot outer reach slot i) := by
  simp only [mem_inRecord]
  exact ⟨fun h i slot hslot => h _ ⟨i, slot, hslot, rfl⟩,
    fun h s ⟨i, slot, hslot, hs⟩ => hs ▸ h i slot hslot⟩

/-- A setting stands where its step leads from its record. -/
theorem at?_ofSlot (outer : List Step) (reach : Config → ρ) (slot : Slot Options ρ) (i : ℕ)
    (v : Value) :
    v.at? (ofSlot outer reach slot i).steps = (v.at? outer).bind (·.item? (slot.name, i)) := by
  show v.at? (outer ++ [(slot.name, i)]) = _
  rw [at?_append]
  exact congrArg _ (funext fun w => at?_singleton _ w)

/-- The steps to the region. -/
def regionSteps : List Step := [("camera", 1), ("region", 2)]

/-- The bounds of the region. -/
def region : List Setting := inRecord regionSteps (·.camera.region) regionSlots

/-- All settings. The region is none itself: its bounds are. -/
def all : List Setting :=
  inRecord [("application", 0)] (·.application) applicationSlots ++
    (inRecord [("camera", 1)] (·.camera) cameraSlots).filter (·.steps ≠ regionSteps) ++ region ++
    inRecord [("acquisition", 2)] (·.acquisition) acquisitionSlots ++
    inRecord [("report", 3)] (·.report) reportSlots ++
    inRecord [("mock", 4)] (·.simulator) simulatorSlots

example : all.length = 31 := rfl

end Setting

/-! ## What is decoded -/

open Decode (config)

theorem settles_inRecord {outer : List Step} {reach : Config → ρ} {slots : List (Slot Options ρ)}
    {decode : Decoder ρ} (houter : Settles config Config.standard outer decode reach)
    (hslots : ∀ {i : ℕ} {slot : Slot Options ρ}, slots[i]? = some slot →
      Settles decode (reach Config.standard) [(slot.name, i)] slot.decode slot.get) :
    ∀ s ∈ Setting.inRecord outer reach slots,
      Settles config Config.standard s.steps s.decode s.get :=
  Setting.forall_inRecord.mpr fun _ _ hslot => houter.trans (hslots hslot)

theorem settles_section {i : ℕ} {slot : Slot Options Config} (hslot : configSlots[i]? = some slot) :
    Settles config Config.standard [(slot.name, i)] slot.decode slot.get :=
  settles_record layout_config _ _ hslot

theorem settles_camera {i : ℕ} {slot : Slot Options CameraConfig}
    (hslot : cameraSlots[i]? = some slot) :
    Settles Decode.camera Config.standard.camera [(slot.name, i)] slot.decode slot.get :=
  settles_record layout_camera _ _ hslot

/-- Every setting is decoded from what its steps lead to, or keeps its built-in value. -/
theorem settles_config :
    ∀ s ∈ Setting.all, Settles config Config.standard s.steps s.decode s.get := by
  have hregion : Settles config Config.standard Setting.regionSteps Decode.region
      (·.camera.region) :=
    (settles_section (i := 1) rfl).trans (settles_camera (i := 2) rfl)
  intro s hs
  simp only [Setting.all, List.mem_append] at hs
  obtain ((((h | h) | h) | h) | h) | h := hs
  · exact settles_inRecord (settles_section (i := 0) rfl)
      (settles_record layout_application _ _) s h
  · exact settles_inRecord (settles_section (i := 1) rfl) settles_camera s
      (List.mem_of_mem_filter h)
  · exact settles_inRecord hregion (Region.settles_region _) s h
  · exact settles_inRecord (settles_section (i := 2) rfl)
      (settles_record layout_acquisition _ _) s h
  · exact settles_inRecord (settles_section (i := 3) rfl) (settles_record layout_report _ _) s h
  · exact settles_inRecord (settles_section (i := 4) rfl) (settles_record layout_simulator _ _) s h

/-! ## What can be decoded -/

/-- A section whose value is a table or a list of values that are accepted. -/
def AcceptsAll (slots : List (Slot Options ρ)) (w : Value) : Prop :=
  w.IsRecord ∧ ∀ (i : ℕ) slot, slots[i]? = some slot →
    ∀ x, w.item? (slot.name, i) = some x → Accepts slot.decode x

theorem acceptsAll_at?_iff {v : Value} {outer : List Step} {reach : Config → ρ}
    {slots : List (Slot Options ρ)} :
    (∀ w, v.at? outer = some w → AcceptsAll slots w) ↔
      (∀ w, v.at? outer = some w → w.IsRecord) ∧
        ∀ s ∈ Setting.inRecord outer reach slots, ∀ x, v.at? s.steps = some x →
          Accepts s.decode x := by
  simp only [Setting.forall_inRecord, Setting.at?_ofSlot]
  constructor
  · refine fun h => ⟨fun w hw => (h w hw).1, fun i slot hslot x hx => ?_⟩
    obtain ⟨w, hw, hx⟩ := Option.bind_eq_some_iff.mp hx
    exact (h w hw).2 i slot hslot x hx
  · rintro ⟨hrecord, hsettings⟩ w hw
    refine ⟨hrecord w hw, fun i slot hslot x hx => hsettings i slot hslot x ?_⟩
    exact Option.bind_eq_some_iff.mpr ⟨w, hw, hx⟩

/-- The steps to all sections, the region among them. -/
def Setting.sections : List (List Step) :=
  [[("application", 0)], [("camera", 1)], regionSteps, [("acquisition", 2)], [("report", 3)],
    [("mock", 4)]]

/-- What a value has to be like for a configuration to be decoded from it: its sections are tables
or lists, its settings are accepted, and its region, if it has one, has all bounds. -/
structure Fits (v : Value) : Prop where
  sections : ∀ steps ∈ Setting.sections, ∀ w, v.at? steps = some w → w.IsRecord
  settings : ∀ s ∈ Setting.all, ∀ w, v.at? s.steps = some w → Accepts s.decode w
  region : v.at? Setting.regionSteps ≠ none → ∀ s ∈ Setting.region, v.at? s.steps ≠ none

/-- The settings of the camera section are its own and the region. -/
theorem forall_camera_iff {P : Setting → Prop} :
    (∀ s ∈ Setting.inRecord [("camera", 1)] (·.camera) cameraSlots, P s) ↔
      (∀ s ∈ (Setting.inRecord [("camera", 1)] (·.camera) cameraSlots).filter
        (·.steps ≠ Setting.regionSteps), P s) ∧
      P ⟨Setting.regionSteps, Decode.region, (·.camera.region), fun _ => none⟩ := by
  simp [Setting.inRecord, cameraSlots, Setting.ofSlot, Setting.regionSteps]
  tauto

section Fits

variable {v : Value} (hv : v.WellFormed)

include hv

/-- A section is accepted if it is a table or a list with settings that are. -/
theorem accepts_section_iff {slots : List (Slot Options ρ)} (h : Layout slots) (name : String)
    (standard : ρ) (outer : List Step) (reach : Config → ρ) :
    (∀ w, v.at? outer = some w →
        Accepts (Decode.record name standard (slots.map Slot.field)) w) ↔
      (∀ w, v.at? outer = some w → w.IsRecord) ∧
        ∀ s ∈ Setting.inRecord outer reach slots, ∀ x, v.at? s.steps = some x →
          Accepts s.decode x := by
  rw [← acceptsAll_at?_iff]
  exact forall_congr' fun w => forall_congr' fun hw => Decode.accepts_record_iff h (hv.at? hw)

theorem accepts_region_at?_iff :
    (∀ w, v.at? Setting.regionSteps = some w → Accepts Decode.region w) ↔
      (∀ w, v.at? Setting.regionSteps = some w → w.IsRecord) ∧
        (∀ s ∈ Setting.region, ∀ x, v.at? s.steps = some x → Accepts s.decode x) ∧
          (v.at? Setting.regionSteps ≠ none → ∀ s ∈ Setting.region, v.at? s.steps ≠ none) := by
  unfold Setting.region
  simp only [Setting.forall_inRecord, Setting.at?_ofSlot]
  cases hregion : v.at? Setting.regionSteps with
  | none => simp
  | some w =>
    simp only [Option.some.injEq, forall_eq', Option.bind_some, ne_eq, reduceCtorEq,
      not_false_eq_true, forall_const, Region.accepts_region_iff (hv.at? hregion)]
    refine and_congr_right fun _ => ⟨fun h => ⟨fun i slot hslot x hx => ?_, fun i slot hslot => ?_⟩,
      fun ⟨haccepts, hsome⟩ i slot hslot => ?_⟩
    · obtain ⟨x', hx', hdecode⟩ := h i slot hslot
      exact Option.some.inj (hx'.symm.trans hx) ▸ hdecode
    · obtain ⟨x', hx', -⟩ := h i slot hslot
      exact hx' ▸ Option.some_ne_none x'
    · obtain ⟨x, hx⟩ := Option.ne_none_iff_exists'.mp (hsome i slot hslot)
      exact ⟨x, hx, haccepts i slot hslot x hx⟩

/-- A configuration is decoded from a table or a list if every section in it is. -/
theorem accepts_config_iff_sections (hroot : v.IsRecord) : Accepts config v ↔
    (∀ w, v.at? [("application", 0)] = some w → Accepts Decode.application w) ∧
    (∀ w, v.at? [("camera", 1)] = some w → Accepts Decode.camera w) ∧
    (∀ w, v.at? [("acquisition", 2)] = some w → Accepts Decode.acquisition w) ∧
    (∀ w, v.at? [("report", 3)] = some w → Accepts Decode.report w) ∧
    ∀ w, v.at? [("mock", 4)] = some w → Accepts Decode.simulator w := by
  rw [config_eq, Decode.accepts_record_iff layout_config hv]
  simp only [at?_singleton]
  constructor
  · rintro ⟨-, h⟩
    exact ⟨h 0 _ rfl, h 1 _ rfl, h 2 _ rfl, h 3 _ rfl, h 4 _ rfl⟩
  · rintro ⟨h0, h1, h2, h3, h4⟩
    refine ⟨hroot, fun i slot hslot => ?_⟩
    match i, hslot with
    | 0, hslot => exact Option.some.inj hslot ▸ h0
    | 1, hslot => exact Option.some.inj hslot ▸ h1
    | 2, hslot => exact Option.some.inj hslot ▸ h2
    | 3, hslot => exact Option.some.inj hslot ▸ h3
    | 4, hslot => exact Option.some.inj hslot ▸ h4
    | i + 5, hslot => cases hslot

/-- A configuration is decoded just from the values that fit. -/
theorem accepts_config_iff (hroot : v.IsRecord) : Accepts config v ↔ Fits v := by
  have happlication := accepts_section_iff hv layout_application "ApplicationConfig"
    Config.standard.application [("application", 0)] (·.application)
  have hcamera := accepts_section_iff hv layout_camera "CameraConfig" Config.standard.camera
    [("camera", 1)] (·.camera)
  have hregion := accepts_region_at?_iff hv
  have hacquisition := accepts_section_iff hv layout_acquisition "AcquisitionConfig"
    Config.standard.acquisition [("acquisition", 2)] (·.acquisition)
  have hreport := accepts_section_iff hv layout_report "ReportConfig" Config.standard.report
    [("report", 3)] (·.report)
  have hsimulator := accepts_section_iff hv layout_simulator "MockBehavior"
    SimulatorBehavior.standard [("mock", 4)] (·.simulator)
  rw [forall_camera_iff] at hcamera
  rw [accepts_config_iff_sections hv hroot, application_eq, camera_eq, acquisition_eq, report_eq,
    simulator_eq, happlication, hcamera, hregion, hacquisition, hreport, hsimulator]
  constructor
  · rintro ⟨⟨a, as⟩, ⟨c, cs, r, rs, hcomplete⟩, ⟨q, qs⟩, ⟨p, ps⟩, m, ms⟩
    refine ⟨?_, ?_, hcomplete⟩
    · simp only [Setting.sections, List.forall_mem_cons]
      exact ⟨a, c, r, q, p, m, fun _ h => absurd h List.not_mem_nil⟩
    · simp only [Setting.all, List.forall_mem_append]
      exact ⟨⟨⟨⟨⟨as, cs⟩, rs⟩, qs⟩, ps⟩, ms⟩
  · rintro ⟨hrecords, hsettings, hcomplete⟩
    simp only [Setting.sections, List.forall_mem_cons] at hrecords
    simp only [Setting.all, List.forall_mem_append] at hsettings
    obtain ⟨a, c, r, q, p, m, -⟩ := hrecords
    obtain ⟨⟨⟨⟨⟨as, cs⟩, rs⟩, qs⟩, ps⟩, ms⟩ := hsettings
    exact ⟨⟨a, as⟩, ⟨c, cs, r, rs, hcomplete⟩, ⟨q, qs⟩, ⟨p, ps⟩, m, ms⟩

end Fits

/-! ## Tables that stand for no record -/

/-- No table is decoded. -/
def RefusesTables (decode : Decoder ρ) : Prop :=
  ∀ (o : Origin) (fields : List (String × Value)), (Value.table o fields).WellFormed →
    ¬ Accepts decode (.table o fields)

@[simp] theorem refusesTables_text : RefusesTables Decode.text :=
  fun _ _ _ ⟨_, h⟩ => nomatch h

@[simp] theorem refusesTables_duration : RefusesTables Decode.duration :=
  fun _ _ _ ⟨_, h⟩ => nomatch h

@[simp] theorem refusesTables_integer (low high : Int) (expected : String) :
    RefusesTables (Decode.integer low high expected) :=
  fun _ _ _ ⟨_, h⟩ => nomatch h

@[simp] theorem refusesTables_word (bits : ℕ) (expected : String) :
    RefusesTables (Decode.word bits expected) :=
  fun _ _ _ ⟨_, h⟩ => nomatch h

@[simp] theorem refusesTables_list (decode : Decoder ρ) : RefusesTables (Decode.list decode) :=
  fun _ _ _ ⟨_, h⟩ => nomatch h

theorem RefusesTables.optional {decode : Decoder ρ} (h : RefusesTables decode) :
    RefusesTables (Decode.optional decode) := by
  rintro o fields hv ⟨a, ha⟩
  have hrun : Decode.optional decode (.table o fields) =
    (decode (.table o fields)).map some := rfl
  rw [hrun] at ha
  cases hdecode : decode (.table o fields) with
  | error e => rw [hdecode] at ha; cases ha
  | ok b => exact h o fields hv ⟨b, hdecode⟩

/-- Nothing that is written stands for nothing. -/
theorem nothing_ne_ok {v : Value} (hv : v.WellFormed) : Decode.nothing v ≠ .ok () := by
  intro h
  unfold Decode.nothing at h
  split at h
  · cases hv with
    | scalar _ hcontent => exact hcontent rfl
  · cases h

/-- An option may be written as a table with its name as the key; but then nothing may stand behind
the name. -/
@[simp] theorem refusesTables_choice (name : String) (options : List (String × ρ)) :
    RefusesTables (Decode.choice name options) := by
  rintro o fields hv ⟨a, ha⟩
  have hnamed {key : String} {payload : Value} (hpayload : payload.WellFormed) :
      (do
        let a ← Decode.option payload options key
        Decode.nothing payload
        return a : Except Fault ρ).mapError (Fault.under key) ≠ .ok a := by
    intro h
    obtain ⟨b, -, h⟩ := bind_eq_ok.mp (mapError_eq_ok.mp h)
    obtain ⟨⟨⟩, hnothing, -⟩ := bind_eq_ok.mp h
    exact nothing_ne_ok hpayload hnothing
  have hfields : ∀ f ∈ fields, f.2.WellFormed := by
    cases hv with
    | table _ _ hfields => exact hfields
  obtain _ | ⟨⟨key, payload⟩, _ | ⟨f, rest⟩⟩ := fields
  · cases o <;> cases ha
  · exact hnamed (hfields _ List.mem_cons_self) ha
  · cases o with
    | document => cases ha
    | file path => exact hnamed (hfields _ List.mem_cons_self) ha
    | environment => exact hnamed (hfields _ List.mem_cons_self) ha

attribute [simp] RefusesTables.optional

/-! ## Single settings -/

/-- A configuration is made up of its settings. -/
theorem config_ext {c c' : Config} (h : ∀ s ∈ Setting.all, s.get c = s.get c') : c = c' := by
  obtain ⟨⟨_, _, _⟩, ⟨_, _, ⟨_, _, _, _, _, _⟩, _, _⟩, ⟨_, _, _, _, _, _, _⟩, ⟨_⟩,
    ⟨_, _, _, _, _, _, _, _, _, _⟩⟩ := c
  obtain ⟨⟨_, _, _⟩, ⟨_, _, ⟨_, _, _, _, _, _⟩, _, _⟩, ⟨_, _, _, _, _, _, _⟩, ⟨_⟩,
    ⟨_, _, _, _, _, _, _, _, _, _⟩⟩ := c'
  simp [Setting.all, Setting.inRecord, Setting.region, Setting.ofSlot, applicationSlots,
    cameraSlots, regionSlots, acquisitionSlots, reportSlots, simulatorSlots,
    Setting.regionSteps] at h
  simp [h]

/-- An option takes the place of its setting and of no other. -/
theorem get_apply (o : Options) (c : Config) :
    ∀ s ∈ Setting.all, s.get (o.2.apply (o.1.apply c)) = (s.flag o).getD (s.get c) := by
  simp [Setting.all, Setting.inRecord, Setting.region, Setting.ofSlot, applicationSlots,
    cameraSlots, regionSlots, acquisitionSlots, reportSlots, simulatorSlots,
    Setting.regionSteps, CommandLine.RunOptions.apply, CommandLine.GlobalOptions.apply]
  split <;> rfl

/-- No path to a setting goes on to another. -/
theorem path_eq_of_front :
    ∀ s ∈ Setting.all, ∀ t ∈ Setting.all, s.path <+: t.path → s.path = t.path := by
  decide +kernel

/-- No setting is decoded from a table. -/
theorem refusesTables : ∀ s ∈ Setting.all, RefusesTables s.decode := by
  simp [Setting.all, Setting.inRecord, Setting.region, Setting.ofSlot, applicationSlots,
    cameraSlots, regionSlots, acquisitionSlots, reportSlots, simulatorSlots,
    Setting.regionSteps, Decode.logFormat, Decode.backend, Decode.exposureMode, Decode.count,
    Decode.bound, Decode.size, Decode.bufferPolicy, Decode.reportFormat, Decode.setupStage,
    Decode.rawMode]

end FrameWatch.Settings
