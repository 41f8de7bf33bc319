import FrameWatch.Proofs.Settings.Reading
import FrameWatch.Proofs.Settings.Sections
import FrameWatch.Proofs.Settings.Valid

/-!
# Layers of settings

Where the settings that a program runs with come from, one by one: from an option, or else from the
environment, or else from the settings file, or else they are built in.

1. The environment is a layer of parts, one for each variable (`environmentLayer_eq`).
2. Over the settings file, each setting has the value of its variable, or what the variables leave
   of the file (`at?_merged`).
3. `Settings.layering` says how a configuration is loaded and what each of its settings is.
-/

namespace FrameWatch.Settings

open Value

/-! ## The two layers -/

/-- The layer of the settings file, if there is one and it can be read. -/
def fileLayer? : Option SettingsFile → Option Value
  | none => some (.table .environment [])
  | some f => f.layer?

/-- The values of all variables for settings, with the keys that they are assigned to. -/
def assignments (environment : List (String × String)) : Parts :=
  environment.filterMap fun v => (Variable.path? v.1).map fun path => (path, Variable.read v.2)

theorem wellFormed_fileLayer? {file : Option SettingsFile} {lower : Value}
    (h : fileLayer? file = some lower) : lower.WellFormed ∧ lower.IsTable := by
  cases file with
  | none =>
    obtain rfl := Option.some.inj h
    exact ⟨.table (by simp) List.Pairwise.nil (by simp), trivial⟩
  | some f => exact Toml.wellFormed_parse? (by simp) h

theorem wellFormed_assignments {environment : List (String × String)} :
    ∀ part ∈ assignments environment, part.2.WellFormed := by
  intro part hpart
  obtain ⟨v, -, hv⟩ := List.mem_filterMap.mp hpart
  obtain ⟨path, -, rfl⟩ := Option.map_eq_some_iff.mp hv
  exact Variable.wellFormed_read v.2

theorem environmentLayer_eq (environment : List (String × String)) :
    layParts (some (.table .environment [])) (assignments environment) =
      some (environmentLayer environment) := by
  unfold environmentLayer
  generalize Value.table .environment [] = below
  induction environment generalizing below with
  | nil => rfl
  | cons v rest ih =>
    obtain ⟨name, text⟩ := v
    rw [List.foldl_cons, ← ih]
    unfold assignments
    dsimp only
    cases hpath : Variable.path? name with
    | none =>
      rw [List.filterMap_cons_none (by rw [hpath]; rfl)]
    | some path =>
      rw [List.filterMap_cons_some (by rw [hpath]; rfl)]
      rfl

theorem load_eq (file : Option SettingsFile) (environment : List (String × String)) :
    load file environment =
      match fileLayer? file with
      | none => .error .malformed
      | some lower =>
        (Decode.config (lower.merge (environmentLayer environment))).mapError .fault := by
  unfold load fileLayer?
  cases file with
  | none => rfl
  | some f =>
    dsimp only
    cases f.layer? <;> rfl

/-! ## What the layers amount to -/

/-- Variables that name settings or unknown keys, and no setting twice. -/
structure Orderly (environment : List (String × String)) : Prop where
  known : ∀ part ∈ assignments environment, (∃ s ∈ Setting.all, part.1 = s.path) ∨
    ∀ s ∈ Setting.all, ¬ part.1 <+: s.path ∧ ¬ s.path <+: part.1
  once : ∀ s ∈ Setting.all, ((assignments environment).map Prod.fst).count s.path ≤ 1

variable {environment : List (String × String)}

theorem steps_ne_nil : ∀ s ∈ Setting.all, s.steps ≠ [] := by decide +kernel

theorem Orderly.clear (h : Orderly environment) :
    ∀ s ∈ Setting.all, Clear s.steps (assignments environment) := by
  intro s hs
  refine ⟨fun part hpart hcross => ?_, h.once s hs⟩
  obtain ⟨t, ht, hpath⟩ | hunknown := h.known part hpart
  · rw [hpath] at hcross ⊢
    exact hcross.elim (path_eq_of_front t ht s hs) fun h => (path_eq_of_front s hs t ht h).symm
  · obtain ⟨hin, hout⟩ := hunknown s hs
    exact (hcross.elim hin hout).elim

theorem Orderly.path_ne (h : Orderly environment) :
    ∀ part ∈ assignments environment, part.1 ≠ [] := by
  intro part hpart hnil
  obtain ⟨s, hs, hpath⟩ | hunknown := h.known part hpart
  · exact steps_ne_nil s hs (List.map_eq_nil_iff.mp (hpath.symm.trans hnil))
  · obtain ⟨s, hs⟩ := List.exists_mem_of_length_pos (show 0 < Setting.all.length by decide)
    exact (hunknown s hs).1 (hnil ▸ List.nil_prefix)

/-- The environment makes a table. -/
theorem Orderly.isTable (h : Orderly environment) : (environmentLayer environment).IsTable := by
  have hbelow : ∀ v ∈ some (Value.table .environment []), v.IsTable := fun v hv =>
    Option.some.inj hv ▸ trivial
  exact (layParts_field? hbelow h.path_ne "").1 _ (environmentLayer_eq environment)

/-- What the topmost layer holds for a setting. -/
def Setting.layered (s : Setting) (lower : Value) (environment : List (String × String)) :
    Option Value :=
  ((assignments environment).lookup s.path).or (lower.left? s.steps (assignments environment))

/-- What a setting amounts to: the option for it, or else what the layers hold, or else its built-in
value. -/
def Setting.resolve (s : Setting) (flag : Option s.Kind) (layered : Option Value) :
    Except Fault s.Kind :=
  match flag, layered with
  | some a, _ => .ok a
  | none, some v => s.decode v
  | none, none => .ok (s.get Config.standard)

/-- Every setting has the value of its variable, laid over what is left of the file. -/
theorem at?_merged (h : Orderly environment) {lower : Value} (hlower : lower.IsTable) :
    ∀ s ∈ Setting.all, (lower.merge (environmentLayer environment)).at? s.steps =
      lay (lower.left? s.steps (assignments environment))
        ((assignments environment).lookup s.path) := by
  intro s hs
  have hclear := h.clear s hs
  have hsteps := steps_ne_nil s hs
  unfold Setting.path
  cases hcase : s.steps with
  | nil => exact absurd hcase hsteps
  | cons step rest =>
    rw [hcase] at hclear
    exact at?_merge_layParts hlower (by simp) (environmentLayer_eq environment)
      wellFormed_assignments hclear

/-- Where two layers do not make a table, the upper one is left. -/
theorem lay_eq_or {lower upper : Option Value}
    (h : ∀ v, lay lower upper = some v → ¬ v.IsTable) : lay lower upper = upper.or lower := by
  cases lower with
  | none => simp
  | some l =>
    cases upper with
    | none => simp
    | some u =>
      have hmerged : ¬ (l.merge u).IsTable := h _ rfl
      refine congrArg some (?_ : l.merge u = u)
      cases l with
      | scalar _ _ => exact merge_of_not_isTable id u
      | list _ _ => exact merge_of_not_isTable id u
      | table _ _ =>
        unfold merge at hmerged ⊢
        cases u with
        | scalar _ _ => rfl
        | list _ _ => rfl
        | table _ _ => exact absurd trivial hmerged

theorem wellFormed_merged {lower : Value} (h : lower.WellFormed)
    (environment : List (String × String)) :
    (lower.merge (environmentLayer environment)).WellFormed := by
  have hbelow : ∀ v ∈ some (Value.table .environment []), v.WellFormed := fun v hv =>
    Option.some.inj hv ▸ .table (by simp) List.Pairwise.nil (by simp)
  exact h.merge (WellFormed.layParts hbelow wellFormed_assignments _
    (environmentLayer_eq environment))

/-- Every setting is decoded from the topmost layer that has a value for it. -/
theorem decode_layered (h : Orderly environment) {lower : Value} (hlower : lower.WellFormed)
    (htable : lower.IsTable) {c : Config}
    (hc : Decode.config (lower.merge (environmentLayer environment)) = .ok c) :
    ∀ s ∈ Setting.all, s.resolve none (s.layered lower environment) = .ok (s.get c) := by
  intro s hs
  have hwell := wellFormed_merged hlower environment
  have hsettles := settles_config s hs _ c hwell hc
  have hor : (lower.merge (environmentLayer environment)).at? s.steps =
      s.layered lower environment := by
    rw [at?_merged h htable s hs]
    refine lay_eq_or fun v hv hv' => ?_
    rw [← at?_merged h htable s hs] at hv
    rw [hv] at hsettles
    cases v with
    | scalar _ _ => exact hv'
    | list _ _ => exact hv'
    | table o fields => exact refusesTables s hs o fields (hwell.at? hv) ⟨_, hsettles⟩
  rw [hor] at hsettles
  unfold Setting.resolve
  cases hlayered : s.layered lower environment with
  | none =>
    rw [hlayered] at hsettles
    exact congrArg _ hsettles.symm
  | some v =>
    rw [hlayered] at hsettles
    exact hsettles

theorem resolve_eq_getD {s : Setting} {layered : Option Value} {a : s.Kind}
    (h : s.resolve none layered = .ok a) (flag : Option s.Kind) :
    s.resolve flag layered = .ok (flag.getD a) := by
  cases flag with
  | none => exact h
  | some b => rfl

/-! ## Loading -/

/-- How the settings of a file, of the environment and of options come together. -/
structure Layering (file : Option SettingsFile) (environment : List (String × String)) : Prop where
  /-- A configuration is loaded if the file can be read and the values left in both layers fit. -/
  loads : (∃ c, load file environment = .ok c) ↔
    ∃ lower, fileLayer? file = some lower ∧ Fits (lower.merge (environmentLayer environment))
  /-- Each setting is what its option says, or else its variable, or else the file as far as it is
  left, or else it is built in. -/
  effective : ∀ (lower : Value) (c : Config) (o : Options), fileLayer? file = some lower →
    load file environment = .ok c → ∀ s ∈ Setting.all,
      s.resolve (s.flag o) (s.layered lower environment) = .ok (s.get (o.2.apply (o.1.apply c)))
  /-- All of the file is left that lies in tables, or in lists that no variable reaches into. -/
  untouched : ∀ lower : Value, fileLayer? file = some lower → ∀ s ∈ Setting.all,
    (∀ front, front <+: s.steps → front ≠ s.steps → ∀ v, lower.at? front = some v →
      v.IsTable ∨ ∀ part ∈ assignments environment, ¬ keys front <+: part.1) →
    lower.left? s.steps (assignments environment) = lower.at? s.steps
  /-- There is nothing but these settings to a configuration. -/
  complete : ∀ c c' : Config, (∀ s ∈ Setting.all, s.get c = s.get c') → c = c'
  /-- Variables that are not for settings do not matter. -/
  foreign : load file (environment.filter fun v => (Variable.path? v.1).isSome) =
    load file environment
  /-- Only the settings that the program runs with are checked. -/
  judged : ∀ (surroundings : Surroundings) (c : Config) (o : Options),
    SettingsFile.find? surroundings.read? surroundings.directory o.1.settingsPath = file →
    surroundings.environment = environment → load file environment = .ok c →
      match (o.2.apply (o.1.apply c)).validate with
      | .error reason =>
        Probe.execute surroundings o.1 (.run o.2) = .ofError (.invalid reason.describe)
      | .ok () => ∃ journal, Probe.execute surroundings o.1 (.run o.2) =
        Probe.acquire surroundings (o.2.apply (o.1.apply c)) journal

theorem load_eq_ok {file : Option SettingsFile} {c : Config} :
    load file environment = .ok c ↔ ∃ lower, fileLayer? file = some lower ∧
      Decode.config (lower.merge (environmentLayer environment)) = .ok c := by
  rw [load_eq]
  cases fileLayer? file with
  | none => simp
  | some lower => simp [mapError_eq_ok]

theorem environmentLayer_filter (environment : List (String × String)) :
    environmentLayer (environment.filter fun v => (Variable.path? v.1).isSome) =
      environmentLayer environment := by
  unfold environmentLayer
  rw [List.foldl_filter]
  refine congrArg (fun f => List.foldl f _ environment) ?_
  funext layer v
  cases hpath : Variable.path? v.1 with
  | none => simp [hpath]
  | some path => simp [hpath]

theorem execute_eq {surroundings : Surroundings} {file : Option SettingsFile} {c : Config}
    {o : Options}
    (hfile : SettingsFile.find? surroundings.read? surroundings.directory o.1.settingsPath = file)
    (hload : load file surroundings.environment = .ok c) :
    Probe.execute surroundings o.1 (.run o.2) =
      Probe.perform surroundings (.run o.2) (o.2.apply (o.1.apply c)) := by
  unfold Probe.execute
  rw [hfile]
  dsimp only
  rw [hload]
  rfl

/-- **Layers.** From every settings file, or none, and every orderly environment a configuration is
loaded just where the values left fit; each of its settings comes from the topmost layer that has
one, whatever the others are, and it is checked as a whole once the options are in. -/
theorem layering (file : Option SettingsFile) (environment : List (String × String))
    (h : Orderly environment) : Layering file environment where
  loads := by
    have haccepts {lower : Value} (hlower : fileLayer? file = some lower) :
        Accepts Decode.config (lower.merge (environmentLayer environment)) ↔
          Fits (lower.merge (environmentLayer environment)) := by
      obtain ⟨hwell, htable⟩ := wellFormed_fileLayer? hlower
      exact accepts_config_iff (wellFormed_merged hwell environment)
        (htable.merge h.isTable).isRecord
    simp only [load_eq_ok]
    constructor
    · rintro ⟨c, lower, hlower, hc⟩
      exact ⟨lower, hlower, (haccepts hlower).mp ⟨c, hc⟩⟩
    · rintro ⟨lower, hlower, hfits⟩
      obtain ⟨c, hc⟩ := (haccepts hlower).mpr hfits
      exact ⟨c, lower, hlower, hc⟩
  effective lower c o hlower hload s hs := by
    obtain ⟨lower', hlower', hc⟩ := load_eq_ok.mp hload
    obtain rfl := Option.some.inj (hlower'.symm.trans hlower)
    obtain ⟨hwell, htable⟩ := wellFormed_fileLayer? hlower
    rw [get_apply o c s hs]
    exact resolve_eq_getD (decode_layered h hwell htable hc s hs) (s.flag o)
  untouched _ _ _ _ := left?_eq_at?
  complete _ _ := config_ext
  foreign := by rw [load_eq, load_eq, environmentLayer_filter]
  judged surroundings c o hfile henvironment hload := by
    rw [execute_eq hfile (henvironment ▸ hload)]
    unfold Probe.perform
    cases hvalid : (o.2.apply (o.1.apply c)).validate with
    | error reason => rfl
    | ok _ =>
      obtain ⟨logging, hlogging⟩ := Config.logging_of_valid hvalid
      rw [hlogging]
      exact ⟨_, rfl⟩

/-- A file with a setting that makes no sense, and with a section that is a list. -/
def sampleFile : SettingsFile :=
  ⟨"probe.toml", "report = [\"json\"]\n[acquisition]\nruns = \"many\"\nbuffer_frames = 9\n"⟩

/-- An environment that sets the setting right, among others. -/
def sampleEnvironment : List (String × String) :=
  [("PATH", "/bin"), ("stall_probe_acquisition__runs", "5"), ("STALL_PROBE_CAMERA__GAIN", "2")]

/-- The option for three frames. -/
def sampleOptions : Options := (.none, { CommandLine.RunOptions.none with target := some 3 })

theorem isSome_sampleLayer : (fileLayer? (some sampleFile)).isSome = true := by decide +kernel

/-- The layer of the file. -/
def sampleLayer : Value := (fileLayer? (some sampleFile)).get isSome_sampleLayer

/-- What a setting amounts to. -/
def sampleValue (s : Setting) : Option s.Kind :=
  (s.resolve (s.flag sampleOptions) (s.layered sampleLayer sampleEnvironment)).toOption

theorem layering_sample :
    Orderly sampleEnvironment ∧ ∃ c, load (some sampleFile) sampleEnvironment = .ok c ∧
      let effective := sampleOptions.2.apply (sampleOptions.1.apply c)
      effective.acquisition.runs = 5 ∧ effective.acquisition.targetFrames = 3 ∧
        effective.acquisition.bufferFrames = 9 ∧ effective.report.format = .json ∧
          effective.camera.exposureMs = 10 := by
  have horderly : Orderly sampleEnvironment := ⟨by decide +kernel, by decide +kernel⟩
  have hlayering := layering (some sampleFile) sampleEnvironment horderly
  obtain ⟨c, hload⟩ : ∃ c, load (some sampleFile) sampleEnvironment = .ok c := by
    have hok : (load (some sampleFile) sampleEnvironment).isOk = true := by decide +kernel
    cases h : load (some sampleFile) sampleEnvironment with
    | error e => rw [h] at hok; cases hok
    | ok c => exact ⟨c, rfl⟩
  have hvalue (s : Setting) (hs : s ∈ Setting.all) (a : s.Kind) (ha : sampleValue s = some a) :
      s.get (sampleOptions.2.apply (sampleOptions.1.apply c)) = a := by
    unfold sampleValue at ha
    rw [hlayering.effective sampleLayer c sampleOptions (Option.some_get _).symm hload s hs] at ha
    exact Option.some.inj ha
  refine ⟨horderly, c, hload, ?_, ?_, ?_, ?_, ?_⟩
  · exact hvalue ⟨[("acquisition", 2), ("runs", 6)], Decode.count, (·.acquisition.runs),
      (·.2.runs)⟩ (List.mem_of_getElem? (i := 19) rfl) 5 (by decide +kernel)
  · exact hvalue ⟨[("acquisition", 2), ("target_frames", 0)], Decode.count,
      (·.acquisition.targetFrames), (·.2.target)⟩ (List.mem_of_getElem? (i := 13) rfl) 3
      (by decide +kernel)
  · exact hvalue ⟨[("acquisition", 2), ("buffer_frames", 2)], Decode.size,
      (·.acquisition.bufferFrames), fun _ => none⟩ (List.mem_of_getElem? (i := 15) rfl) 9
      (by decide +kernel)
  · exact hvalue ⟨[("report", 3), ("format", 0)], Decode.reportFormat, (·.report.format),
      fun o => if o.2.json then some .json else none⟩
      (List.mem_of_getElem? (i := 20) rfl) .json (by decide +kernel)
  · exact hvalue ⟨[("camera", 1), ("exposure_ms", 4)], Decode.count, (·.camera.exposureMs),
      fun _ => none⟩ (List.mem_of_getElem? (i := 6) rfl) 10 (by decide +kernel)

/-- A file in which the application section is a list. -/
def listFile : SettingsFile := ⟨"probe.toml", "application = [\"x\"]\n"⟩

/-- An environment that sets the log level. -/
def debugEnvironment : List (String × String) := [("STALL_PROBE_APPLICATION__LOG_LEVEL", "debug")]

/-- The settings of a section that is a list are not independent of each other: a variable for the
log level takes the name away. -/
theorem list_section_gives_way :
    (assignments debugEnvironment).map Prod.fst = [["application", "log_level"]] ∧
      (load (some listFile) []).toOption.map (·.application.name) = some "x" ∧
      (load (some listFile) debugEnvironment).toOption.map (·.application.name) =
        some "PVCAM Stall Probe" := by
  decide +kernel

end FrameWatch.Settings
