import FrameWatch.Proofs.Settings.Layering

/-!
# Bounds of the region

What becomes of a region of which the file and the environment give only some bounds. No bound has a
built-in value of its own, so the bounds are taken all together or not at all.

1. Where tables lead to a section, the layers hold there what the file has, with the variables
   inside the section laid over it (`at?_merged_section`).
2. A record that cannot be decoded is blamed on one of its slots (`blame_record`), and a region on
   the first bound that it lacks (`region_eq_error`).
3. `Settings.region_whole_or_absent` says which bounds are taken, and which fault is found else.
-/

namespace FrameWatch.Settings

open Value

/-! ## Sections in layers -/

/-- The parts inside a path, with what their paths go on with. -/
def inside (path : List String) (parts : Parts) : Parts :=
  path.foldl (fun parts key => within key parts) parts

theorem mem_inside {path : List String} {parts : Parts} {part : List String × Value} :
    part ∈ inside path parts ↔ (path ++ part.1, part.2) ∈ parts := by
  induction path generalizing parts with
  | nil => exact Iff.rfl
  | cons key rest ih => exact ih.trans mem_within

/-- Tables lead along the steps, as far as there is anything. -/
def TablesTo (steps : List Step) (v : Value) : Prop :=
  ∀ front, front <+: steps → ∀ w, v.at? front = some w → w.IsTable

theorem TablesTo.isTable {steps : List Step} {v : Value} (h : TablesTo steps v) : v.IsTable :=
  h [] List.nil_prefix v rfl

theorem TablesTo.field? {step : Step} {rest : List Step} {v w : Value}
    (h : TablesTo (step :: rest) v) (hw : v.field? step.1 = some w) : TablesTo rest w := by
  intro front hfront u hu
  refine h (step :: front) (List.cons_prefix_cons.mpr ⟨rfl, hfront⟩) u ?_
  show (v.item? step).bind (at? front) = some u
  rw [item?_of_isTable h.isTable, hw]
  exact hu

instance : DecidablePred IsTable
  | .table .. => .isTrue trivial
  | .scalar .. => .isFalse id
  | .list .. => .isFalse id

theorem isTable_lay {lower upper : Option Value} (hlower : ∀ v ∈ lower, v.IsTable)
    (hupper : ∀ v ∈ upper, v.IsTable) : ∀ v ∈ lay lower upper, v.IsTable := by
  cases lower with
  | none => rwa [lay_none_left]
  | some l =>
    cases upper with
    | none => rwa [lay_none_right]
    | some u =>
      intro v hv
      obtain rfl := Option.some.inj hv
      exact (hlower l rfl).merge (hupper u rfl)

theorem item?_lay {lower upper : Option Value} (hlower : ∀ v ∈ lower, v.IsTable)
    (hupper : ∀ v ∈ upper, v.IsTable) (hwell : ∀ v ∈ upper, v.WellFormed) (step : Step) :
    (lay lower upper).bind (item? step) =
      lay (lower.bind (field? step.1)) (upper.bind (field? step.1)) := by
  cases lower with
  | none =>
    cases upper with
    | none => rfl
    | some u =>
      rw [lay_none_left]
      exact (item?_of_isTable (hupper u rfl)).trans (lay_none_left _).symm
  | some l =>
    cases upper with
    | none =>
      rw [lay_none_right]
      exact (item?_of_isTable (hlower l rfl)).trans (lay_none_right _).symm
    | some u => exact item?_merge (hlower l rfl) (hupper u rfl) (hwell u rfl) step

/-- Where tables lead along the steps and no part ends on the way, the steps lead to the parts
inside them, laid over what was there. -/
theorem at?_lay_tables {steps : List Step} {parts : Parts} {lower : Option Value}
    (hlower : ∀ v ∈ lower, TablesTo steps v) (hwell : ∀ part ∈ parts, part.2.WellFormed)
    (hparts : ∀ part ∈ parts, ¬ part.1 <+: keys steps) :
    (lay lower (layParts none parts)).bind (at? steps) =
      lay (lower.bind (at? steps)) (layParts none (inside (keys steps) parts)) := by
  induction steps generalizing parts lower with
  | nil =>
    show (lay lower (layParts none parts)).bind some = lay (lower.bind some) (layParts none parts)
    rw [Option.bind_fun_some, Option.bind_fun_some]
  | cons step rest ih =>
    have hpaths : ∀ part ∈ parts, part.1 ≠ [] := fun part hpart hnil =>
      hparts part hpart (hnil ▸ List.nil_prefix)
    have hnothing : ∀ v ∈ (none : Option Value), v.IsTable := by simp
    obtain ⟨htables, hfield⟩ := layParts_field? hnothing hpaths step.1
    have hitem := item?_lay (fun v hv => (hlower v hv).isTable) htables
      (WellFormed.layParts (by simp) hwell) step
    have hbind (v : Option Value) : v.bind (at? (step :: rest)) =
        (v.bind (item? step)).bind (at? rest) := (Option.bind_assoc _ _ _).symm
    have hlower' : lower.bind (item? step) = lower.bind (field? step.1) := by
      cases lower with
      | none => rfl
      | some l => exact item?_of_isTable (hlower l rfl).isTable
    rw [hbind, hitem, hfield, hbind, hlower']
    refine ih (fun v hv => ?_)
      (fun part hpart => hwell (step.1 :: part.1, part.2) (mem_within.mp hpart))
      fun part hpart hfront => hparts _ (mem_within.mp hpart)
        (List.cons_prefix_cons.mpr ⟨rfl, hfront⟩)
    obtain ⟨l, hl, hv⟩ := Option.bind_eq_some_iff.mp hv
    exact (hlower l hl).field? hv

variable {environment : List (String × String)} {lower : Value}

/-- No variable ends at a section. -/
theorem Orderly.not_front_section (h : Orderly environment) {steps : List Step}
    (hsteps : steps ∈ Setting.sections) :
    ∀ part ∈ assignments environment, ¬ part.1 <+: keys steps := by
  have hsettings : ∀ steps ∈ Setting.sections, (∀ s ∈ Setting.all, ¬ s.path <+: keys steps) ∧
      ∃ s ∈ Setting.all, keys steps <+: s.path := by decide +kernel
  obtain ⟨hbefore, s, hs, hinside⟩ := hsettings steps hsteps
  intro part hpart hfront
  obtain ⟨t, ht, hpath⟩ | hunknown := h.known part hpart
  · exact hbefore t ht (hpath ▸ hfront)
  · exact (hunknown s hs).1 (hfront.trans hinside)

/-- The layers hold in a section what the file has there, with the variables inside it on top. -/
theorem at?_merged_section (h : Orderly environment) {steps : List Step}
    (hsteps : steps ∈ Setting.sections) (hlower : TablesTo steps lower) :
    (lower.merge (environmentLayer environment)).at? steps =
      lay (lower.at? steps) (layParts none (inside (keys steps) (assignments environment))) := by
  have hfront := h.not_front_section hsteps
  have hne : ∀ steps ∈ Setting.sections, steps ≠ [] := by decide
  cases hcase : steps with
  | nil => exact absurd hcase (hne steps hsteps)
  | cons step rest =>
    rw [hcase] at hlower hfront
    have hbelow : ∀ v ∈ some (Value.table .environment []), v.IsTable ∧ v.WellFormed :=
      fun v hv => Option.some.inj hv ▸ ⟨trivial, .table (by simp) List.Pairwise.nil (by simp)⟩
    obtain ⟨htables, hfield⟩ := layParts_field? (fun v hv => (hbelow v hv).1) h.path_ne step.1
    have hparts : ∀ part ∈ assignments environment, part.2.WellFormed := wellFormed_assignments
    have hwell := WellFormed.layParts (fun v hv => (hbelow v hv).2) hparts
    rw [environmentLayer_eq] at htables hfield hwell
    have hitem := item?_merge hlower.isTable (htables _ rfl) (hwell _ rfl) step
    have henvironment : (environmentLayer environment).field? step.1 =
        layParts none (within step.1 (assignments environment)) := hfield
    show ((lower.merge (environmentLayer environment)).item? step).bind (at? rest) =
      lay ((lower.item? step).bind (at? rest)) _
    rw [hitem, henvironment, item?_of_isTable hlower.isTable]
    exact at?_lay_tables (fun v hv => hlower.field? hv)
      (fun part hpart => wellFormed_assignments (step.1 :: part.1, part.2) (mem_within.mp hpart))
      fun part hpart hin => hfront _ (mem_within.mp hpart) (List.cons_prefix_cons.mpr ⟨rfl, hin⟩)

/-- Tables in the file and variables inside a section make a table of it. -/
theorem isTable_merged_section (h : Orderly environment) {steps : List Step}
    (hsteps : steps ∈ Setting.sections) (hlower : TablesTo steps lower) {v : Value}
    (hv : (lower.merge (environmentLayer environment)).at? steps = some v) : v.IsTable := by
  rw [at?_merged_section h hsteps hlower] at hv
  refine isTable_lay (fun w hw => hlower steps List.prefix_rfl w hw) ?_ v hv
  refine (layParts_field? (by simp) (fun part hpart hnil => ?_) "").1
  refine h.not_front_section hsteps _ (mem_inside.mp hpart) ?_
  rw [hnil, List.append_nil]

/-! ## Faults in records -/

section Blame

open Decode

variable {ω ρ : Type} {slots : List (Slot ω ρ)} {values : List (String × Value)}

/-- A table that stands for no record has a value under the name of a slot that is at fault. -/
theorem blame_fromTable (hvalues : Ascending values) {r : ρ} {e : Fault}
    (hrun : fromTable (slots.map Slot.field) r values = .error e) :
    ∃ s ∈ slots, ∃ v e', values.lookup s.name = some v ∧ s.decode v = .error e' ∧
      e = e'.under s.name := by
  induction values generalizing r with
  | nil => cases hrun
  | cons f rest ih =>
    obtain ⟨key, v⟩ := f
    obtain ⟨hfirst, hrest⟩ := List.pairwise_cons.mp hvalues
    have hlater : ∀ r' : ρ, fromTable (slots.map Slot.field) r' rest = .error e →
        ∃ s ∈ slots, ∃ w e', ((key, v) :: rest).lookup s.name = some w ∧
          s.decode w = .error e' ∧ e = e'.under s.name := by
      intro r' hrun'
      obtain ⟨s, hs, w, e', hw, hfault⟩ := ih hrest hrun'
      have hne : s.name ≠ key := fun hname => by
        rw [hname, lookup_eq_none_of_lt hfirst] at hw
        cases hw
      exact ⟨s, hs, w, e', (lookup_cons_eq_ite _ _ _).trans ((if_neg hne).trans hw), hfault⟩
    have hfind : (slots.map Slot.field).find? (·.name == key) =
        (slot? slots key).map Slot.field := List.find?_map
    unfold fromTable at hrun
    rw [List.foldlM_cons] at hrun
    dsimp only at hrun
    rw [hfind] at hrun
    cases hslot : slot? slots key with
    | none =>
      rw [hslot] at hrun
      exact hlater r hrun
    | some s =>
      rw [hslot] at hrun
      obtain rfl : s.name = key := by simpa using List.find?_some hslot
      have hput : s.field.put r v = (s.decode v).map (s.set r) := rfl
      dsimp only [Option.map] at hrun
      rw [hput] at hrun
      cases hdecode : s.decode v with
      | error e' =>
        rw [hdecode] at hrun
        obtain rfl := Except.error.inj hrun
        exact ⟨s, List.mem_of_find?_eq_some hslot, v, e',
          (lookup_cons_eq_ite _ _ _).trans (if_pos rfl), hdecode, rfl⟩
      | ok a =>
        rw [hdecode] at hrun
        exact hlater _ hrun

theorem blame_record {name : String} {standard : ρ} {v : Value} (hv : v.WellFormed)
    (htable : v.IsTable) {e : Fault}
    (hrun : record name standard (slots.map Slot.field) v = .error e) :
    ∃ (i : ℕ) (s : Slot ω ρ), slots[i]? = some s ∧ ∃ w e', v.item? (s.name, i) = some w ∧
      s.decode w = .error e' ∧ e = e'.under s.name := by
  cases hv with
  | scalar _ _ => exact htable.elim
  | list _ _ => exact htable.elim
  | table _ hascending _ =>
    obtain ⟨s, hs, w, e', hw, hfault⟩ := blame_fromTable hascending hrun
    obtain ⟨i, hi⟩ := List.mem_iff_getElem?.mp hs
    exact ⟨i, s, hi, w, e', hw, hfault⟩

end Blame

namespace Region

open Decode (RegionDraft bound)

theorem Drafts.isSome_eq {v : Option Value} {d : Option ℕ} (h : Drafts v d) :
    d.isSome = v.isSome := by
  unfold Drafts at h
  cases v with
  | none => exact congrArg Option.isSome (show d = none from h)
  | some w =>
    dsimp only at h
    cases hw : bound w with
    | error e => rw [hw] at h; cases h
    | ok n =>
      rw [hw] at h
      obtain rfl := Except.ok.inj h
      rfl

/-- The first name of those that nothing is known for. -/
def firstMissing? (known : List (String × Bool)) : Option String :=
  (known.find? fun bound => !bound.2).map Prod.fst

/-- The bounds that are known of a draft, in the order in which they are asked for. -/
def draftKnown (d : RegionDraft) : List (String × Bool) :=
  [("s1", d.s1.isSome), ("s2", d.s2.isSome), ("sbin", d.sbin.isSome), ("p1", d.p1.isSome),
    ("p2", d.p2.isSome), ("pbin", d.pbin.isSome)]

/-- Which bounds are given, in the order in which they are asked for. -/
def known (given : Slot Options Region → ℕ → Bool) : List (String × Bool) :=
  regionSlots.zipIdx.map fun slot => (slot.1.name, given slot.1 slot.2)

theorem firstMissing?_known_eq_none {given : Slot Options Region → ℕ → Bool} :
    firstMissing? (known given) = none ↔
      ∀ (i : ℕ) slot, regionSlots[i]? = some slot → given slot i = true := by
  unfold firstMissing? known
  rw [Option.map_eq_none_iff, List.find?_eq_none]
  simp only [List.forall_mem_map, Prod.forall, List.mem_zipIdx_iff_getElem?, Bool.not_eq_true',
    Bool.not_eq_false]
  exact forall_comm

theorem finish_eq_error {d : RegionDraft} {name : String}
    (h : firstMissing? (draftKnown d) = some name) : d.finish = .error name := by
  obtain ⟨s1, s2, sbin, p1, p2, pbin⟩ := d
  cases s1 with
  | none => obtain rfl := Option.some.inj h; rfl
  | some _ =>
  cases s2 with
  | none => obtain rfl := Option.some.inj h; rfl
  | some _ =>
  cases sbin with
  | none => obtain rfl := Option.some.inj h; rfl
  | some _ =>
  cases p1 with
  | none => obtain rfl := Option.some.inj h; rfl
  | some _ =>
  cases p2 with
  | none => obtain rfl := Option.some.inj h; rfl
  | some _ =>
  cases pbin with
  | none => obtain rfl := Option.some.inj h; rfl
  | some _ => cases h

theorem region_table_eq (o : Origin) (fields : List (String × Value)) :
    Decode.region (.table o fields) =
      Decode.record "Region" blank (draftSlots.map Slot.field) (.table o fields) >>= fun draft =>
        match draft.finish with
        | .ok r => return r
        | .error name => .error (.on (.table o fields) (.missingField name)) := by
  unfold Decode.region
  rw [regionFields_eq]
  rfl

/-- A region that lacks a bound is at fault for the first one that it lacks. -/
theorem region_eq_error {v : Value} (hv : v.WellFormed) (htable : v.IsTable)
    (haccepts : ∀ (i : ℕ) (s : Slot Options Region), regionSlots[i]? = some s →
      ∀ w, v.item? (s.name, i) = some w → Accepts s.decode w)
    {name : String}
    (hmissing : firstMissing? (known fun slot i => (v.item? (slot.name, i)).isSome) = some name) :
    Decode.region v = .error (.on v (.missingField name)) := by
  have hdraft (i : ℕ) (s : Slot Options Region) (hs : regionSlots[i]? = some s) (w : Value)
      (hw : v.item? (s.name, i) = some w) : Accepts (fun v => (s.decode v).map some) w := by
    obtain ⟨a, ha⟩ := haccepts i s hs w hw
    exact ⟨some a, congrArg (Except.map some) ha⟩
  obtain ⟨d, hd⟩ : Accepts
      (Decode.record "Region" blank (draftSlots.map Slot.field)) v :=
    (Decode.accepts_record_iff layout_draft hv).mpr ⟨htable.isRecord, fun i s hs => by
    match i, hs with
    | 0, hs => exact Option.some.inj hs ▸ hdraft 0 _ rfl
    | 1, hs => exact Option.some.inj hs ▸ hdraft 1 _ rfl
    | 2, hs => exact Option.some.inj hs ▸ hdraft 2 _ rfl
    | 3, hs => exact Option.some.inj hs ▸ hdraft 3 _ rfl
    | 4, hs => exact Option.some.inj hs ▸ hdraft 4 _ rfl
    | 5, hs => exact Option.some.inj hs ▸ hdraft 5 _ rfl
    | i + 6, hs => cases hs⟩
  have hsame : draftKnown d = known fun slot i => (v.item? (slot.name, i)).isSome := by
    obtain ⟨h1, h2, h3, h4, h5, h6⟩ := drafts_of_record hv hd
    simp only [draftKnown, h1.isSome_eq, h2.isSome_eq, h3.isSome_eq, h4.isSome_eq, h5.isSome_eq,
      h6.isSome_eq]
    rfl
  cases v with
  | scalar _ _ => exact htable.elim
  | list _ _ => exact htable.elim
  | table o fields =>
    rw [region_table_eq, hd]
    show (match d.finish with
      | .ok r => return r
      | .error name => .error (.on (.table o fields) (.missingField name)) :
      Except Fault Region) = _
    rw [finish_eq_error (hsame ▸ hmissing)]

end Region

/-! ## Faults in configurations -/

theorem settles_camera_region :
    Settles Decode.config Config.standard Setting.regionSteps Decode.region (·.camera.region) :=
  (settles_section (i := 1) rfl).trans (settles_camera (i := 2) rfl)

section Config

variable {v w : Value} (hv : v.WellFormed) (htable : v.IsTable)
  (hsections : ∀ steps ∈ Setting.sections, ∀ x, v.at? steps = some x → x.IsTable)
  (hvalues : ∀ s ∈ Setting.all, ∀ x, v.at? s.steps = some x → Accepts s.decode x)

include hv hsections hvalues

include htable in
/-- With sound values, a configuration can be at fault for its camera section alone. -/
theorem blame_config {e : Fault} (hrun : Decode.config v = .error e) :
    ∃ x e', v.at? [("camera", 1)] = some x ∧ Decode.camera x = .error e' ∧
      e = e'.under "camera" := by
  have haccepts {ρ : Type} {slots : List (Slot Options ρ)} (h : Layout slots) (name : String)
      (standard : ρ) (step : Step) (reach : Config → ρ) (hstep : [step] ∈ Setting.sections)
      (hall : ∀ s ∈ Setting.inRecord [step] reach slots, s ∈ Setting.all) {x : Value}
      (hx : v.item? step = some x) :
      Accepts (Decode.record name standard (slots.map Slot.field)) x :=
    (accepts_section_iff hv h name standard [step] reach).mpr
      ⟨fun x hx => (hsections _ hstep x hx).isRecord, fun s hs => hvalues s (hall s hs)⟩ x
      (at?_singleton step v ▸ hx)
  rw [config_eq] at hrun
  obtain ⟨i, slot, hslot, x, e', hx, hdecode, rfl⟩ := blame_record hv htable hrun
  have hrefused : ¬ Accepts slot.decode x := fun ⟨a, ha⟩ => by rw [ha] at hdecode; cases hdecode
  match i, hslot with
  | 0, hslot =>
    obtain rfl := Option.some.inj hslot
    exact absurd (haccepts layout_application "ApplicationConfig" _ _ (·.application) (by decide)
      (fun s hs => by simp [Setting.all, hs]) hx) hrefused
  | 1, hslot =>
    obtain rfl := Option.some.inj hslot
    exact ⟨x, e', (at?_singleton _ v).trans hx, hdecode, rfl⟩
  | 2, hslot =>
    obtain rfl := Option.some.inj hslot
    exact absurd (haccepts layout_acquisition "AcquisitionConfig" _ _ (·.acquisition) (by decide)
      (fun s hs => by simp [Setting.all, hs]) hx) hrefused
  | 3, hslot =>
    obtain rfl := Option.some.inj hslot
    exact absurd (haccepts layout_report "ReportConfig" _ _ (·.report) (by decide)
      (fun s hs => by simp [Setting.all, hs]) hx) hrefused
  | 4, hslot =>
    obtain rfl := Option.some.inj hslot
    exact absurd (haccepts layout_simulator "MockBehavior" _ _ (·.simulator) (by decide)
      (fun s hs => by simp [Setting.all, hs]) hx) hrefused
  | i + 5, hslot => cases hslot

/-- With sound values, a camera section can be at fault for its region alone. -/
theorem blame_camera {x : Value} (hx : v.at? [("camera", 1)] = some x) {e : Fault}
    (hrun : Decode.camera x = .error e) :
    ∃ w e', v.at? Setting.regionSteps = some w ∧ Decode.region w = .error e' ∧
      e = e'.under "region" := by
  rw [camera_eq] at hrun
  obtain ⟨i, slot, hslot, w, e', hw, hdecode, rfl⟩ :=
    blame_record (hv.at? hx) (hsections _ (by decide) x hx) hrun
  have hat : v.at? ([("camera", 1)] ++ [(slot.name, i)]) = some w := by
    rw [at?_append, hx]
    exact (at?_singleton _ x).trans hw
  by_cases hregion : i = 2
  · subst hregion
    obtain rfl := Option.some.inj hslot
    exact ⟨w, e', hat, hdecode, rfl⟩
  · have hsetting : Setting.ofSlot [("camera", 1)] (·.camera) slot i ∈ Setting.all := by
      have hmem : Setting.ofSlot [("camera", 1)] (·.camera) slot i ∈
          Setting.inRecord [("camera", 1)] (·.camera) cameraSlots :=
        Setting.mem_inRecord.mpr ⟨i, slot, hslot, rfl⟩
      have hsteps : (Setting.ofSlot [("camera", 1)] (·.camera) slot i).steps ≠
          Setting.regionSteps := fun h => by
        simp [Setting.ofSlot, Setting.regionSteps, hregion] at h
      simp [Setting.all, hmem, hsteps]
    obtain ⟨a, ha⟩ := hvalues _ hsetting w hat
    cases ha.symm.trans hdecode

include htable in
/-- A configuration in which nothing but a bound of the region is missing is at fault for that
bound. -/
theorem config_eq_error (hw : v.at? Setting.regionSteps = some w) {name : String}
    (hmissing : Region.firstMissing?
      (Region.known fun slot i => (w.item? (slot.name, i)).isSome) = some name) :
    Decode.config v = .error ⟨.missingField name, keys Setting.regionSteps, w.origin⟩ := by
  have hregion : Decode.region w = .error (.on w (.missingField name)) := by
    refine Region.region_eq_error (hv.at? hw) (hsections _ (by decide) w hw)
      (fun i slot hslot x hx => ?_) hmissing
    refine hvalues (Setting.ofSlot Setting.regionSteps (·.camera.region) slot i) ?_ x ?_
    · have hmem : Setting.ofSlot Setting.regionSteps (·.camera.region) slot i ∈ Setting.region :=
        Setting.mem_inRecord.mpr ⟨i, slot, hslot, rfl⟩
      simp [Setting.all, hmem]
    · rw [Setting.at?_ofSlot, hw]
      exact hx
  cases hrun : Decode.config v with
  | ok c =>
    have hsettles := settles_camera_region v c hv hrun
    rw [hw] at hsettles
    cases hregion.symm.trans hsettles
  | error e =>
    obtain ⟨x, e₁, hx, hcamera, rfl⟩ := blame_config hv htable hsections hvalues hrun
    obtain ⟨w', e₂, hw', hregion', rfl⟩ := blame_camera hv hsections hvalues hx hcamera
    obtain rfl := Option.some.inj (hw.symm.trans hw')
    obtain rfl := Except.error.inj (hregion.symm.trans hregion')
    rfl

end Config

/-! ## Loading a region -/

/-- Layers that hold nothing wrong: tables lead to the sections of the file, and every setting that
the file or the environment gives has a value of its kind. -/
structure Sound (lower : Value) (environment : List (String × String)) : Prop where
  tables : ∀ steps ∈ Setting.sections, TablesTo steps lower
  values : ∀ s ∈ Setting.all, ∀ v, s.layered lower environment = some v → Accepts s.decode v

/-- The bound of the region in a slot, as a setting. -/
abbrev Setting.bound (slot : Slot Options Region) (i : ℕ) : Setting :=
  ofSlot regionSteps (·.camera.region) slot i

/-- The file has a region, or a variable is for something inside it. -/
def RegionGiven (lower : Value) (environment : List (String × String)) : Prop :=
  lower.at? Setting.regionSteps ≠ none ∨
    ∃ part ∈ assignments environment, keys Setting.regionSteps <+: part.1

/-- The first bound of the region that neither the file nor the environment gives. -/
def firstUngiven? (lower : Value) (environment : List (String × String)) : Option String :=
  Region.firstMissing? (Region.known fun slot i =>
    ((Setting.bound slot i).layered lower environment).isSome)

theorem Setting.bound_mem_all {i : ℕ} {slot : Slot Options Region}
    (hslot : regionSlots[i]? = some slot) : Setting.bound slot i ∈ Setting.all := by
  have hmem : Setting.bound slot i ∈ Setting.region :=
    Setting.mem_inRecord.mpr ⟨i, slot, hslot, rfl⟩
  simp [Setting.all, hmem]

/-- What is no table takes the place of everything below it. -/
theorem lay_of_not_isTable {upper : Value} (h : ¬ upper.IsTable) (lower : Option Value) :
    lay lower (some upper) = some upper := by
  cases lower with
  | none => rfl
  | some l =>
    refine congrArg some (?_ : l.merge upper = upper)
    cases upper with
    | table _ _ => exact absurd trivial h
    | scalar _ _ => cases l <;> (unfold merge; rfl)
    | list _ _ => cases l <;> (unfold merge; rfl)

namespace Sound

variable (h : Orderly environment) (hlower : lower.WellFormed) (hsound : Sound lower environment)

include hsound in
theorem isTable : lower.IsTable :=
  (hsound.tables _ (show [("application", 0)] ∈ Setting.sections by decide)).isTable

include h hsound

/-- The layers hold a setting as the topmost of them has it. -/
theorem at?_setting : ∀ s ∈ Setting.all,
    (lower.merge (environmentLayer environment)).at? s.steps = s.layered lower environment := by
  intro s hs
  rw [at?_merged h hsound.isTable s hs]
  have haccepts := hsound.values s hs
  unfold Setting.layered at haccepts ⊢
  cases hupper : (assignments environment).lookup s.path with
  | none => rw [lay_none_right]; rfl
  | some upper =>
    rw [hupper] at haccepts
    refine lay_of_not_isTable (fun htable => ?_) _
    have hwell : upper.WellFormed := by
      obtain ⟨before, behind, hparts, -⟩ := List.lookup_eq_some_iff.mp hupper
      have hmem : (s.path, upper) ∈ assignments environment := by
        rw [hparts]
        exact List.mem_append_right _ List.mem_cons_self
      exact wellFormed_assignments (s.path, upper) hmem
    cases upper with
    | scalar _ _ => exact htable
    | list _ _ => exact htable
    | table o fields => exact refusesTables s hs o fields hwell (haccepts _ rfl)

theorem isTable_section : ∀ steps ∈ Setting.sections, ∀ v,
    (lower.merge (environmentLayer environment)).at? steps = some v → v.IsTable :=
  fun steps hsteps _ hv => isTable_merged_section h hsteps (hsound.tables steps hsteps) hv

/-- The layers hold a region if one is given. -/
theorem at?_region_ne_none_iff :
    (lower.merge (environmentLayer environment)).at? Setting.regionSteps ≠ none ↔
      RegionGiven lower environment := by
  have hregion : Setting.regionSteps ∈ Setting.sections := by decide
  rw [at?_merged_section h hregion (hsound.tables _ hregion)]
  unfold RegionGiven
  cases hat : lower.at? Setting.regionSteps with
  | some v =>
    refine iff_of_true ?_ (.inl (Option.some_ne_none v))
    cases layParts none (inside (keys Setting.regionSteps) (assignments environment)) <;>
      exact Option.some_ne_none _
  | none =>
    rw [lay_none_left]
    constructor
    · intro hparts
      have hne : inside (keys Setting.regionSteps) (assignments environment) ≠ [] := fun hnil => by
        rw [hnil] at hparts
        exact hparts rfl
      obtain ⟨part, hpart⟩ := List.exists_mem_of_ne_nil _ hne
      exact .inr ⟨_, mem_inside.mp hpart, List.prefix_append _ _⟩
    · rintro (hnone | ⟨⟨path, v⟩, hpart, rest, rfl⟩)
      · exact absurd rfl hnone
      · have hinside : (rest, v) ∈ inside (keys Setting.regionSteps) (assignments environment) :=
          mem_inside.mpr hpart
        obtain ⟨w, hw⟩ : ∃ w, layParts none _ = some w :=
          exists_layParts (.inr (List.ne_nil_of_mem hinside))
        exact hw ▸ Option.some_ne_none w

include hlower

theorem accepts_iff :
    Accepts Decode.config (lower.merge (environmentLayer environment)) ↔
      (RegionGiven lower environment → firstUngiven? lower environment = none) := by
  have hwell := wellFormed_merged hlower environment
  have hungiven : firstUngiven? lower environment = none ↔ ∀ s ∈ Setting.region,
      (lower.merge (environmentLayer environment)).at? s.steps ≠ none := by
    unfold firstUngiven? Setting.region
    rw [Region.firstMissing?_known_eq_none, Setting.forall_inRecord]
    refine forall_congr' fun i => forall_congr' fun slot => forall_congr' fun hslot => ?_
    rw [hsound.at?_setting h _ (Setting.bound_mem_all hslot), Option.isSome_iff_ne_none]
  rw [accepts_config_iff hwell (hsound.isTable.merge h.isTable).isRecord, hungiven,
    ← hsound.at?_region_ne_none_iff h]
  refine ⟨fun hfits => hfits.region, fun hregion => ⟨fun steps hsteps w hw => ?_, ?_, hregion⟩⟩
  · exact (hsound.isTable_section h steps hsteps w hw).isRecord
  · intro s hs w hw
    exact hsound.values s hs w ((hsound.at?_setting h s hs).symm.trans hw)

end Sound

/-- **Bounds of the region.** A region is taken if the file and the environment together give all
of its bounds, each from the topmost layer that has it; it is built in if they give nothing of it.
No bound can be left to be built in on its own: if some are given, the first that is not is reported
as missing, and no configuration is loaded. -/
theorem region_whole_or_absent {file : Option SettingsFile} (h : Orderly environment)
    (hfile : fileLayer? file = some lower) (hsound : Sound lower environment) :
    (RegionGiven lower environment →
      match firstUngiven? lower environment with
      | some name => ∃ o, load file environment =
          .error (.fault ⟨.missingField name, keys Setting.regionSteps, o⟩)
      | none => ∃ c, load file environment = .ok c ∧
          ∀ (i : ℕ) slot, regionSlots[i]? = some slot →
            ∃ v, (Setting.bound slot i).layered lower environment = some v ∧
              slot.decode v = .ok (slot.get c.camera.region)) ∧
    (¬ RegionGiven lower environment →
      ∃ c, load file environment = .ok c ∧ c.camera.region = Config.standard.camera.region) := by
  have hlower := (wellFormed_fileLayer? hfile).1
  have hwell := wellFormed_merged hlower environment
  have haccepts := hsound.accepts_iff h hlower
  constructor
  · intro hgiven
    cases hungiven : firstUngiven? lower environment with
    | some name =>
      obtain ⟨w, hw⟩ :=
        Option.ne_none_iff_exists'.mp ((hsound.at?_region_ne_none_iff h).mpr hgiven)
      have hmissing : Region.firstMissing?
          (Region.known fun slot i => (w.item? (slot.name, i)).isSome) = some name := by
        rw [← hungiven]
        unfold firstUngiven? Region.known
        refine congrArg Region.firstMissing? (List.map_congr_left fun slot hslot => ?_)
        dsimp only
        rw [← hsound.at?_setting h _ (Setting.bound_mem_all
          (List.mem_zipIdx_iff_getElem?.mp hslot)), Setting.at?_ofSlot, hw]
        rfl
      refine ⟨w.origin, ?_⟩
      rw [load_eq, hfile]
      dsimp only
      rw [config_eq_error hwell (hsound.isTable.merge h.isTable) (hsound.isTable_section h)
        (fun s hs x hx => hsound.values s hs x ((hsound.at?_setting h s hs).symm.trans hx)) hw
        hmissing]
      rfl
    | none =>
      obtain ⟨c, hc⟩ := haccepts.mpr fun _ => hungiven
      refine ⟨c, load_eq_ok.mpr ⟨lower, hfile, hc⟩, fun i slot hslot => ?_⟩
      have hall := Setting.bound_mem_all hslot
      obtain ⟨v, hv⟩ := Option.isSome_iff_exists.mp
        (Region.firstMissing?_known_eq_none.mp hungiven i slot hslot)
      have hsettles := settles_config _ hall _ c hwell hc
      rw [hsound.at?_setting h _ hall, hv] at hsettles
      exact ⟨v, hv, hsettles⟩
  · intro hnone
    obtain ⟨c, hc⟩ := haccepts.mpr fun hgiven => absurd hgiven hnone
    refine ⟨c, load_eq_ok.mpr ⟨lower, hfile, hc⟩, ?_⟩
    have hsettles := settles_camera_region _ c hwell hc
    rwa [not_not.mp fun hne => hnone ((hsound.at?_region_ne_none_iff h).mp hne)] at hsettles

/-- A file that gives five bounds of the region. -/
def regionFile : SettingsFile :=
  ⟨"probe.toml", "[camera.region]\ns1 = 7\ns2 = 255\nsbin = 1\np1 = 0\np2 = 511\n"⟩

/-- An environment that gives the sixth bound, and another one anew. -/
def regionEnvironment : List (String × String) :=
  [("STALL_PROBE_CAMERA__REGION__PBIN", "2"), ("STALL_PROBE_CAMERA__REGION__S2", "100")]

theorem isSome_regionLayer : (fileLayer? (some regionFile)).isSome = true := by decide +kernel

/-- The layer of the file. -/
def regionLayer : Value := (fileLayer? (some regionFile)).get isSome_regionLayer

theorem sound_regionLayer : Sound regionLayer regionEnvironment where
  tables := by
    have h : ∀ steps ∈ Setting.sections, ∀ front ∈ steps.inits,
        ∀ v ∈ regionLayer.at? front, v.IsTable := by decide +kernel
    exact fun steps hsteps front hfront => h steps hsteps front (List.mem_inits _ _ |>.mpr hfront)
  values := by
    have h : ∀ s ∈ Setting.all, ∀ v ∈ s.layered regionLayer regionEnvironment,
        (s.decode v).isOk = true := by decide +kernel
    intro s hs v hv
    have hok := h s hs v hv
    cases hdecode : s.decode v with
    | error e => rw [hdecode] at hok; cases hok
    | ok a => exact ⟨a, hdecode⟩

theorem region_whole_or_absent_sample :
    fileLayer? (some regionFile) = some regionLayer ∧ Orderly regionEnvironment ∧
      Sound regionLayer regionEnvironment ∧ ∃ c, load (some regionFile) regionEnvironment = .ok c ∧
        c.camera.region = ⟨7, 100, 1, 0, 511, 2⟩ := by
  have hfile : fileLayer? (some regionFile) = some regionLayer := (Option.some_get _).symm
  have horderly : Orderly regionEnvironment := ⟨by decide +kernel, by decide +kernel⟩
  have hgiven : RegionGiven regionLayer regionEnvironment := .inr (by decide +kernel)
  have hregion := (region_whole_or_absent horderly hfile sound_regionLayer).1 hgiven
  rw [show firstUngiven? regionLayer regionEnvironment = none by decide +kernel] at hregion
  obtain ⟨c, hload, hbounds⟩ := hregion
  have hbound {i : ℕ} {slot : Slot Options Region} (hslot : regionSlots[i]? = some slot)
      {a : slot.Kind} (ha : (((Setting.bound slot i).layered regionLayer regionEnvironment).bind
        fun v => (slot.decode v).toOption) = some a) : slot.get c.camera.region = a := by
    obtain ⟨v, hv, hdecode⟩ := hbounds i slot hslot
    rw [hv] at ha
    have hget : (slot.decode v).toOption = some (slot.get c.camera.region) := by
      rw [hdecode]
      rfl
    exact Option.some.inj (hget.symm.trans ha)
  refine ⟨hfile, horderly, sound_regionLayer, c, hload, ?_⟩
  have h1 : c.camera.region.s1 = 7 := hbound (i := 0) rfl (by decide +kernel)
  have h2 : c.camera.region.s2 = 100 := hbound (i := 1) rfl (by decide +kernel)
  have h3 : c.camera.region.sbin = 1 := hbound (i := 2) rfl (by decide +kernel)
  have h4 : c.camera.region.p1 = 0 := hbound (i := 3) rfl (by decide +kernel)
  have h5 : c.camera.region.p2 = 511 := hbound (i := 4) rfl (by decide +kernel)
  have h6 : c.camera.region.pbin = 2 := hbound (i := 5) rfl (by decide +kernel)
  rw [← h1, ← h2, ← h3, ← h4, ← h5, ← h6]

/-- A file that gives a single bound of the region. -/
def narrowFile : SettingsFile := ⟨"probe.toml", "[camera.region]\ns2 = 255\n"⟩

/-- A file that changes nothing but one bound is refused: the others are not built in. -/
theorem single_bound_refused :
    fileLayer? (some narrowFile) ≠ none ∧ ¬ ∃ c, load (some narrowFile) [] = .ok c := by
  refine ⟨by decide +kernel, ?_⟩
  rintro ⟨c, hload⟩
  have hrefused : (load (some narrowFile) []).isOk = false := by decide +kernel
  rw [hload] at hrefused
  cases hrefused

end FrameWatch.Settings
