import FrameWatch.Proofs.Settings.Sections
import FrameWatch.Proofs.Text.Keys
import FrameWatch.Proofs.Time.Spelling
import FrameWatch.Report

/-!
# Durations in reports

A duration that a report prints can be copied into the settings or behind the option for the
deadline, and is that very duration there.

1. Options with a value are read one by one, whether the value is attached or not
   (`CommandLine.read_attached`, `CommandLine.read_separate`).
2. `StandsFor` says where a text is read as a duration, and `Duration.standsFor_spell` that its
   spelling is, in all of these places.
3. `Report.PrintsDurations` says how a report prints its durations, and `Report.prints_durations`
   that every report does. None of them can be mistaken for another.
-/

namespace FrameWatch

/-! ## Options with a value -/

namespace CommandLine

variable {r r' : Reading} {any : Bool} {arg name value : String} {rest : List String}

theorem read_attached (hstart : arg.startsWith "--" = true)
    (hsplit : splitOption arg = (name, some value)) (hset : r.set? name value = some r') :
    read r any (arg :: rest) = read r' true rest := by
  have hne : arg ≠ "--" := by
    rintro rfl
    cases hsplit
  rw [read.eq_def]
  split
  · contradiction
  · rename_i hargs
    exact absurd (List.cons.inj hargs).1 hne
  · rename_i hargs
    obtain ⟨rfl, rfl⟩ := List.cons.inj hargs
    simp only [hstart, hsplit, if_true, hset]

theorem Scope.takesValue_of_not {s : Scope} (h : (isGlobal name || isRunOption name) = false) :
    s.takesValue name = false := by
  rw [Bool.or_eq_false_iff] at h
  unfold Scope.takesValue
  rw [h.1]
  split
  · exact h.2
  · rfl

theorem read_separate (hstart : arg.startsWith "--" = true)
    (hsplit : splitOption arg = (name, none)) (htakes : r.scope.takesValue name = true)
    (hvalue : isValue value = true) (hset : r.set? name value = some r') :
    read r any (arg :: value :: rest) = read r' true rest := by
  have hother {name' : String} (h : (isGlobal name' || isRunOption name') = false) :
      name' ≠ name := by
    rintro rfl
    exact absurd (htakes.symm.trans (Scope.takesValue_of_not h)) (by decide)
  have hne : arg ≠ "--" := by
    rintro rfl
    exact hother (by decide) (congrArg Prod.fst hsplit)
  rw [read.eq_def]
  split
  · contradiction
  · rename_i hargs
    exact absurd (List.cons.inj hargs).1 hne
  · rename_i hargs
    obtain ⟨rfl, rfl⟩ := List.cons.inj hargs
    rw [if_pos hstart]
    split
    · rename_i hhelp
      exact absurd (congrArg Prod.fst (hhelp.symm.trans hsplit)) (hother (by decide))
    · rename_i hjson
      exact absurd (congrArg Prod.fst (hjson.symm.trans hsplit)) (hother (by decide))
    · rename_i hattached
      cases hattached.symm.trans hsplit
    · rename_i hseparate
      obtain rfl : _ = name := congrArg Prod.fst (hseparate.symm.trans hsplit)
      simp only [htakes, hvalue, if_true, Reading.setSeparate?, hset]

theorem read_run (hscope : r.scope = .program) :
    read r any ("run" :: rest) = read ⟨r.inner, .none, .run .none, r.unsuitable⟩ any rest := by
  have hplain (s : String) : "run".startsWith ("-" ++ s) = false := by
    rw [String.startsWith_string_eq_false_iff, String.toList_append]
    simp
  have hvalue : isValue "run" = true := by
    have hdash := hplain ""
    simp_all [isValue]
  have henter : r.enter? "run" = some ⟨r.inner, .none, .run .none, r.unsuitable⟩ := by
    unfold Reading.enter?
    rw [hscope]
    rfl
  have hlong : "run".startsWith "--" = false := hplain "-"
  have hshort : "run".startsWith "-h" = false := hplain "h"
  rw [read.eq_def]
  simp [hlong, hshort, hvalue, henter]

/-- The reading with that deadline among the options of the run command. -/
def Reading.withDeadline (r : Reading) (o : RunOptions) (d : Duration) : Reading :=
  { r with scope := .run { o with deadline := some d } }

theorem set?_deadline {o : RunOptions} (hscope : r.scope = .run o) (ho : o.deadline = none)
    {d : Duration} (hd : Duration.parse? value = some d) :
    r.set? "deadline" value = some (r.withDeadline o d) := by
  unfold Reading.set?
  rw [if_neg (by decide), hscope]
  simp [RunOptions.set?, hd, ho, setOnce, Reading.withDeadline]

end CommandLine

/-! ## Where durations are read -/

open Settings (Config Value Origin Setting)

/-- The text stands for the duration wherever the program reads one. -/
structure StandsFor (t : String) (d : Duration) : Prop where
  setting : ∀ origin, Settings.Decode.duration (.scalar origin (.text t)) = .ok d
  /-- Nothing is set but the deadline. -/
  lone_deadline : ∀ origin,
    Settings.Decode.config
        ((Value.scalar origin (.text t)).atPath ["acquisition", "frame_deadline"]) =
      .ok { Config.standard with
        acquisition := { Config.standard.acquisition with frameDeadline := d } }
  /-- Nothing is set but the interval between simulated frames. -/
  lone_interval : ∀ origin,
    Settings.Decode.config ((Value.scalar origin (.text t)).atPath ["mock", "frame_interval"]) =
      .ok { Config.standard with
        simulator := { Config.standard.simulator with frameInterval := d } }
  /-- The deadline is set among other settings. -/
  deadline : ∀ (v : Value) (origin : Origin) (c : Config), v.WellFormed →
    v.at? [("acquisition", 2), ("frame_deadline", 1)] = some (.scalar origin (.text t)) →
    Settings.Decode.config v = .ok c → c.acquisition.frameDeadline = d
  /-- The interval between simulated frames is set among other settings. -/
  interval : ∀ (v : Value) (origin : Origin) (c : Config), v.WellFormed →
    v.at? [("mock", 4), ("frame_interval", 1)] = some (.scalar origin (.text t)) →
    Settings.Decode.config v = .ok c → c.simulator.frameInterval = d
  /-- The option for the deadline, which may stand anywhere behind the run command. -/
  option : ∀ (r : CommandLine.Reading) (o : CommandLine.RunOptions) (any : Bool)
    (rest : List String), r.scope = .run o → o.deadline = none →
    CommandLine.read r any ("--deadline" :: t :: rest) =
        CommandLine.read (r.withDeadline o d) true rest ∧
      CommandLine.read r any (("--deadline=" ++ t) :: rest) =
        CommandLine.read (r.withDeadline o d) true rest
  /-- The option for the deadline is the only one. -/
  lone_option : CommandLine.parse ["run", "--deadline", t] =
    .command .none (.run { CommandLine.RunOptions.none with deadline := some d })

/-- A record from a table with nothing but one of its settings. -/
theorem Settings.decode_lone {ω ρ : Type} {slots : List (Settings.Slot ω ρ)}
    (h : Settings.Layout slots) {s : Settings.Slot ω ρ} (hs : s ∈ slots) (origin : Origin)
    (name : String) {standard : ρ} {v : Value} {a : s.Kind} (ha : s.decode v = .ok a) :
    Settings.Decode.record name standard (slots.map Settings.Slot.field)
      (.table origin [(s.name, v)]) = .ok (s.set standard a) := by
  refine (Settings.Decode.fromTable_cons s.name v []).mpr ?_
  rw [(Settings.Decode.slot?_eq_some h).mpr ⟨hs, rfl⟩]
  exact ⟨a, ha, rfl⟩

namespace Duration

variable (d : Duration)

theorem decode_spell (origin : Origin) :
    Settings.Decode.duration (.scalar origin (.text d.spell)) = .ok d := by
  unfold Settings.Decode.duration
  dsimp only
  rw [d.parse?_spell]

theorem isValue_spell : CommandLine.isValue d.spell = true := by
  have hstart : d.spell.startsWith "-" = false := by
    rw [String.startsWith_string_eq_false_iff]
    exact fun h => d.not_mem_spell (c := '-') (by decide) (h.subset (by decide))
  simp [CommandLine.isValue, hstart]

theorem read_option_spell {r : CommandLine.Reading} {o : CommandLine.RunOptions}
    (hscope : r.scope = .run o) (ho : o.deadline = none) (any : Bool) (rest : List String) :
    CommandLine.read r any ("--deadline" :: d.spell :: rest) =
        CommandLine.read (r.withDeadline o d) true rest ∧
      CommandLine.read r any (("--deadline=" ++ d.spell) :: rest) =
        CommandLine.read (r.withDeadline o d) true rest := by
  have hset := CommandLine.set?_deadline hscope ho d.parse?_spell
  have htakes : r.scope.takesValue "deadline" = true := by
    rw [hscope]
    rfl
  have hseparate : "--deadline".startsWith "--" = true :=
    String.startsWith_string_iff.mpr ⟨"deadline".toList, rfl⟩
  have hattached : ("--deadline=" ++ d.spell).startsWith "--" = true := by
    rw [String.startsWith_string_iff, String.toList_append]
    exact ⟨"deadline=".toList ++ d.spell.toList, rfl⟩
  exact ⟨CommandLine.read_separate hseparate (by decide) htakes d.isValue_spell hset,
    CommandLine.read_attached hattached (by simp [CommandLine.splitOption]) hset⟩

/-- A duration is read from its spelling wherever the program reads one. -/
theorem standsFor_spell : StandsFor d.spell d where
  setting := d.decode_spell
  lone_deadline origin :=
    Settings.decode_lone Settings.layout_config (List.mem_of_getElem? (i := 2) rfl) origin
      "ProbeConfig" (Settings.decode_lone Settings.layout_acquisition
        (List.mem_of_getElem? (i := 1) rfl) origin "AcquisitionConfig" (d.decode_spell origin))
  lone_interval origin :=
    Settings.decode_lone Settings.layout_config (List.mem_of_getElem? (i := 4) rfl) origin
      "ProbeConfig" (Settings.decode_lone Settings.layout_simulator
        (List.mem_of_getElem? (i := 1) rfl) origin "MockBehavior" (d.decode_spell origin))
  deadline v origin c hv hleaf hc := by
    have hsettles := Settings.settles_config ⟨[("acquisition", 2), ("frame_deadline", 1)],
      Settings.Decode.duration, (·.acquisition.frameDeadline), (·.2.deadline)⟩
      (List.mem_of_getElem? (i := 14) rfl) v c hv hc
    rw [hleaf] at hsettles
    exact Except.ok.inj (hsettles.symm.trans (d.decode_spell origin))
  interval v origin c hv hleaf hc := by
    have hsettles := Settings.settles_config ⟨[("mock", 4), ("frame_interval", 1)],
      Settings.Decode.duration, (·.simulator.frameInterval), fun _ => none⟩
      (List.mem_of_getElem? (i := 22) rfl) v c hv hc
    rw [hleaf] at hsettles
    exact Except.ok.inj (hsettles.symm.trans (d.decode_spell origin))
  option r o any rest hscope ho := d.read_option_spell hscope ho any rest
  lone_option := by
    unfold CommandLine.parse
    rw [CommandLine.read_run rfl, (d.read_option_spell rfl rfl false []).1]
    rfl

end Duration

/-! ## What reports print -/

namespace Report

variable (r : Report)

/-- The document has the text under the key, and its written form shows the text as it is. -/
structure Prints (key t : String) : Prop where
  field : r.fields.lookup key = some (.text t)
  line : ('\n' :: (Json.opening key ++ ("\"" ++ t ++ "\"").toList)) <:+: r.json.toList

/-- The durations of a report can be read back from all places where it prints them, and are told
from all others there. -/
structure PrintsDurations : Prop where
  deadline : ∃ t, r.Prints "frame_deadline" t ∧ StandsFor t r.frameDeadline
  elapsed : ∃ t, r.Prints "elapsed" t ∧ StandsFor t r.elapsed
  headline : r.status = .stalled → ∃ t, StandsFor t r.frameDeadline ∧
    r.headline = "STALLED at frame " ++ toString (r.stalledAt.getD (r.framesAcquired + 1)) ++ " ("
      ++ toString r.framesAcquired ++ " frames acquired, deadline " ++ t ++ ")"
  deadline_distinct : ∀ (r' : Report) (t : String), r.Prints "frame_deadline" t →
    r'.Prints "frame_deadline" t → r.frameDeadline = r'.frameDeadline
  elapsed_distinct : ∀ (r' : Report) (t : String), r.Prints "elapsed" t →
    r'.Prints "elapsed" t → r.elapsed = r'.elapsed
  headline_distinct : ∀ r' : Report, r.status = .stalled → r'.status = .stalled →
    r.headline = r'.headline → r.frameDeadline = r'.frameDeadline

theorem lookup_elapsed : r.fields.lookup "elapsed" = some (.text r.elapsed.spell) := rfl

theorem lookup_deadline :
    r.fields.lookup "frame_deadline" = some (.text r.frameDeadline.spell) := rfl

theorem prints_of_lookup {key : String} {d : Duration}
    (hlookup : r.fields.lookup key = some (.text d.spell)) : r.Prints key d.spell where
  field := hlookup
  line := by
    have hline := Json.line_infix_write (Settings.mem_of_lookup hlookup)
    unfold Json.line at hline
    rw [Json.writeAt, Json.quote_of_simple (Json.simple_of_plain d.plain_spell)] at hline
    exact hline

/-- Two durations that are printed alike are the same. -/
theorem Prints.inj {r r' : Report} {key t : String} (h : r.Prints key t) (h' : r'.Prints key t)
    {d d' : Duration} (hd : r.fields.lookup key = some (.text d.spell))
    (hd' : r'.fields.lookup key = some (.text d'.spell)) : d = d' := by
  have hspell := hd.symm.trans (h.field.trans (h'.field.symm.trans hd'))
  exact Duration.spell_injective (Json.text.inj (Option.some.inj hspell))

/-- Behind the only comma of a stalled headline stands the deadline. -/
theorem headline_stalled (h : r.status = .stalled) : ∃ front : List Char, ',' ∉ front ∧
    r.headline.toList =
      front ++ ',' :: (" deadline ".toList ++ (r.frameDeadline.spell.toList ++ [')'])) := by
  have hnumber (n : ℕ) : ',' ∉ (toString n).toList := by
    rw [Nat.toString_eq_ofList_toDigits, String.toList_ofList]
    intro hmem
    have hdigit := Nat.isDigit_of_mem_toDigits (by decide) le_rfl hmem
    revert hdigit
    decide
  refine ⟨"STALLED at frame ".toList ++ ((toString (r.stalledAt.getD (r.framesAcquired + 1))).toList
    ++ (" (".toList ++ ((toString r.framesAcquired).toList ++ " frames acquired".toList))), ?_, ?_⟩
  · simp only [List.mem_append, not_or]
    exact ⟨by decide, hnumber _, by decide, hnumber _, by decide⟩
  · unfold Report.headline
    rw [h]
    simp only [String.toList_append, List.append_assoc]
    rfl

theorem headline_inj {r r' : Report} (h : r.status = .stalled) (h' : r'.status = .stalled)
    (heq : r.headline = r'.headline) : r.frameDeadline = r'.frameDeadline := by
  have hback (d : Duration) : ',' ∉ " deadline ".toList ++ (d.spell.toList ++ [')']) := by
    simp only [List.mem_append, not_or]
    exact ⟨by decide, d.not_mem_spell (by decide), by decide⟩
  obtain ⟨front, hcomma, hfront⟩ := r.headline_stalled h
  obtain ⟨front', -, hfront'⟩ := r'.headline_stalled h'
  rw [heq, hfront'] at hfront
  have hsame := ((List.append_cons_inj_of_notMem hcomma (hback _)).mp hfront.symm).2.2
  have hspell := List.append_cancel_right (List.append_cancel_left hsame)
  exact Duration.spell_injective (String.toList_inj.mp hspell)

/-- **Durations.** Every report prints its durations so that they can be read back. -/
theorem prints_durations : PrintsDurations r where
  deadline := ⟨_, r.prints_of_lookup r.lookup_deadline, r.frameDeadline.standsFor_spell⟩
  elapsed := ⟨_, r.prints_of_lookup r.lookup_elapsed, r.elapsed.standsFor_spell⟩
  headline h := by
    refine ⟨_, r.frameDeadline.standsFor_spell, ?_⟩
    unfold Report.headline
    rw [h]
  deadline_distinct r' _ h h' := h.inj h' r.lookup_deadline r'.lookup_deadline
  elapsed_distinct r' _ h h' := h.inj h' r.lookup_elapsed r'.lookup_elapsed
  headline_distinct _ := headline_inj

end Report

end FrameWatch
