import FrameWatch.Time.Spelling
import Mathlib.Data.List.Basic
import Mathlib.Tactic.Common

/-!
# Spelled durations read back

Whatever duration `Duration.spell` puts into words, `Duration.parse?` reads the words as that
duration. All sums on the way are sums of its parts, so that none of them is too large.

1. `Duration.read_items`: a sequence of numbers with units is read as a sum (`Duration.addPart?`).
2. `Duration.addParts?_parts`: the parts of a duration add up to it, also without those that are
   zero.
3. `Duration.parse?_spell` puts both together; no two durations are then spelled alike.
4. Spellings are made of digits, letters and blanks (`Duration.plain_spell`).
-/

namespace FrameWatch.Duration

/-! ## Reading numbers with units -/

/-- The reading is at a place where a number may begin. -/
def Ready (state : SpellingState) : Prop := state = .start ∨ state = .between

theorem digit?_digitChar {d : ℕ} (h : d < 10) : digit? d.digitChar = some d := by
  revert d
  decide

theorem read_first {state : SpellingState} (hstate : Ready state) (total : Duration) {c : Char}
    {d : ℕ} (hc : digit? c = some d) : readChar? (total, state) c = some (total, .whole d) := by
  rcases hstate with rfl | rfl <;> simp only [readChar?, hc]

theorem appendDigit?_of_lt {n d : ℕ} (h : n * 10 + d < wordBound) :
    appendDigit? n d = some (n * 10 + d) := by
  have htens : n * 10 < wordBound := by omega
  simp [appendDigit?, wordMul?, wordAdd?, htens, h]

theorem read_number {state : SpellingState} (hstate : Ready state) (total : Duration) {n : ℕ}
    (hn : n < wordBound) :
    (Nat.toDigits 10 n).foldlM readChar? (total, state) = some (total, .whole n) := by
  induction n using Nat.strongRecOn with
  | _ n ih =>
    by_cases hdigit : n < 10
    · rw [Nat.toDigits_of_lt_base hdigit, List.foldlM_cons,
        read_first hstate total (digit?_digitChar hdigit)]
      rfl
    · have hsplit : n / 10 * 10 + n % 10 = n := by omega
      have hread : readChar? (total, .whole (n / 10)) (n % 10).digitChar =
          some (total, .whole n) := by
        simp only [readChar?, digit?_digitChar (Nat.mod_lt n (by decide : 10 > 0))]
        rw [appendDigit?_of_lt (by omega), hsplit]
        rfl
      rw [Nat.toDigits_of_base_le (by decide) (by omega), List.foldlM_append,
        ih (n / 10) (by omega) (by omega)]
      show List.foldlM readChar? (total, .whole (n / 10)) [(n % 10).digitChar] = _
      rw [List.foldlM_cons, hread]
      rfl

/-- Letters that make up a unit, and nothing else. -/
def IsUnit (name : String) : Prop :=
  name.toList ≠ [] ∧
    ∀ c ∈ name.toList, digit? c = none ∧ Text.isBlank c = false ∧ isUnitLetter c = true

instance : DecidablePred IsUnit := fun name =>
  have := List.decidableBAll
    (fun c => digit? c = none ∧ Text.isBlank c = false ∧ isUnitLetter c = true) name.toList
  inferInstanceAs (Decidable (_ ∧ _))

theorem read_letters (total : Duration) (n : ℕ) (cs letters : List Char)
    (hcs : ∀ c ∈ cs, digit? c = none ∧ Text.isBlank c = false ∧ isUnitLetter c = true) :
    cs.foldlM readChar? (total, .unit n none letters) =
      some (total, .unit n none (cs.reverse ++ letters)) := by
  induction cs generalizing letters with
  | nil => rfl
  | cons c cs ih =>
    obtain ⟨hdigit, hblank, hletter⟩ := hcs c (by simp)
    have hread : readChar? (total, .unit n none letters) c =
        some (total, .unit n none (c :: letters)) := by
      simp [readChar?, hdigit, hblank, hletter]
    rw [List.foldlM_cons, hread]
    show List.foldlM readChar? (total, .unit n none (c :: letters)) cs = _
    rw [ih _ fun c hc => hcs c (by simp [hc]), List.reverse_cons, List.append_assoc]
    rfl

theorem read_unit (total : Duration) (n : ℕ) {name : String} (hname : IsUnit name) :
    name.toList.foldlM readChar? (total, .whole n) =
      some (total, .unit n none name.toList.reverse) := by
  obtain ⟨hne, hcs⟩ := hname
  obtain ⟨c, cs, hlist⟩ := List.exists_cons_of_ne_nil hne
  rw [hlist] at hcs ⊢
  obtain ⟨hdigit, hblank, hletter⟩ := hcs c (by simp)
  have hread : readChar? (total, .whole n) c = some (total, .unit n none [c]) := by
    simp [readChar?, hdigit, hblank, hletter]
  rw [List.foldlM_cons, hread]
  show List.foldlM readChar? (total, .unit n none [c]) cs = _
  rw [read_letters total n cs [c] fun c hc => hcs c (by simp [hc]), List.reverse_cons]

/-- A number with its unit as it is spelled. -/
def spellPart (p : ℕ × String) : String := toString p.1 ++ p.2

/-- A number that can be read, with a unit. -/
def IsItem (p : ℕ × String) : Prop := p.1 < wordBound ∧ IsUnit p.2

instance : DecidablePred IsItem := fun _ => inferInstanceAs (Decidable (_ ∧ _))

/-- `total` and a number of the named unit more. -/
def addPart? (total : Duration) (p : ℕ × String) : Option Duration :=
  closeItem? total p.1 none p.2.toList.reverse

theorem read_item {state : SpellingState} (hstate : Ready state) (total : Duration)
    {p : ℕ × String} (hp : IsItem p) :
    (spellPart p).toList.foldlM readChar? (total, state) =
      some (total, .unit p.1 none p.2.toList.reverse) := by
  unfold spellPart
  rw [String.toList_append, Nat.toString_eq_ofList_toDigits, String.toList_ofList,
    List.foldlM_append, read_number hstate total hp.1]
  exact read_unit total p.1 hp.2

/-- The reading of a whole text from some state on. -/
def readFrom? (total : Duration) (state : SpellingState) (cs : List Char) : Option Duration :=
  cs.foldlM readChar? (total, state) >>= finishReading?

theorem readFrom?_append {total total' : Duration} {state state' : SpellingState}
    {cs : List Char} (h : cs.foldlM readChar? (total, state) = some (total', state'))
    (cs' : List Char) : readFrom? total state (cs ++ cs') = readFrom? total' state' cs' := by
  unfold readFrom?
  rw [List.foldlM_append, h]
  rfl

/-- Numbers with units are read one after the other. -/
theorem read_items {ps : List (ℕ × String)} (hne : ps ≠ []) (hps : ∀ p ∈ ps, IsItem p)
    {state : SpellingState} (hstate : Ready state) (total : Duration) :
    readFrom? total state (" ".intercalate (ps.map spellPart)).toList =
      ps.foldlM addPart? total := by
  induction ps generalizing total state with
  | nil => exact absurd rfl hne
  | cons p ps ih =>
    have hitem := read_item hstate total (hps p (by simp))
    cases ps with
    | nil =>
      rw [List.map_singleton, String.intercalate_singleton, readFrom?, hitem]
      simp [finishReading?, addPart?]
    | cons q ps =>
      have hblank : readChar? (total, .unit p.1 none p.2.toList.reverse) ' ' =
          (addPart? total p).map fun total => (total, .between) := rfl
      rw [List.map_cons, List.map_cons, String.intercalate_cons_cons, ← List.map_cons,
        String.toList_append, String.toList_append, List.append_assoc, readFrom?_append hitem,
        List.foldlM_cons]
      cases hadd : addPart? total p with
      | none =>
        rw [hadd] at hblank
        show List.foldlM readChar? _ (' ' :: _) >>= finishReading? = none
        rw [List.foldlM_cons, hblank]
        rfl
      | some total' =>
        rw [hadd] at hblank
        have hread : " ".toList.foldlM readChar?
            (total, .unit p.1 none p.2.toList.reverse) = some (total', .between) := by
          show List.foldlM readChar? _ [' '] = _
          rw [List.foldlM_cons, hblank]
          rfl
        rw [readFrom?_append hread]
        exact ih (by simp) (fun p hp => hps p (by simp [hp])) (.inr rfl) total'

/-- What is read from its beginning on is read as a whole. -/
theorem parse?_of_read {s : String} {d : Duration} (h : readFrom? zero .start s.toList = some d) :
    parse? s = some d := by
  have hlone : s ≠ "0" := by
    rintro rfl
    have hnone : readFrom? zero .start "0".toList = none := by decide
    rw [hnone] at h
    cases h
  unfold parse?
  rw [if_neg hlone]
  exact h

/-! ## Adding the parts of a duration -/

theorem closeItem?_eq {name : String} {u : TimeUnit} (hname : TimeUnit.ofName? name = some u)
    (total : Duration) (n : ℕ) : addPart? total (n, name) = total.addItem? n none u := by
  unfold addPart? closeItem?
  rw [List.reverse_reverse, String.ofList_toList, hname]
  rfl

theorem secs_ofParts {a b : ℕ} (ha : a < wordBound) (hb : b < nanosPerSecond) :
    (ofParts a b).secs = a ∧ (ofParts a b).subsec = b := by
  unfold wordBound at ha
  unfold nanosPerSecond at hb
  have hnanos : (ofParts a b).nanos = a * nanosPerSecond + b := by
    show min _ maxNanos = _
    unfold maxNanos wordBound nanosPerSecond
    omega
  unfold secs subsec
  rw [hnanos]
  unfold nanosPerSecond
  omega

theorem addPart?_secs {name : String} {u : TimeUnit} {factor : ℕ}
    (hname : TimeUnit.ofName? name = some u) (hu : u.whole = (.secs, factor)) {a n : ℕ}
    (h : a + n * factor < wordBound) :
    addPart? (ofParts a 0) (n, name) = some (ofParts (a + n * factor) 0) := by
  obtain ⟨hsecs, hsubsec⟩ := secs_ofParts (a := a) (b := 0) (by omega) (by decide)
  have hamount : n * factor < wordBound := by omega
  rw [closeItem?_eq hname]
  simp [addItem?, hu, addGrains?, wordMul?, wordAdd?, hamount, hsecs, hsubsec, h]

theorem addPart?_nanos {name : String} {u : TimeUnit} {factor : ℕ}
    (hname : TimeUnit.ofName? name = some u) (hu : u.whole = (.nanos, factor)) {a b n : ℕ}
    (ha : a < wordBound) (h : b + n * factor < nanosPerSecond) :
    addPart? (ofParts a b) (n, name) = some (ofParts a (b + n * factor)) := by
  obtain ⟨hsecs, hsubsec⟩ := secs_ofParts (a := a) (b := b) ha (by omega)
  have hbound : nanosPerSecond < wordBound := by decide
  have hamount : n * factor < wordBound := by omega
  have hsum : b + n * factor < wordBound := by omega
  rw [closeItem?_eq hname]
  simp [addItem?, hu, addGrains?, wordMul?, wordAdd?, hamount, hsecs, hsubsec, hsum, ha,
    Nat.div_eq_of_lt h, Nat.mod_eq_of_lt h]

/-- A part that is zero may be left out. -/
theorem addPart?_zero {name : String} {u : TimeUnit} (hname : TimeUnit.ofName? name = some u)
    (total : Duration) : addPart? total (0, name) = some total := by
  have hsecs := total.secs_lt
  have hsubsec := total.subsec_lt
  have hbound : nanosPerSecond < wordBound := by decide
  have hword : total.subsec < wordBound := by omega
  have hpos : 0 < wordBound := by decide
  rw [closeItem?_eq hname]
  unfold addItem?
  cases hgrain : u.whole.1 <;>
    simp [addGrains?, wordMul?, wordAdd?, hsecs, hword, hpos, Nat.div_eq_of_lt hsubsec,
      Nat.mod_eq_of_lt hsubsec, ofParts_secs_subsec]

theorem foldlM_addPart?_filter {ps : List (ℕ × String)}
    (hps : ∀ p ∈ ps, ∃ u, TimeUnit.ofName? p.2 = some u) (total : Duration) :
    (ps.filter (·.1 != 0)).foldlM addPart? total = ps.foldlM addPart? total := by
  induction ps generalizing total with
  | nil => rfl
  | cons p ps ih =>
    obtain ⟨n, name⟩ := p
    obtain ⟨u, hu⟩ := hps (n, name) (by simp)
    have hps' := fun p hp => hps p (List.mem_cons_of_mem _ hp)
    by_cases hn : n = 0
    · subst hn
      rw [List.filter_cons_of_neg (by simp), ih hps', List.foldlM_cons, addPart?_zero hu]
      rfl
    · rw [List.filter_cons_of_pos (by simpa using hn), List.foldlM_cons, List.foldlM_cons]
      exact congrArg _ (funext fun total => ih hps' total)

/-- The units that parts are counted in. -/
def partNames : List String :=
  ["year", "years", "month", "months", "day", "days", "h", "m", "s", "ms", "us", "ns"]

theorem name_mem_parts (d : Duration) : ∀ p ∈ d.parts, p.2 ∈ partNames := by
  unfold parts partNames
  simp only [List.forall_mem_cons, List.not_mem_nil, false_implies, implies_true, and_true]
  refine ⟨?_, ?_, ?_, by simp⟩ <;> split <;> simp

theorem lt_of_mem_parts (d : Duration) : ∀ p ∈ d.parts, p.1 < wordBound := by
  have hsecs := d.secs_lt
  have hsubsec := d.subsec_lt
  have hbound : nanosPerSecond < wordBound := by decide
  unfold parts
  simp only [List.forall_mem_cons, List.not_mem_nil, false_implies, implies_true, and_true]
  omega

theorem isItem_parts (d : Duration) : ∀ p ∈ d.parts, IsItem p := by
  have hunits : ∀ name ∈ partNames, IsUnit name := by decide
  exact fun p hp => ⟨d.lt_of_mem_parts p hp, hunits _ (d.name_mem_parts p hp)⟩

section Rest

variable (u : TimeUnit) (factor : ℕ) {name : String} {whole rest : ℕ}

/-- Of the seconds that are still missing, those that fill up a unit are added. -/
theorem addRest?_secs (hname : TimeUnit.ofName? name = some u) (hu : u.whole = (.secs, factor))
    (hrest : rest ≤ whole) (hwhole : whole < wordBound) :
    addPart? (ofParts (whole - rest) 0) (rest / factor, name) =
      some (ofParts (whole - rest % factor) 0) := by
  have hsplit := Nat.div_add_mod' rest factor
  rw [addPart?_secs hname hu (by omega)]
  congr 2
  omega

/-- The same with nanoseconds. -/
theorem addRest?_nanos (hname : TimeUnit.ofName? name = some u) (hu : u.whole = (.nanos, factor))
    {secs : ℕ} (hsecs : secs < wordBound) (hrest : rest ≤ whole)
    (hwhole : whole < nanosPerSecond) :
    addPart? (ofParts secs (whole - rest)) (rest / factor, name) =
      some (ofParts secs (whole - rest % factor)) := by
  have hsplit := Nat.div_add_mod' rest factor
  rw [addPart?_nanos hname hu hsecs (by omega)]
  congr 2
  omega

end Rest

theorem foldlM_addPart?_cons {total total' : Duration} {p : ℕ × String}
    (h : addPart? total p = some total') (ps : List (ℕ × String)) :
    (p :: ps).foldlM addPart? total = ps.foldlM addPart? total' := by
  rw [List.foldlM_cons, h]
  rfl

/-- The parts of a duration add up to it. -/
theorem addParts?_parts (d : Duration) : d.parts.foldlM addPart? zero = some d := by
  have hsecs := d.secs_lt
  have hsubsec := d.subsec_lt
  have hplural : ∀ (n : ℕ) {one many : String} {u : TimeUnit}, TimeUnit.ofName? one = some u →
      TimeUnit.ofName? many = some u →
      TimeUnit.ofName? (if n = 1 then one else many) = some u := fun n _ _ _ hone hmany => by
    split <;> assumption
  have hzero : zero = ofParts (d.secs - d.secs) 0 := by rw [Nat.sub_self]; rfl
  -- Every part is counted off what the parts in front of it leave.
  have hsecond : ∀ n, n % 60 = n % 3600 % 60 / 1 := fun n => by omega
  have hmicro : ∀ n, n / 1000 % 1000 = n % 1000000 / 1000 := fun n => by omega
  have hnano : ∀ n, n % 1000 = n % 1000000 % 1000 / 1 := fun n => by omega
  unfold parts
  dsimp only
  rw [hsecond, hmicro, hnano, hzero,
    foldlM_addPart?_cons
      (addRest?_secs .year 31557600 (hplural _ rfl rfl) rfl (Nat.le_refl _) hsecs),
    foldlM_addPart?_cons (addRest?_secs .month 2630016 (hplural _ rfl rfl) rfl (by omega) hsecs),
    foldlM_addPart?_cons (addRest?_secs .day 86400 (hplural _ rfl rfl) rfl (by omega) hsecs),
    foldlM_addPart?_cons (addRest?_secs .hour 3600 rfl rfl (by omega) hsecs),
    foldlM_addPart?_cons (addRest?_secs .minute 60 rfl rfl (by omega) hsecs),
    foldlM_addPart?_cons (addRest?_secs .second 1 rfl rfl (by omega) hsecs),
    Nat.mod_one, Nat.sub_zero, ← Nat.sub_self d.subsec,
    foldlM_addPart?_cons
      (addRest?_nanos .milli 1000000 rfl rfl hsecs (Nat.le_refl _) hsubsec),
    foldlM_addPart?_cons (addRest?_nanos .micro 1000 rfl rfl hsecs (by omega) hsubsec),
    foldlM_addPart?_cons (addRest?_nanos .nano 1 rfl rfl hsecs (by omega) hsubsec),
    Nat.mod_one, Nat.sub_zero, List.foldlM_nil, ofParts_secs_subsec]
  rfl

/-! ## Reading what is spelled -/

/-- **Spelling.** What a duration is spelled as is read as that duration. -/
theorem parse?_spell (d : Duration) : parse? d.spell = some d := by
  have hunits : ∀ name ∈ partNames, (TimeUnit.ofName? name).isSome := by decide
  have hnames := fun name h => Option.isSome_iff_exists.mp (hunits name h)
  have hsum : (d.parts.filter (·.1 != 0)).foldlM addPart? zero = some d := by
    rw [foldlM_addPart?_filter fun p hp => hnames _ (d.name_mem_parts p hp), d.addParts?_parts]
  unfold spell
  split
  case isTrue h =>
    have hnanos : d.nanos = 0 := by simpa [isZero] using h
    obtain rfl : d = zero := ext_nanos hnanos
    have hunit : ∀ p ∈ [(0, "s")], IsItem p := by decide
    exact parse?_of_read ((read_items (List.cons_ne_nil _ _) hunit (.inl rfl) zero).trans
      (foldlM_addPart?_cons (addPart?_zero (u := .second) rfl zero) []))
  case isFalse h =>
    refine parse?_of_read ((read_items ?_ ?_ (.inl rfl) zero).trans hsum)
    · intro hnil
      rw [hnil] at hsum
      obtain rfl : zero = d := Option.some.inj hsum
      exact h rfl
    · exact fun p hp => d.isItem_parts p (List.mem_of_mem_filter hp)

theorem spell_injective : Function.Injective spell := by
  intro d d' h
  have hread := d.parse?_spell
  rw [h, d'.parse?_spell] at hread
  exact (Option.some.inj hread).symm

/-! ## Characters of spellings -/

/-- The text is made of letters, digits and blanks. -/
def Plain (s : String) : Prop := ∀ c ∈ s.toList, c.isAlphanum = true ∨ c = ' '

instance : DecidablePred Plain := fun s => List.decidableBAll _ s.toList

theorem Plain.append {s t : String} (hs : Plain s) (ht : Plain t) : Plain (s ++ t) := by
  unfold Plain
  rw [String.toList_append, List.forall_mem_append]
  exact ⟨hs, ht⟩

theorem plain_toString (n : ℕ) : Plain (toString n) := by
  unfold Plain
  rw [Nat.toString_eq_ofList_toDigits, String.toList_ofList]
  intro c hc
  have hdigit := Nat.isDigit_of_mem_toDigits (by decide) (Nat.le_refl 10) hc
  exact .inl (by simp [Char.isAlphanum, hdigit])

theorem plain_intercalate {sep : String} (hsep : Plain sep) {ss : List String}
    (hss : ∀ s ∈ ss, Plain s) : Plain (sep.intercalate ss) := by
  induction ss with
  | nil => simp [Plain]
  | cons s ss ih =>
    have hs := hss s (by simp)
    have hrest := ih fun t ht => hss t (by simp [ht])
    cases ss with
    | nil => rwa [String.intercalate_singleton]
    | cons t ss =>
      rw [String.intercalate_cons_cons]
      exact (hs.append hsep).append hrest

/-- Numbers and units are made of digits and letters, with blanks between them. -/
theorem plain_spell (d : Duration) : Plain d.spell := by
  have hnames : ∀ name ∈ partNames, Plain name := by decide
  unfold spell
  split
  · decide
  · refine plain_intercalate (by decide) fun s hs => ?_
    obtain ⟨p, hp, rfl⟩ := List.mem_map.mp hs
    exact (plain_toString p.1).append
      (hnames _ (d.name_mem_parts p (List.mem_of_mem_filter hp)))

theorem not_mem_spell (d : Duration) {c : Char} (h : (c.isAlphanum || c == ' ') = false) :
    c ∉ d.spell.toList := by
  intro hmem
  rcases d.plain_spell c hmem with hc | hc <;> simp [hc] at h

end FrameWatch.Duration
