import FrameWatch.Proofs.Settings.Values

/-!
# Parts laid over values

What steps into a value lead to once values at the ends of paths have been laid over it.

1. A step leads into a record by key or by position (`Value.item?`), and several lead on from there
   (`Value.at?`).
2. Parts laid over each other make a table that holds under a key the parts inside that key
   (`layParts_field?`).
3. Where paths do not cross, steps lead to the part at their end, laid over what is left there of
   the value below (`at?_lay_layParts`); what is no table is not left under any part inside it
   (`Value.left?`).
-/

namespace FrameWatch.Settings

namespace Value

variable {v : Value}

/-! ## Ways into values -/

/-- A way into a part of a record: by the key of the part in a table, by its position in a list. -/
abbrev Step : Type := String × ℕ

/-- Tables and lists stand for records. -/
def IsRecord : Value → Prop
  | scalar .. => False
  | _ => True

/-- The part of a record that a step leads to. -/
def item? (step : Step) : Value → Option Value
  | table _ fields => fields.lookup step.1
  | list _ items => items[step.2]?
  | scalar .. => none

/-- What several steps lead to. -/
def at? : List Step → Value → Option Value
  | [], v => some v
  | step :: rest, v => (v.item? step).bind (at? rest)

theorem at?_singleton (step : Step) (v : Value) : v.at? [step] = v.item? step := by
  show (v.item? step).bind (at? []) = _
  cases v.item? step <;> rfl

theorem at?_append (outer inner : List Step) (v : Value) :
    v.at? (outer ++ inner) = (v.at? outer).bind (at? inner) := by
  induction outer generalizing v with
  | nil => rfl
  | cons step rest ih =>
    show (v.item? step).bind (at? (rest ++ inner)) = ((v.item? step).bind (at? rest)).bind _
    rw [Option.bind_assoc]
    exact congrArg _ (funext ih)

theorem WellFormed.item? {step : Step} {w : Value} (h : v.WellFormed)
    (hw : v.item? step = some w) : w.WellFormed := by
  cases h with
  | scalar _ _ => cases hw
  | list _ hitems => exact hitems w (List.mem_of_getElem? hw)
  | table _ _ hfields => exact hfields _ (mem_of_lookup hw)

theorem WellFormed.at? {steps : List Step} {w : Value} (h : v.WellFormed)
    (hw : v.at? steps = some w) : w.WellFormed := by
  induction steps generalizing v with
  | nil =>
    obtain rfl := Option.some.inj hw
    exact h
  | cons step rest ih =>
    obtain ⟨u, hu, hw⟩ := Option.bind_eq_some_iff.mp hw
    exact ih (h.item? hu) hw

/-! ## Values at the ends of paths -/

/-- Values at the ends of paths of keys, the later ones on top. -/
abbrev Parts : Type := List (List String × Value)

/-- The parts inside a key, with what their paths go on with. -/
def within (key : String) (parts : Parts) : Parts :=
  parts.filterMap fun part =>
    match part.1 with
    | k :: rest => if k = key then some (rest, part.2) else none
    | [] => none

/-- The parts laid over a value, one after the other. -/
def layParts (below : Option Value) (parts : Parts) : Option Value :=
  parts.foldl (fun below part => lay below (some (part.2.atPath part.1))) below

/-- What steps lead to in a value once parts have been laid over it, as far as it is left of the
value: what is no table gives way as a whole to any part inside it. -/
def left? : List Step → Parts → Value → Option Value
  | [], _, v => some v
  | step :: rest, parts, v =>
    match v, parts with
    | table .., _ | _, [] => (v.item? step).bind (left? rest (within step.1 parts))
    | _, _ :: _ => none

theorem within_cons (key k : String) (path : List String) (v : Value) (rest : Parts) :
    within key ((k :: path, v) :: rest) =
      if k = key then (path, v) :: within key rest else within key rest := by
  unfold within
  rw [List.filterMap_cons]
  dsimp only
  split_ifs <;> rfl

theorem WellFormed.layParts {below : Option Value} {parts : Parts}
    (hbelow : ∀ v ∈ below, v.WellFormed) (hparts : ∀ part ∈ parts, part.2.WellFormed) :
    ∀ v ∈ layParts below parts, v.WellFormed := by
  induction parts generalizing below with
  | nil => exact hbelow
  | cons part rest ih =>
    have hpart : ∀ v ∈ some (part.2.atPath part.1), v.WellFormed := by
      intro v hv
      obtain rfl := Option.some.inj hv
      exact (hparts part List.mem_cons_self).atPath part.1
    exact ih (WellFormed.lay hbelow hpart) fun p hp => hparts p (List.mem_cons_of_mem _ hp)

/-- A part laid over a table is a table that has the part under its first key. -/
theorem lay_atPath {below : Option Value} (hbelow : ∀ v ∈ below, v.IsTable) (v : Value)
    (k : String) (path : List String) (key : String) :
    ∃ w, lay below (some (v.atPath (k :: path))) = some w ∧ w.IsTable ∧
      w.field? key =
        if k = key then lay (below.bind (field? key)) (some (v.atPath path))
        else below.bind (field? key) := by
  have hpart : (v.atPath (k :: path)).field? key =
      if k = key then some (v.atPath path) else none := by
    show [(k, v.atPath path)].lookup key = _
    rw [lookup_cons_eq_ite]
    exact if_congr eq_comm rfl rfl
  cases below with
  | none =>
    refine ⟨_, rfl, trivial, ?_⟩
    rw [hpart]
    rfl
  | some u =>
    cases u with
    | scalar _ _ => exact (hbelow _ rfl).elim
    | list _ _ => exact (hbelow _ rfl).elim
    | table o fields =>
      refine ⟨_, rfl, ?_, ?_⟩
      · show IsTable (merge (table o fields) (table v.origin _))
        unfold merge
        exact trivial
      · show field? key (merge (table o fields) (table v.origin [(k, v.atPath path)])) = _
        rw [field?_merge fields (List.pairwise_singleton _ _)]
        show lay _ (field? key (v.atPath (k :: path))) = _
        rw [hpart]
        split_ifs
        · rfl
        · exact lay_none_right _

/-- Parts laid over a table make a table; under a key it holds the parts inside that key, laid over
what was there. -/
theorem layParts_field? {below : Option Value} (hbelow : ∀ v ∈ below, v.IsTable) {parts : Parts}
    (hpaths : ∀ part ∈ parts, part.1 ≠ []) (key : String) :
    (∀ v ∈ layParts below parts, v.IsTable) ∧
      (layParts below parts).bind (field? key) =
        layParts (below.bind (field? key)) (within key parts) := by
  induction parts generalizing below with
  | nil => exact ⟨hbelow, rfl⟩
  | cons part rest ih =>
    have hrest : ∀ part ∈ rest, part.1 ≠ [] := fun p hp => hpaths p (List.mem_cons_of_mem _ hp)
    obtain ⟨path, v⟩ := part
    cases path with
    | nil => exact absurd rfl (hpaths _ List.mem_cons_self)
    | cons k path =>
      obtain ⟨w, hlay, htable, hfield⟩ := lay_atPath hbelow v k path key
      have hstep : layParts below ((k :: path, v) :: rest) = layParts (some w) rest :=
        congrArg (layParts · rest) hlay
      rw [hstep]
      have hw : ∀ v ∈ some w, v.IsTable := fun v hv => Option.some.inj hv ▸ htable
      obtain ⟨htables, hfields⟩ := ih hw hrest
      refine ⟨htables, hfields.trans ?_⟩
      show layParts (w.field? key) _ = _
      rw [hfield, within_cons]
      split_ifs <;> rfl

theorem exists_layParts {below : Option Value} {parts : Parts} (h : below ≠ none ∨ parts ≠ []) :
    ∃ v, layParts below parts = some v := by
  induction parts generalizing below with
  | nil => exact Option.ne_none_iff_exists'.mp (h.resolve_right (fun h => h rfl))
  | cons part rest ih =>
    refine ih (.inl ?_)
    cases below <;> exact Option.some_ne_none _

theorem lookup_within (key : String) (rest : List String) (parts : Parts) :
    (within key parts).lookup rest = parts.lookup (key :: rest) := by
  induction parts with
  | nil => rfl
  | cons part parts ih =>
    obtain ⟨path, v⟩ := part
    cases path with
    | nil =>
      rw [lookup_cons_eq_ite, if_neg (List.cons_ne_nil _ _)]
      exact ih
    | cons k path =>
      rw [within_cons, lookup_cons_eq_ite]
      by_cases hk : k = key
      · rw [if_pos hk, lookup_cons_eq_ite, ih, hk]
        exact if_congr ⟨congrArg _, fun h => (List.cons.inj h).2⟩ rfl rfl
      · rw [if_neg hk, if_neg fun h => hk (List.cons.inj h).1.symm]
        exact ih

theorem mem_within {key : String} {parts : Parts} {part : List String × Value} :
    part ∈ within key parts ↔ (key :: part.1, part.2) ∈ parts := by
  unfold within
  rw [List.mem_filterMap]
  constructor
  · rintro ⟨⟨path, v⟩, hmem, hpart⟩
    cases path with
    | nil => cases hpart
    | cons k path =>
      dsimp only at hpart
      split at hpart
      · rename_i hk
        obtain rfl := Option.some.inj hpart
        exact hk ▸ hmem
      · cases hpart
  · intro h
    exact ⟨_, h, if_pos rfl⟩

theorem count_within (key : String) (rest : List String) (parts : Parts) :
    ((within key parts).map Prod.fst).count rest = (parts.map Prod.fst).count (key :: rest) := by
  induction parts with
  | nil => rfl
  | cons part parts ih =>
    obtain ⟨path, v⟩ := part
    rw [List.map_cons, List.count_cons, ← ih]
    cases path with
    | nil => rfl
    | cons k path =>
      rw [within_cons]
      by_cases hk : k = key
      · rw [if_pos hk, List.map_cons, List.count_cons, hk]
        simp
      · rw [if_neg hk]
        simp [hk]

/-- The keys of steps. -/
abbrev keys (steps : List Step) : List String := steps.map Prod.fst

/-- Parts that are clear of steps: they have no path that goes on from the steps or stops on their
way, and just one that goes along with them, if any. -/
structure Clear (steps : List Step) (parts : Parts) : Prop where
  paths : ∀ part ∈ parts, part.1 <+: keys steps ∨ keys steps <+: part.1 → part.1 = keys steps
  once : (parts.map Prod.fst).count (keys steps) ≤ 1

theorem Clear.within {step : Step} {rest : List Step} {parts : Parts}
    (h : Clear (step :: rest) parts) : Clear rest (within step.1 parts) where
  paths part hpart hcross := by
    have := h.paths _ (mem_within.mp hpart)
      (hcross.imp (fun h => List.cons_prefix_cons.mpr ⟨rfl, h⟩)
        fun h => List.cons_prefix_cons.mpr ⟨rfl, h⟩)
    exact (List.cons.inj this).2
  once := (count_within step.1 (keys rest) parts).trans_le h.once

theorem Clear.path_ne {step : Step} {rest : List Step} {parts : Parts}
    (h : Clear (step :: rest) parts) : ∀ part ∈ parts, part.1 ≠ [] := by
  intro part hpart hnil
  have := h.paths part hpart (.inl (hnil ▸ List.nil_prefix))
  rw [hnil] at this
  cases this

theorem item?_of_isTable {step : Step} (h : v.IsTable) : v.item? step = v.field? step.1 := by
  cases v with
  | table _ _ => rfl
  | scalar _ _ => exact h.elim
  | list _ _ => exact h.elim

theorem merge_of_not_isTable (h : ¬ v.IsTable) (upper : Value) : v.merge upper = upper := by
  cases v with
  | table _ _ => exact absurd trivial h
  | scalar _ _ => unfold merge; rfl
  | list _ _ => unfold merge; rfl

theorem IsTable.isRecord (h : v.IsTable) : v.IsRecord := by
  cases v with
  | table _ _ => trivial
  | scalar _ _ => exact h.elim
  | list _ _ => exact h.elim

theorem IsTable.merge {lower upper : Value} (hlower : lower.IsTable) (hupper : upper.IsTable) :
    (lower.merge upper).IsTable := by
  cases lower with
  | scalar _ _ => exact hlower.elim
  | list _ _ => exact hlower.elim
  | table _ _ =>
    cases upper with
    | scalar _ _ => exact hupper.elim
    | list _ _ => exact hupper.elim
    | table _ _ => unfold Value.merge; exact trivial

theorem left?_of_not_isTable (h : ¬ v.IsTable) {parts : Parts} (hparts : parts ≠ []) (step : Step)
    (rest : List Step) : v.left? (step :: rest) parts = none := by
  cases v with
  | table _ _ => exact absurd trivial h
  | scalar _ _ => cases parts with
    | nil => exact absurd rfl hparts
    | cons _ _ => rfl
  | list _ _ => cases parts with
    | nil => exact absurd rfl hparts
    | cons _ _ => rfl

theorem left?_of_isTable (h : v.IsTable) {parts : Parts} (step : Step) (rest : List Step) :
    v.left? (step :: rest) parts = (v.field? step.1).bind (left? rest (within step.1 parts)) := by
  cases v with
  | table _ _ => cases parts <;> rfl
  | scalar _ _ => exact h.elim
  | list _ _ => exact h.elim

theorem item?_merge {lower upper : Value} (hlower : lower.IsTable) (hupper : upper.IsTable)
    (h : upper.WellFormed) (step : Step) :
    (lower.merge upper).item? step = lay (lower.field? step.1) (upper.field? step.1) := by
  cases lower with
  | scalar _ _ => exact hlower.elim
  | list _ _ => exact hlower.elim
  | table o fields =>
    cases h with
    | scalar _ _ => exact hupper.elim
    | list _ _ => exact hupper.elim
    | table _ hascending _ =>
      rw [← field?_merge fields hascending]
      unfold merge
      rfl

/-- Without parts, all of a value is left. -/
theorem left?_nil (steps : List Step) (v : Value) : v.left? steps [] = v.at? steps := by
  induction steps generalizing v with
  | nil => rfl
  | cons step rest ih =>
    have hleft : v.left? (step :: rest) [] = (v.item? step).bind (left? rest []) := by
      cases v <;> rfl
    rw [hleft]
    exact congrArg _ (funext ih)

/-- In a merged table the first step leads to what the two tables hold under its key, laid over each
other, and the others lead on from there. -/
theorem at?_merge_of_field? {lower upper : Value} {step : Step} {rest : List Step} {parts : Parts}
    (hlower : lower.IsTable) (htable : upper.IsTable) (hupper : upper.WellFormed)
    (hfield : upper.field? step.1 = layParts none (within step.1 parts))
    (hinner : (lay (lower.field? step.1) (layParts none (within step.1 parts))).bind (at? rest) =
      lay ((lower.field? step.1).bind (left? rest (within step.1 parts)))
        (parts.lookup (step.1 :: keys rest))) :
    (lower.merge upper).at? (step :: rest) =
      lay (lower.left? (step :: rest) parts) (parts.lookup (keys (step :: rest))) := by
  show ((lower.merge upper).item? step).bind (at? rest) = _
  rw [item?_merge hlower htable hupper step, hfield, left?_of_isTable hlower step rest]
  exact hinner

/-- Where no steps are left to take there is one part at most, and it is the whole value. -/
theorem at?_lay_layParts_nil {parts : Parts} {lower : Option Value} (hclear : Clear [] parts) :
    (lay lower (layParts none parts)).bind (at? []) =
      lay (lower.bind (left? [] parts)) (parts.lookup (keys [])) := by
  have hpaths : ∀ part ∈ parts, part.1 = [] := fun part hpart =>
    hclear.paths part hpart (.inr List.nil_prefix)
  obtain _ | ⟨⟨path, w⟩, _ | ⟨⟨path', w'⟩, rest⟩⟩ := parts
  · cases lower <;> rfl
  · obtain rfl : path = [] := hpaths _ List.mem_cons_self
    cases lower <;> rfl
  · obtain rfl : path = [] := hpaths _ List.mem_cons_self
    obtain rfl : path' = [] := hpaths _ (List.mem_cons_of_mem _ List.mem_cons_self)
    have honce := hclear.once
    simp at honce

/-- Steps lead to the part at their end, laid over what is left there of the value below. -/
theorem at?_lay_layParts {steps : List Step} {parts : Parts} {lower : Option Value}
    (hparts : ∀ part ∈ parts, part.2.WellFormed) (hclear : Clear steps parts) :
    (lay lower (layParts none parts)).bind (at? steps) =
      lay (lower.bind (left? steps parts)) (parts.lookup (keys steps)) := by
  induction steps generalizing parts lower with
  | nil => exact at?_lay_layParts_nil hclear
  | cons step rest ih =>
    have hinner (l : Option Value) :
        (lay l (layParts none (within step.1 parts))).bind (at? rest) =
          lay (l.bind (left? rest (within step.1 parts)))
            (parts.lookup (step.1 :: keys rest)) := by
      rw [← lookup_within]
      exact ih (fun part hpart => hparts (step.1 :: part.1, part.2) (mem_within.mp hpart))
        hclear.within
    obtain rfl | hsome := eq_or_ne parts []
    · show (lay lower none).bind _ = lay _ none
      rw [lay_none_right, lay_none_right]
      exact congrArg _ (funext fun v => (left?_nil _ v).symm)
    obtain ⟨upper, hupper⟩ : ∃ upper, layParts none parts = some upper :=
      exists_layParts (.inr hsome)
    have hnone : ∀ v ∈ (none : Option Value), v.IsTable := by simp
    obtain ⟨htables, hfield⟩ := layParts_field? hnone hclear.path_ne step.1
    have htable : upper.IsTable := htables _ hupper
    have hwell : upper.WellFormed :=
      WellFormed.layParts (by simp) hparts _ hupper
    rw [hupper] at hfield ⊢
    have hover : upper.at? (step :: rest) = parts.lookup (step.1 :: keys rest) := by
      show (upper.item? step).bind _ = _
      rw [item?_of_isTable htable]
      refine (congrArg (Option.bind · (at? rest)) hfield).trans ?_
      simpa using hinner none
    cases lower with
    | none => simpa using hover
    | some l =>
      by_cases hl : l.IsTable
      · exact at?_merge_of_field? hl htable hwell hfield (hinner _)
      · have hmerge : l.merge upper = upper := merge_of_not_isTable hl upper
        have hleft : l.left? (step :: rest) parts = none := left?_of_not_isTable hl hsome step rest
        show at? (step :: rest) (l.merge upper) = lay (l.left? _ parts) _
        rw [hmerge, hleft, lay_none_left]
        exact hover

/-- Parts on top of a table leave what steps lead to as they leave it on top of nothing. -/
theorem at?_merge_layParts {lower upper : Value} {o : Origin} {step : Step} {rest : List Step}
    {parts : Parts} (hlower : lower.IsTable) (ho : o ≠ .document)
    (hupper : layParts (some (.table o [])) parts = some upper)
    (hparts : ∀ part ∈ parts, part.2.WellFormed) (hclear : Clear (step :: rest) parts) :
    (lower.merge upper).at? (step :: rest) =
      lay (lower.left? (step :: rest) parts) (parts.lookup (keys (step :: rest))) := by
  have hbelow : ∀ v ∈ some (Value.table o []), v.IsTable ∧ v.WellFormed := fun v hv =>
    Option.some.inj hv ▸ ⟨trivial, .table ho List.Pairwise.nil (by simp)⟩
  obtain ⟨htables, hfield⟩ := layParts_field? (fun v hv => (hbelow v hv).1) hclear.path_ne step.1
  have hwell := WellFormed.layParts (fun v hv => (hbelow v hv).2) hparts
  rw [hupper] at htables hfield hwell
  refine at?_merge_of_field? hlower (htables upper rfl) (hwell upper rfl) hfield ?_
  rw [← lookup_within]
  exact at?_lay_layParts (fun part hpart => hparts (step.1 :: part.1, part.2) (mem_within.mp hpart))
    hclear.within

/-- All of a value is left where its way leads through tables, or past all parts. -/
theorem left?_eq_at? {steps : List Step} {parts : Parts}
    (h : ∀ front, front <+: steps → front ≠ steps → ∀ w, v.at? front = some w →
      w.IsTable ∨ ∀ part ∈ parts, ¬ keys front <+: part.1) :
    v.left? steps parts = v.at? steps := by
  induction steps generalizing parts v with
  | nil => rfl
  | cons step rest ih =>
    obtain htable | hnone := h [] List.nil_prefix (List.cons_ne_nil _ _).symm v rfl
    · rw [left?_of_isTable htable step rest, ← item?_of_isTable htable]
      show _ = (v.item? step).bind (at? rest)
      cases hw : v.item? step with
      | none => rfl
      | some w =>
        refine ih fun front hfront hne u hu => ?_
        have hstep : v.at? (step :: front) = some u := by
          show (v.item? step).bind (at? front) = some u
          rw [hw]
          exact hu
        refine (h (step :: front) (List.cons_prefix_cons.mpr ⟨rfl, hfront⟩)
          (fun heq => hne (List.cons.inj heq).2) u hstep).imp id fun hpast part hpart hin => ?_
        exact hpast _ (mem_within.mp hpart) (List.cons_prefix_cons.mpr ⟨rfl, hin⟩)
    · have hparts : parts = [] := List.eq_nil_iff_forall_not_mem.mpr fun part hpart =>
        hnone part hpart List.nil_prefix
      rw [hparts, left?_nil]

end Value

end FrameWatch.Settings
