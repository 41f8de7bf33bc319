import Mathlib.Data.String.Basic
import FrameWatch.Settings.Value

/-!
# Values in layers

What one value laid over another holds under each key.

1. `Value.WellFormed` is what every value has that was written in a file or in the environment: the
   keys of its tables ascend, so that each stands for one field, and nothing in it is left open.
   Merging keeps values well-formed (`WellFormed.merge`).
2. `Value.lay` is merging where either layer may be missing. What a merged table holds under a key
   is what the two tables hold there, laid over each other (`field?_merge`).
-/

namespace FrameWatch.Settings

variable {α : Type} {key k : String} {v : Value} {fields : List (String × Value)}

/-! ## Fields in order -/

/-- The keys ascend. -/
def Ascending (fields : List (String × α)) : Prop := fields.Pairwise fun f g => f.1 < g.1

theorem lookup_cons_eq_ite {κ : Type} [BEq κ] [LawfulBEq κ] [DecidableEq κ] (f : κ × α)
    (rest : List (κ × α)) (k : κ) :
    (f :: rest).lookup k = if k = f.1 then some f.2 else rest.lookup k := by
  rw [List.lookup_cons]
  by_cases h : k = f.1
  · rw [if_pos h, beq_iff_eq.mpr h]
  · rw [if_neg h, beq_eq_false_iff_ne.mpr h]

theorem mem_of_lookup {fields : List (String × α)} {a : α} (h : fields.lookup key = some a) :
    (key, a) ∈ fields := by
  obtain ⟨before, behind, rfl, -⟩ := List.lookup_eq_some_iff.mp h
  exact List.mem_append_right _ List.mem_cons_self

theorem any_key_eq (fields : List (String × α)) (k : String) :
    fields.any (·.1 == k) = (fields.lookup k).isSome := by
  induction fields with
  | nil => rfl
  | cons f rest ih =>
    rw [List.any_cons, lookup_cons_eq_ite, ih]
    by_cases h : k = f.1
    · rw [if_pos h, beq_iff_eq.mpr h.symm]
      rfl
    · rw [if_neg h, beq_eq_false_iff_ne.mpr (Ne.symm h)]
      rfl

theorem lookup_filter_key (p : String → Bool) (fields : List (String × α)) (k : String) :
    (fields.filter fun f => p f.1).lookup k = if p k then fields.lookup k else none := by
  induction fields with
  | nil => exact (ite_self _).symm
  | cons f rest ih =>
    rw [List.filter_cons]
    by_cases hk : k = f.1
    · subst hk
      cases hp : p f.1
      · rw [if_neg Bool.false_ne_true, ih, hp]
        rfl
      · rw [if_pos rfl, if_pos rfl, lookup_cons_eq_ite, lookup_cons_eq_ite]
        exact (if_pos rfl).trans (if_pos rfl).symm
    · split <;> simp only [lookup_cons_eq_ite, if_neg hk, ih]

theorem mem_insertField {f : String × Value} (h : f ∈ insertField key v fields) :
    f = (key, v) ∨ f ∈ fields := by
  induction fields with
  | nil => exact .inl (List.mem_singleton.mp h)
  | cons g rest ih =>
    obtain ⟨k, w⟩ := g
    unfold insertField at h
    split at h
    · exact (List.mem_cons.mp h).imp id (List.mem_cons_of_mem _)
    split at h
    · exact List.mem_cons.mp h
    · obtain rfl | h := List.mem_cons.mp h
      · exact .inr List.mem_cons_self
      · exact (ih h).imp id (List.mem_cons_of_mem _)

theorem Ascending.insertField (h : Ascending fields) (key : String) (v : Value) :
    Ascending (insertField key v fields) := by
  induction fields with
  | nil => exact List.pairwise_singleton _ _
  | cons g rest ih =>
    obtain ⟨k, w⟩ := g
    obtain ⟨hfirst, hrest⟩ := List.pairwise_cons.mp h
    unfold Settings.insertField
    split
    · rename_i hkey
      subst hkey
      exact List.pairwise_cons.mpr ⟨hfirst, hrest⟩
    split
    · rename_i hless
      refine List.pairwise_cons.mpr ⟨fun f hf => ?_, h⟩
      obtain rfl | hf := List.mem_cons.mp hf
      · exact hless
      · exact lt_trans hless (hfirst f hf)
    · rename_i hne hless
      refine List.pairwise_cons.mpr ⟨fun f hf => ?_, ih hrest⟩
      obtain rfl | hf := mem_insertField hf
      · exact lt_of_le_of_ne (not_lt.mp hless) (Ne.symm hne)
      · exact hfirst f hf

theorem lookup_insertField (key : String) (v : Value) (fields : List (String × Value))
    (k : String) :
    (insertField key v fields).lookup k = if k = key then some v else fields.lookup k := by
  induction fields with
  | nil => exact lookup_cons_eq_ite (key, v) [] k
  | cons g rest ih =>
    obtain ⟨l, w⟩ := g
    unfold insertField
    split
    · rename_i hkey
      subst hkey
      simp only [lookup_cons_eq_ite]
      split_ifs <;> rfl
    split
    · exact lookup_cons_eq_ite _ _ k
    · rename_i hne _
      simp only [lookup_cons_eq_ite, ih]
      by_cases h : k = l
      · rw [if_pos h, if_neg (h ▸ Ne.symm hne)]
        exact (if_pos h).symm
      · rw [if_neg h, if_neg h]

/-! ## Fields on fields -/

/-- All fields of `upper`, one after the other, put among those of `lower`. -/
abbrev insertFields (lower upper : List (String × Value)) : List (String × Value) :=
  upper.foldl (fun sorted f => insertField f.1 f.2 sorted) lower

theorem mem_insertFields {lower upper : List (String × Value)} {f : String × Value}
    (h : f ∈ insertFields lower upper) : f ∈ upper ∨ f ∈ lower := by
  induction upper generalizing lower with
  | nil => exact .inr h
  | cons g rest ih =>
    obtain h | h := ih h
    · exact .inl (List.mem_cons_of_mem _ h)
    · obtain rfl | h := mem_insertField h
      · exact .inl List.mem_cons_self
      · exact .inr h

theorem Ascending.insertFields {lower : List (String × Value)} (h : Ascending lower)
    (upper : List (String × Value)) : Ascending (insertFields lower upper) := by
  induction upper generalizing lower with
  | nil => exact h
  | cons g rest ih => exact ih (h.insertField g.1 g.2)

theorem lookup_eq_none_of_lt {f : String × Value} (h : ∀ g ∈ fields, f.1 < g.1) :
    fields.lookup f.1 = none := by
  rw [List.lookup_eq_none_iff]
  intro g hg
  simpa using (h g hg).ne

theorem lookup_insertFields {upper : List (String × Value)} (h : Ascending upper)
    (lower : List (String × Value)) (k : String) :
    (insertFields lower upper).lookup k = (upper.lookup k).or (lower.lookup k) := by
  induction upper generalizing lower with
  | nil => rfl
  | cons f rest ih =>
    obtain ⟨hfirst, hrest⟩ := List.pairwise_cons.mp h
    show (insertFields (insertField f.1 f.2 lower) rest).lookup k = _
    rw [ih hrest, lookup_insertField, lookup_cons_eq_ite]
    by_cases hk : k = f.1
    · rw [if_pos hk, if_pos hk, hk, lookup_eq_none_of_lt hfirst]
      rfl
    · rw [if_neg hk, if_neg hk]

/-! ## Values as they are written -/

namespace Value

/-- A value as it can be written: its tables have ascending keys, and none of it is left open or
stands in a document of its own. -/
inductive WellFormed : Value → Prop
  | scalar {o : Origin} {content : Scalar} (horigin : o ≠ .document) (hcontent : content ≠ .null) :
    WellFormed (.scalar o content)
  | list {o : Origin} {items : List Value} (horigin : o ≠ .document)
    (hitems : ∀ v ∈ items, WellFormed v) : WellFormed (.list o items)
  | table {o : Origin} {fields : List (String × Value)} (horigin : o ≠ .document)
    (hascending : Ascending fields) (hfields : ∀ f ∈ fields, WellFormed f.2) :
    WellFormed (.table o fields)

theorem WellFormed.origin_ne (h : v.WellFormed) : v.origin ≠ .document := by
  cases h <;> assumption

theorem WellFormed.ofFields {o : Origin} (horigin : o ≠ .document)
    (h : ∀ f ∈ fields, f.2.WellFormed) : (Value.ofFields o fields).WellFormed :=
  .table horigin (Ascending.insertFields List.Pairwise.nil fields) fun f hf =>
    (mem_insertFields hf).elim (h f) fun hf => absurd hf List.not_mem_nil

theorem WellFormed.atPath (h : v.WellFormed) (path : List String) : (v.atPath path).WellFormed := by
  induction path with
  | nil => exact h
  | cons key rest ih =>
    refine .table h.origin_ne (List.pairwise_singleton _ _) fun f hf => ?_
    obtain rfl := List.mem_singleton.mp hf
    exact ih

end Value

/-! ## Merged values -/

theorem mergeFields_eq_map (lower upper : List (String × Value)) :
    mergeFields lower upper = lower.map fun f => (f.1,
      match upper.lookup f.1 with
      | some w => f.2.merge w
      | none => f.2) := by
  induction lower with
  | nil => rfl
  | cons f rest ih =>
    unfold mergeFields
    rw [ih]
    rfl

namespace Value

/-- A layer over another, either of which may be missing. -/
def lay : Option Value → Option Value → Option Value
  | some lower, some upper => some (lower.merge upper)
  | lower, none => lower
  | none, upper => upper

@[simp] theorem lay_none_left (upper : Option Value) : lay none upper = upper := by
  cases upper <;> rfl

@[simp] theorem lay_none_right (lower : Option Value) : lay lower none = lower := by
  cases lower <;> rfl

/-- The keys and values of a table. -/
def IsTable : Value → Prop
  | table .. => True
  | _ => False

/-- What a table holds under a key. -/
def field? (key : String) : Value → Option Value
  | table _ fields => fields.lookup key
  | _ => none

theorem lookup_mergeFields (lower upper : List (String × Value)) (k : String) :
    (mergeFields lower upper).lookup k =
      (lower.lookup k).map fun v =>
        match upper.lookup k with
        | some w => v.merge w
        | none => v := by
  rw [mergeFields_eq_map]
  induction lower with
  | nil => rfl
  | cons f rest ih =>
    rw [List.map_cons, lookup_cons_eq_ite, lookup_cons_eq_ite, ih]
    by_cases hk : k = f.1
    · rw [if_pos hk, if_pos hk, hk]
      rfl
    · rw [if_neg hk, if_neg hk]

theorem ascending_mergeFields {lower : List (String × Value)} (h : Ascending lower)
    (upper : List (String × Value)) : Ascending (mergeFields lower upper) := by
  rw [mergeFields_eq_map]
  exact List.pairwise_map.mpr h

/-- A merged table holds under a key what both tables hold there, laid over each other. -/
theorem lookup_merged (lower : List (String × Value)) {upper : List (String × Value)}
    (h : Ascending upper) (k : String) :
    (addMissing (mergeFields lower upper) upper).lookup k =
      lay (lower.lookup k) (upper.lookup k) := by
  unfold addMissing
  rw [lookup_insertFields (h.filter _), lookup_filter_key fun key =>
    !(mergeFields lower upper).any (·.1 == key), any_key_eq, lookup_mergeFields]
  cases lower.lookup k <;> cases upper.lookup k <;> rfl

theorem field?_merge {o o' : Origin} (lower : List (String × Value))
    {upper : List (String × Value)} (h : Ascending upper) (k : String) :
    ((table o lower).merge (table o' upper)).field? k =
      lay ((table o lower).field? k) ((table o' upper).field? k) := by
  unfold merge
  exact lookup_merged lower h k

/-- Merging keeps values well-formed. -/
theorem WellFormed.merge {lower upper : Value} (hlower : lower.WellFormed)
    (hupper : upper.WellFormed) : (lower.merge upper).WellFormed := by
  induction hlower generalizing upper with
  | scalar _ _ => exact hupper
  | list _ _ _ => exact hupper
  | table horigin hascending hfields ih =>
    rename_i o lower
    cases hupper with
    | scalar horigin' hcontent => exact .scalar horigin' hcontent
    | list horigin' hitems => exact .list horigin' hitems
    | table horigin' hascending' hfields' =>
      unfold Value.merge
      refine .table horigin' ((ascending_mergeFields hascending _).insertFields _) fun f hf => ?_
      obtain hf | hf := mem_insertFields hf
      · exact hfields' f (List.mem_of_mem_filter hf)
      · rw [mergeFields_eq_map] at hf
        obtain ⟨g, hg, rfl⟩ := List.mem_map.mp hf
        dsimp only
        split
        · rename_i w hw
          exact ih g hg (hfields' _ (mem_of_lookup hw))
        · exact hfields g hg

theorem WellFormed.lay {lower upper : Option Value} (hlower : ∀ v ∈ lower, v.WellFormed)
    (hupper : ∀ v ∈ upper, v.WellFormed) : ∀ v ∈ lay lower upper, v.WellFormed := by
  cases lower with
  | none => rwa [lay_none_left]
  | some l =>
    cases upper with
    | none => rwa [lay_none_right]
    | some u =>
      intro v hv
      obtain rfl := Option.some.inj hv
      exact (hlower l rfl).merge (hupper u rfl)

end Value

end FrameWatch.Settings
