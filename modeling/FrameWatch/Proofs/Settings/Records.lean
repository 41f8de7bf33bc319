import Mathlib.Data.List.Nodup
import Mathlib.Data.List.Pairwise
import FrameWatch.Proofs.Settings.Parts
import FrameWatch.Settings.Decode

/-!
# Records

What is decoded into each field of a record, whatever the other fields are.

1. A `Slot` is a field of a record that can be read back; `Layout` says of a list of slots that none
   of them touches another.
2. A record is decoded where every value for one of its slots is, and then every slot holds what its
   value stands for, or its standard (`accepts_record_iff`, `settles_record`).
3. `Settles` carries this on to records inside records (`Settles.trans`).
-/

namespace FrameWatch.Settings

open Value

variable {α β ρ ω : Type}

/-- The value is decoded without a fault. -/
def Accepts (decode : Decoder α) (v : Value) : Prop := ∃ a, decode v = .ok a

theorem mapError_eq_ok {ε ε' : Type} {f : ε → ε'} {x : Except ε α} {a : α} :
    x.mapError f = .ok a ↔ x = .ok a := by
  cases x <;> simp [Except.mapError]

theorem bind_eq_ok {ε : Type} {x : Except ε α} {f : α → Except ε β} {b : β} :
    x >>= f = .ok b ↔ ∃ a, x = .ok a ∧ f a = .ok b := by
  cases x <;> simp [bind, Except.bind]

/-! ## Slots -/

/-- A field of a record that can be read back, and the option that may take its place. -/
structure Slot (ω ρ : Type) where
  {Kind : Type}
  name : String
  decode : Decoder Kind
  get : ρ → Kind
  set : ρ → Kind → ρ
  flag : ω → Option Kind := fun _ => none

namespace Slot

/-- The field as it is decoded. -/
def field (s : Slot ω ρ) : Decode.Field ρ := Decode.field s.name s.decode s.set

/-- Setting one slot does not show in the other. -/
def Spares (s t : Slot ω ρ) : Prop := ∀ r a, t.get (s.set r a) = t.get r

/-- What a record holds in the slot once it has been decoded from that value, or from none. -/
def Holds (s : Slot ω ρ) (standard : ρ) (v : Option Value) (r : ρ) : Prop :=
  match v with
  | some v => s.decode v = .ok (s.get r)
  | none => s.get r = s.get standard

theorem put_eq_ok {s : Slot ω ρ} {r r' : ρ} {v : Value} :
    s.field.put r v = .ok r' ↔ ∃ a, s.decode v = .ok a ∧ s.set r a = r' := by
  show (s.decode v).map (s.set r) = .ok r' ↔ _
  cases s.decode v <;> simp [Except.map]

end Slot

/-- Slots with names of their own that do not touch each other. -/
structure Layout (slots : List (Slot ω ρ)) : Prop where
  get_set : ∀ s ∈ slots, ∀ r a, s.get (s.set r a) = a
  spares : slots.Pairwise fun s t => s.Spares t ∧ t.Spares s
  names : (slots.map Slot.name).Nodup

namespace Layout

variable {slots : List (Slot ω ρ)} {s t : Slot ω ρ}

theorem eq_of_name (h : Layout slots) (hs : s ∈ slots) (ht : t ∈ slots)
    (hname : s.name = t.name) : s = t :=
  List.inj_on_of_nodup_map h.names hs ht hname

theorem spares_of_name (h : Layout slots) (hs : s ∈ slots) (ht : t ∈ slots)
    (hname : s.name ≠ t.name) : s.Spares t :=
  have : Std.Symm fun s t : Slot ω ρ => s.Spares t ∧ t.Spares s := ⟨fun _ _ => And.symm⟩
  (h.spares.forall hs ht fun heq => hname (congrArg Slot.name heq)).1

theorem tail (h : Layout (s :: slots)) : Layout slots where
  get_set t ht := h.get_set t (List.mem_cons_of_mem _ ht)
  spares := (List.pairwise_cons.mp h.spares).2
  names := (List.nodup_cons.mp h.names).2

end Layout

/-! ## Records from tables -/

namespace Decode

variable {slots : List (Slot ω ρ)} {s : Slot ω ρ} {r r' : ρ}

/-- The slot of a key. -/
def slot? (slots : List (Slot ω ρ)) (key : String) : Option (Slot ω ρ) :=
  slots.find? (·.name == key)

theorem slot?_eq_some (h : Layout slots) {key : String} :
    slot? slots key = some s ↔ s ∈ slots ∧ s.name = key := by
  constructor
  · intro hfind
    exact ⟨List.mem_of_find?_eq_some hfind, by simpa using List.find?_some hfind⟩
  · rintro ⟨hs, rfl⟩
    cases hfind : slot? slots s.name with
    | none => simpa using List.find?_eq_none.mp hfind s hs
    | some t =>
      have hname : t.name = s.name := by simpa using List.find?_some hfind
      rw [h.eq_of_name (List.mem_of_find?_eq_some hfind) hs hname]

theorem fromTable_cons (key : String) (v : Value) (rest : List (String × Value)) :
    fromTable (slots.map Slot.field) r ((key, v) :: rest) = .ok r' ↔
      match slot? slots key with
      | some s => ∃ a, s.decode v = .ok a ∧
          fromTable (slots.map Slot.field) (s.set r a) rest = .ok r'
      | none => fromTable (slots.map Slot.field) r rest = .ok r' := by
  have hfind : (slots.map Slot.field).find? (·.name == key) =
      (slot? slots key).map Slot.field := List.find?_map
  unfold fromTable
  rw [List.foldlM_cons, bind_eq_ok]
  dsimp only
  rw [hfind]
  cases slot? slots key with
  | none => simp
  | some s =>
    dsimp only [Option.map]
    simp only [mapError_eq_ok, Slot.put_eq_ok]
    constructor
    · rintro ⟨_, ⟨a, ha, rfl⟩, hrest⟩
      exact ⟨a, ha, hrest⟩
    · rintro ⟨a, ha, hrest⟩
      exact ⟨_, ⟨a, ha, rfl⟩, hrest⟩

/-- A table puts into each slot what stands under its name. -/
theorem holds_fromTable (h : Layout slots) {values : List (String × Value)}
    (hvalues : Ascending values) (hrun : fromTable (slots.map Slot.field) r values = .ok r')
    (hs : s ∈ slots) : s.Holds r (values.lookup s.name) r' := by
  induction values generalizing r with
  | nil =>
    obtain rfl := Except.ok.inj hrun
    rfl
  | cons f rest ih =>
    obtain ⟨key, v⟩ := f
    obtain ⟨hfirst, hrest⟩ := List.pairwise_cons.mp hvalues
    have hother : s.name ≠ key → ((key, v) :: rest).lookup s.name = rest.lookup s.name :=
      fun hne => (lookup_cons_eq_ite _ _ _).trans (if_neg hne)
    rw [fromTable_cons] at hrun
    cases hslot : slot? slots key with
    | none =>
      rw [hslot] at hrun
      have hne : s.name ≠ key := fun hname => by
        rw [(slot?_eq_some h).mpr ⟨hs, hname⟩] at hslot
        cases hslot
      rw [hother hne]
      exact ih hrest hrun
    | some t =>
      rw [hslot] at hrun
      obtain ⟨a, ha, hrun⟩ := hrun
      obtain ⟨ht, rfl⟩ := (slot?_eq_some h).mp hslot
      have hholds := ih hrest hrun
      by_cases hname : s.name = t.name
      · obtain rfl := h.eq_of_name hs ht hname
        rw [lookup_eq_none_of_lt hfirst] at hholds
        have hget : s.get r' = a := hholds.trans (h.get_set s hs r a)
        rw [lookup_cons_eq_ite, if_pos rfl]
        exact ha.trans (congrArg _ hget.symm)
      · rw [hother hname]
        cases hlookup : rest.lookup s.name with
        | some w => rwa [hlookup] at hholds
        | none =>
          rw [hlookup] at hholds
          exact hholds.trans (h.spares_of_name ht hs (Ne.symm hname) r a)

/-- A table is decoded where all values under the names of slots are. -/
theorem exists_fromTable (h : Layout slots) {values : List (String × Value)}
    (hvalues : Ascending values)
    (haccepts : ∀ s ∈ slots, ∀ v, values.lookup s.name = some v → Accepts s.decode v) (r : ρ) :
    ∃ r', fromTable (slots.map Slot.field) r values = .ok r' := by
  induction values generalizing r with
  | nil => exact ⟨r, rfl⟩
  | cons f rest ih =>
    obtain ⟨key, v⟩ := f
    obtain ⟨hfirst, hrest⟩ := List.pairwise_cons.mp hvalues
    have htail : ∀ s ∈ slots, ∀ v, rest.lookup s.name = some v → Accepts s.decode v := by
      intro s hs w hw
      have hne : s.name ≠ key := fun hname => by
        rw [hname, lookup_eq_none_of_lt hfirst] at hw
        cases hw
      exact haccepts s hs w ((lookup_cons_eq_ite _ _ _).trans ((if_neg hne).trans hw))
    simp only [fromTable_cons]
    cases hslot : slot? slots key with
    | none => exact ih hrest htail r
    | some s =>
      obtain ⟨hs, rfl⟩ := (slot?_eq_some h).mp hslot
      obtain ⟨a, ha⟩ := haccepts s hs v ((lookup_cons_eq_ite _ _ _).trans (if_pos rfl))
      obtain ⟨r', hr'⟩ := ih hrest htail (s.set r a)
      exact ⟨r', a, ha, hr'⟩

/-! ## Records from lists -/

theorem fromList_cons {index : ℕ} (v : Value) (rest : List Value) :
    fromList ((s :: slots).map Slot.field) index r (v :: rest) = .ok r' ↔
      ∃ a, s.decode v = .ok a ∧
        fromList (slots.map Slot.field) (index + 1) (s.set r a) rest = .ok r' := by
  have hrun : fromList ((s :: slots).map Slot.field) index r (v :: rest) =
      (s.field.put r v).mapError (Fault.under (toString index)) >>= fun r =>
        fromList (slots.map Slot.field) (index + 1) r rest := rfl
  rw [hrun, bind_eq_ok]
  simp only [mapError_eq_ok, Slot.put_eq_ok]
  constructor
  · rintro ⟨_, ⟨a, ha, rfl⟩, hrest⟩
    exact ⟨a, ha, hrest⟩
  · rintro ⟨a, ha, hrest⟩
    exact ⟨_, ⟨a, ha, rfl⟩, hrest⟩

theorem spared_fromList {t : Slot ω ρ} (ht : ∀ s ∈ slots, s.Spares t) {index : ℕ}
    {values : List Value} (hrun : fromList (slots.map Slot.field) index r values = .ok r') :
    t.get r' = t.get r := by
  induction slots generalizing index r values with
  | nil =>
    obtain rfl := Except.ok.inj hrun
    rfl
  | cons s slots ih =>
    cases values with
    | nil =>
      obtain rfl := Except.ok.inj hrun
      rfl
    | cons v rest =>
      obtain ⟨hs, hslots⟩ := List.forall_mem_cons.mp ht
      obtain ⟨a, -, hrun⟩ := (fromList_cons v rest).mp hrun
      exact (ih hslots hrun).trans (hs r a)

/-- A list puts into each slot what stands at its position. -/
theorem holds_fromList (h : Layout slots) {index i : ℕ} {values : List Value}
    (hrun : fromList (slots.map Slot.field) index r values = .ok r') (hs : slots[i]? = some s) :
    s.Holds r values[i]? r' := by
  induction slots generalizing index i r values with
  | nil => cases hs
  | cons first slots ih =>
    cases values with
    | nil =>
      obtain rfl := Except.ok.inj hrun
      rfl
    | cons v rest =>
      obtain ⟨a, ha, hrun⟩ := (fromList_cons v rest).mp hrun
      have hspares := (List.pairwise_cons.mp h.spares).1
      cases i with
      | zero =>
        obtain rfl := Option.some.inj hs
        have hget : first.get r' = a :=
          (spared_fromList (fun t ht => (hspares t ht).2) hrun).trans
            (h.get_set first List.mem_cons_self r a)
        exact ha.trans (congrArg _ hget.symm)
      | succ i =>
        have hholds := ih h.tail hrun hs
        have hsame : s.get (first.set r a) = s.get r :=
          (hspares s (List.mem_of_getElem? hs)).1 r a
        unfold Slot.Holds at hholds ⊢
        rwa [hsame] at hholds

/-- A list is decoded where all values at the positions of slots are. -/
theorem exists_fromList {values : List Value}
    (haccepts : ∀ (i : ℕ) s, slots[i]? = some s → ∀ v, values[i]? = some v → Accepts s.decode v)
    (index : ℕ) (r : ρ) :
    ∃ r', fromList (slots.map Slot.field) index r values = .ok r' := by
  induction slots generalizing index r values with
  | nil => exact ⟨r, rfl⟩
  | cons s slots ih =>
    cases values with
    | nil => exact ⟨r, rfl⟩
    | cons v rest =>
      obtain ⟨a, ha⟩ := haccepts 0 s rfl v rfl
      obtain ⟨r', hr'⟩ := ih (fun i t ht w hw => haccepts (i + 1) t ht w hw) (index + 1) (s.set r a)
      exact ⟨r', (fromList_cons v rest).mpr ⟨a, ha, hr'⟩⟩

/-! ## Records -/

variable {name : String} {standard : ρ} {v : Value}

theorem record_list_eq_ok {o : Origin} (ho : o ≠ .document) {items : List Value} :
    record name standard (slots.map Slot.field) (.list o items) = .ok r ↔
      fromList (slots.map Slot.field) 0 standard items = .ok r := by
  have hlength : checkLength (.list o items) (slots.map Slot.field).length items.length = .ok () :=
    if_neg fun h => ho h.1
  unfold record
  dsimp only
  rw [bind_eq_ok]
  simp only [hlength]
  constructor
  · rintro ⟨r', hr', hr⟩
    exact hr'.trans hr
  · intro hr
    exact ⟨r, hr, rfl⟩

/-- A record holds in each slot what was decoded there, or its standard. -/
theorem holds_record (h : Layout slots) (hv : v.WellFormed)
    (hrun : record name standard (slots.map Slot.field) v = .ok r) {i : ℕ}
    (hs : slots[i]? = some s) : s.Holds standard (v.item? (s.name, i)) r := by
  cases hv with
  | scalar _ _ => cases hrun
  | list ho _ => exact holds_fromList h ((record_list_eq_ok ho).mp hrun) hs
  | table _ hascending _ => exact holds_fromTable h hascending hrun (List.mem_of_getElem? hs)

/-- A record is decoded from tables and lists with values that are decoded themselves. -/
theorem accepts_record_iff (h : Layout slots) (hv : v.WellFormed) :
    Accepts (record name standard (slots.map Slot.field)) v ↔
      v.IsRecord ∧
        ∀ (i : ℕ) s, slots[i]? = some s →
          ∀ w, v.item? (s.name, i) = some w → Accepts s.decode w := by
  constructor
  · rintro ⟨r, hr⟩
    refine ⟨?_, fun i s hs w hw => ?_⟩
    · cases v with
      | scalar _ _ => cases hr
      | list _ _ => trivial
      | table _ _ => trivial
    · have hholds := holds_record h hv hr hs
      rw [hw] at hholds
      exact ⟨_, hholds⟩
  · rintro ⟨hrecord, haccepts⟩
    cases hv with
    | scalar _ _ => exact hrecord.elim
    | list ho _ =>
      obtain ⟨r, hr⟩ := exists_fromList haccepts 0 standard
      exact ⟨r, (record_list_eq_ok ho).mpr hr⟩
    | table _ hascending _ =>
      refine exists_fromTable h hascending (fun s hs w hw => ?_) standard
      obtain ⟨i, hi⟩ := List.mem_iff_getElem?.mp hs
      exact haccepts i s hi w hw

end Decode

/-! ## Records in records -/

/-- Steps into the values that `decode` accepts lead to what `part` decodes for `get`; where they
lead to nothing, that is as in `standard`. -/
def Settles (decode : Decoder ρ) (standard : ρ) (steps : List Step) (part : Decoder α)
    (get : ρ → α) : Prop :=
  ∀ v r, v.WellFormed → decode v = .ok r →
    match v.at? steps with
    | some w => part w = .ok (get r)
    | none => get r = get standard

theorem settles_record {slots : List (Slot ω ρ)} (h : Layout slots) (name : String) (standard : ρ)
    {i : ℕ} {s : Slot ω ρ} (hs : slots[i]? = some s) :
    Settles (Decode.record name standard (slots.map Slot.field)) standard [(s.name, i)] s.decode
      s.get := by
  intro v r hv hr
  have hholds := Decode.holds_record h hv hr hs
  rw [at?_singleton]
  exact hholds

theorem Settles.trans {σ : Type} {decode : Decoder ρ} {standard : ρ} {outer inner : List Step}
    {middle : Decoder σ} {reach : ρ → σ} {part : Decoder α} {get : σ → α}
    (houter : Settles decode standard outer middle reach)
    (hinner : Settles middle (reach standard) inner part get) :
    Settles decode standard (outer ++ inner) part (get ∘ reach) := by
  intro v r hv hr
  have hreach := houter v r hv hr
  rw [at?_append]
  cases hw : v.at? outer with
  | none =>
    rw [hw] at hreach
    exact congrArg get hreach
  | some w =>
    rw [hw] at hreach
    exact hinner w (reach r) (hv.at? hw) hreach

end FrameWatch.Settings
