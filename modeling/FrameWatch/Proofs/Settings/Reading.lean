import FrameWatch.Proofs.Settings.Values
import FrameWatch.Settings.Toml.Document
import FrameWatch.Settings.Variable

/-!
# Values that are read

Every value that is read from the environment or from a settings file is well-formed.

1. `Reader.Yields` says what a reader never breaks, whatever it reads; readers one after the other
   keep it (`Yields.bind`).
2. `Variable.wellFormed_read` goes through the readers for the environment, and
   `Toml.wellFormed_parse?` through those for files, where an unfinished table holds nothing but
   well-formed values at any time (`Toml.Node.WellFormed`).
-/

namespace FrameWatch

namespace Reader

variable {α β : Type} {P : α → Prop} {Q : β → Prop} {reader : Reader α}

/-- Whatever the reader reads has the property. -/
def Yields (P : α → Prop) (reader : Reader α) : Prop :=
  ∀ cs a rest, reader cs = some (a, rest) → P a

theorem Yields.pure {a : α} (h : P a) : Yields P (pure a : Reader α) := by
  intro cs b rest hread
  obtain ⟨rfl, -⟩ := Prod.mk.inj (Option.some.inj hread)
  exact h

theorem yields_fail : Yields P fail := fun _ _ _ h => nomatch h

theorem Yields.bind {next : α → Reader β} (hreader : Yields P reader)
    (hnext : ∀ a, P a → Yields Q (next a)) : Yields Q (reader >>= next) := by
  intro cs b rest hread
  obtain ⟨⟨a, middle⟩, ha, hb⟩ := Option.bind_eq_some_iff.mp hread
  exact hnext a (hreader cs a middle ha) middle b rest hb

/-- What is read first does not matter. -/
theorem Yields.after {next : α → Reader β} (hnext : ∀ a, Yields Q (next a)) :
    Yields Q (reader >>= next) :=
  Yields.bind (P := fun _ => True) (fun _ _ _ _ => trivial) fun a _ => hnext a

theorem Yields.orElse {second : Reader α} (hfirst : Yields P reader) (hsecond : Yields P second) :
    Yields P (orElse reader second) := by
  intro cs a rest hread
  unfold Reader.orElse at hread
  split at hread
  · rename_i answer hanswer
    obtain rfl := Option.some.inj hread
    exact hfirst cs a rest hanswer
  · exact hsecond cs a rest hread

theorem Yields.run? (h : Yields P reader) {cs : List Char} {a : α} (ha : reader.run? cs = some a) :
    P a := by
  unfold Reader.run? at ha
  split at ha
  · rename_i b hread
    obtain rfl := Option.some.inj ha
    exact h cs b [] hread
  · cases ha

end Reader

namespace Settings

open Reader

/-! ## The environment -/

namespace Variable

theorem wellFormed_scalar {content : Scalar} (h : content ≠ .null) :
    (scalar content).WellFormed :=
  .scalar (by simp) h

theorem bare_ne_null (cs : List Char) : bare cs ≠ .null := by
  unfold bare
  dsimp only
  split
  · simp
  split
  · simp
  split <;> simp

theorem yields_items {value : Reader Value} (h : Yields Value.WellFormed value) (bound : ℕ) :
    Yields (fun values => ∀ v ∈ values, v.WellFormed) (items value bound) := by
  induction bound with
  | zero => exact yields_fail
  | succ bound ih =>
    unfold items
    refine Yields.after fun closing => ?_
    split
    · exact .pure (by simp)
    refine h.bind fun v hv => Yields.after fun comma => ?_
    split
    · refine ih.bind fun values hvalues => .pure ?_
      exact List.forall_mem_cons.mpr ⟨hv, hvalues⟩
    · exact Yields.after fun _ => .pure (by simpa using hv)

theorem yields_fields {value : Reader Value} (h : Yields Value.WellFormed value) (bound : ℕ) :
    Yields (fun fields => ∀ f ∈ fields, f.2.WellFormed) (fields value bound) := by
  induction bound with
  | zero => exact yields_fail
  | succ bound ih =>
    unfold fields
    refine Yields.after fun closing => ?_
    split
    · exact .pure (by simp)
    refine Yields.after fun _ => Yields.after fun name => Yields.after fun _ =>
      Yields.after fun _ => h.bind fun v hv => Yields.after fun comma => ?_
    split
    · refine ih.bind fun fields hfields => .pure ?_
      exact List.forall_mem_cons.mpr ⟨hv, hfields⟩
    · exact Yields.after fun _ => .pure (by simpa using hv)

theorem yields_value (depth : ℕ) : Yields Value.WellFormed (value depth) := by
  induction depth with
  | zero => exact yields_fail
  | succ depth ih =>
    unfold value
    have hdone : ∀ v, v.WellFormed → Yields Value.WellFormed (do blanks; pure v) :=
      fun v hv => Yields.after fun _ => .pure hv
    refine Yields.after fun _ => Yields.after fun cs => ?_
    dsimp only
    split
    · exact Yields.after fun _ => (Yields.pure (wellFormed_scalar (by simp))).bind hdone
    · exact Yields.after fun _ => (Yields.pure (wellFormed_scalar (by simp))).bind hdone
    · exact Yields.after fun _ => Yields.after fun _ => (yields_fields ih _).bind
        fun _ hfields => (Yields.pure (.ofFields (by simp) hfields)).bind hdone
    · exact Yields.after fun _ => Yields.after fun _ => (yields_items ih _).bind
        fun _ hitems => (Yields.pure (.list (by simp) hitems)).bind hdone
    · exact Yields.after fun _ => (Yields.pure (wellFormed_scalar (by simp))).bind hdone
    · exact Yields.after fun _ => Yields.after fun _ => Yields.after fun _ =>
        (Yields.pure (wellFormed_scalar (by simp))).bind hdone
    · exact Yields.after fun _ => (Yields.pure (wellFormed_scalar (bare_ne_null _))).bind hdone

/-- The value of a variable is well-formed. -/
theorem wellFormed_read (s : String) : (read s).WellFormed := by
  unfold read
  cases h : (value (s.length + 1)).run? s.toList with
  | some v => exact (yields_value _).run? h
  | none => exact wellFormed_scalar (by simp)

end Variable

/-! ## Unfinished tables -/

namespace Toml

/-- A node that holds nothing but well-formed values. -/
inductive Node.WellFormed : Node → Prop
  | closed {v : Value} (hv : v.WellFormed) : WellFormed (.closed v)
  | table {opening : Opening} {fields : Fields} (hfields : ∀ f ∈ fields, WellFormed f.2) :
    WellFormed (.table opening fields)
  | tables {items : List Fields} (hitems : ∀ fields ∈ items, ∀ f ∈ fields, WellFormed f.2) :
    WellFormed (.tables items)

namespace Fields

/-- Fields that hold nothing but well-formed values. -/
def WellFormed (fields : Fields) : Prop := ∀ f ∈ fields, f.2.WellFormed

variable {fields fields' : Fields} {key last : String} {path : List String} {node : Node}

theorem wellFormed_nil : WellFormed [] := fun _ h => absurd h List.not_mem_nil

theorem WellFormed.of_lookup (h : WellFormed fields) (hnode : fields.lookup key = some node) :
    node.WellFormed := h _ (mem_of_lookup hnode)

theorem WellFormed.of_table {opening : Opening} (h : (Node.table opening fields).WellFormed) :
    WellFormed fields := by
  cases h with
  | table hfields => exact hfields

theorem WellFormed.of_tables {items : List Fields} (h : (Node.tables items).WellFormed) :
    ∀ fields ∈ items, WellFormed fields := by
  cases h with
  | tables hitems => exact hitems

theorem wellFormed_newest {items : List Fields} (h : ∀ fields ∈ items, WellFormed fields) :
    WellFormed (items.getLast?.getD []) := by
  cases hlast : items.getLast? with
  | none => exact wellFormed_nil
  | some fields => exact h fields (List.mem_of_getLast? hlast)

/-- The tables of a list, with other fields in the newest. -/
theorem wellFormed_renew {items : List Fields} (h : ∀ fields ∈ items, WellFormed fields)
    (hfields : WellFormed fields) : (Node.tables (items.dropLast ++ [fields])).WellFormed := by
  refine .tables fun fields' hmem => ?_
  obtain hmem | hmem := List.mem_append.mp hmem
  · exact h fields' (List.dropLast_subset _ hmem)
  · obtain rfl := List.mem_singleton.mp hmem
    exact hfields

theorem WellFormed.set (h : WellFormed fields) (hnode : node.WellFormed) (key : String) :
    WellFormed (set key node fields) := by
  induction fields with
  | nil => exact List.forall_mem_singleton.mpr hnode
  | cons f rest ih =>
    obtain ⟨hf, hrest⟩ := List.forall_mem_cons.mp h
    unfold Fields.set
    split
    · exact List.forall_mem_cons.mpr ⟨hnode, hrest⟩
    · exact List.forall_mem_cons.mpr ⟨hf, ih hrest⟩

theorem WellFormed.erase (h : WellFormed fields) (key : String) : WellFormed (erase key fields) :=
  fun f hf => h f (List.mem_of_mem_filter hf)

theorem WellFormed.add (h : WellFormed fields) (hnode : node.WellFormed)
    (hadd : add key node fields = some fields') : WellFormed fields' := by
  unfold Fields.add at hadd
  split at hadd
  · cases hadd
  · obtain rfl := Option.some.inj hadd
    exact h.set hnode key

/-- A change at a path of headers keeps what it keeps at the end of the path. -/
theorem WellFormed.atHeader {change : Fields → Option Fields}
    (hchange : ∀ {fields fields'}, WellFormed fields → change fields = some fields' →
      WellFormed fields')
    (h : WellFormed fields) (hat : atHeader change path fields = some fields') :
    WellFormed fields' := by
  induction path generalizing fields fields' with
  | nil => exact hchange h hat
  | cons key path ih =>
    unfold Fields.atHeader at hat
    split at hat
    · obtain ⟨inner, hinner, hset⟩ := Option.bind_eq_some_iff.mp hat
      obtain rfl := Option.some.inj hset
      exact h.set (.table (ih wellFormed_nil hinner)) key
    · rename_i hlookup
      obtain ⟨inner, hinner, hset⟩ := Option.bind_eq_some_iff.mp hat
      obtain rfl := Option.some.inj hset
      exact h.set (.table (ih (.of_table (h.of_lookup hlookup)) hinner)) key
    · rename_i hlookup
      obtain ⟨inner, hinner, hset⟩ := Option.bind_eq_some_iff.mp hat
      obtain rfl := Option.some.inj hset
      have hitems := WellFormed.of_tables (h.of_lookup hlookup)
      exact h.set (wellFormed_renew hitems (ih (wellFormed_newest hitems) hinner)) key
    · cases hat

theorem WellFormed.addDotted {opening : Opening} (h : WellFormed fields)
    (hnode : node.WellFormed)
    (hadd : addDotted last node opening path fields = some fields') : WellFormed fields' := by
  induction path generalizing opening fields fields' with
  | nil =>
    unfold Fields.addDotted at hadd
    split at hadd
    · exact h.add hnode hadd
    · cases hadd
  | cons key path ih =>
    unfold Fields.addDotted at hadd
    split at hadd
    · obtain ⟨inner, hinner, hset⟩ := Option.bind_eq_some_iff.mp hadd
      obtain rfl := Option.some.inj hset
      exact h.set (.table (ih wellFormed_nil hinner)) key
    · cases hadd
    · rename_i hlookup
      obtain ⟨inner, hinner, hset⟩ := Option.bind_eq_some_iff.mp hadd
      obtain rfl := Option.some.inj hset
      exact h.set (.table (ih (.of_table (h.of_lookup hlookup)) hinner)) key
    · rename_i hlookup
      obtain ⟨inner, hinner, hset⟩ := Option.bind_eq_some_iff.mp hadd
      obtain rfl := Option.some.inj hset
      have hitems := WellFormed.of_tables (h.of_lookup hlookup)
      exact h.set (wellFormed_renew hitems (ih (wellFormed_newest hitems) hinner)) key
    · cases hadd

theorem WellFormed.addAt (h : WellFormed fields) (hnode : node.WellFormed)
    (hadd : addAt path node fields = some fields') : WellFormed fields' := by
  unfold Fields.addAt at hadd
  split at hadd
  · cases hadd
  · exact h.add hnode hadd
  · exact h.addDotted hnode hadd

end Fields

variable {origin : Origin}

theorem wellFormed_tableValue (horigin : origin ≠ .document) {fields : List (String × Value)}
    (h : ∀ f ∈ fields, f.2.WellFormed) {v : Value} (hv : tableValue origin fields = some v) :
    v.WellFormed := by
  unfold tableValue at hv
  split at hv
  · cases hv
  · obtain rfl := Option.some.inj hv
    cases hvalue : fields.lookup valueKey with
    | none => exact .ofFields horigin h
    | some v => exact h _ (mem_of_lookup hvalue)

theorem wellFormed_finishFields {fields : Fields}
    (h : ∀ f ∈ fields, ∀ v, f.2.finish origin = some v → v.WellFormed)
    {values : List (String × Value)} (hvalues : finishFields origin fields = some values) :
    ∀ f ∈ values, f.2.WellFormed := by
  induction fields generalizing values with
  | nil =>
    obtain rfl := Option.some.inj hvalues
    exact fun _ h => absurd h List.not_mem_nil
  | cons f rest ih =>
    obtain ⟨hf, hrest⟩ := List.forall_mem_cons.mp h
    unfold finishFields at hvalues
    obtain ⟨v, hv, hvalues⟩ := Option.bind_eq_some_iff.mp hvalues
    obtain ⟨values', hvalues', hcons⟩ := Option.bind_eq_some_iff.mp hvalues
    obtain rfl := Option.some.inj hcons
    exact List.forall_mem_cons.mpr ⟨hf v hv, ih hrest hvalues'⟩

theorem wellFormed_finishTables (horigin : origin ≠ .document) {items : List Fields}
    (h : ∀ fields ∈ items, ∀ f ∈ fields, ∀ v, f.2.finish origin = some v → v.WellFormed)
    {values : List Value} (hvalues : finishTables origin items = some values) :
    ∀ v ∈ values, v.WellFormed := by
  induction items generalizing values with
  | nil =>
    obtain rfl := Option.some.inj hvalues
    exact fun _ h => absurd h List.not_mem_nil
  | cons fields rest ih =>
    obtain ⟨hfields, hrest⟩ := List.forall_mem_cons.mp h
    unfold finishTables at hvalues
    obtain ⟨inner, hinner, hvalues⟩ := Option.bind_eq_some_iff.mp hvalues
    obtain ⟨v, hv, hvalues⟩ := Option.bind_eq_some_iff.mp hvalues
    obtain ⟨values', hvalues', hcons⟩ := Option.bind_eq_some_iff.mp hvalues
    obtain rfl := Option.some.inj hcons
    exact List.forall_mem_cons.mpr
      ⟨wellFormed_tableValue horigin (wellFormed_finishFields hfields hinner) hv, ih hrest hvalues'⟩

/-- What an unfinished table stands for is well-formed. -/
theorem Node.WellFormed.finish (horigin : origin ≠ .document) {node : Node} (h : node.WellFormed) :
    ∀ v, node.finish origin = some v → v.WellFormed := by
  induction h with
  | closed hv =>
    intro v hfinish
    unfold Node.finish at hfinish
    exact Option.some.inj hfinish ▸ hv
  | table _ ih =>
    intro v hfinish
    unfold Node.finish at hfinish
    obtain ⟨fields, hfields, hv⟩ := Option.bind_eq_some_iff.mp hfinish
    exact wellFormed_tableValue horigin (wellFormed_finishFields ih hfields) hv
  | tables _ ih =>
    intro v hfinish
    unfold Node.finish at hfinish
    obtain ⟨values, hvalues, hv⟩ := Option.bind_eq_some_iff.mp hfinish
    exact Option.some.inj hv ▸ .list horigin (wellFormed_finishTables horigin ih hvalues)

/-! ## Values of files -/

theorem yields_whole (n : Int) : Yields (· ≠ .null) (whole n) := by
  unfold whole
  split
  · exact .pure (by simp)
  · exact yields_fail

theorem yields_basedNumber (mark : Char) (base : ℕ) (p : Char → Bool) :
    Yields (· ≠ .null) (basedNumber mark base p) := by
  unfold basedNumber
  exact Yields.after fun _ => Yields.after fun _ => yields_whole _

theorem yields_wholeNumber : Yields (· ≠ .null) wholeNumber := by
  unfold wholeNumber
  refine Yields.after fun cs => ?_
  split
  · exact yields_basedNumber _ _ _
  · exact yields_basedNumber _ _ _
  · exact yields_basedNumber _ _ _
  · exact Yields.after fun _ => Yields.after fun _ => yields_whole _

theorem yields_realNumber : Yields (· ≠ .null) realNumber := by
  unfold realNumber
  refine Yields.after fun _ => Yields.after fun _ => Yields.after fun part =>
    Yields.after fun exponent => ?_
  split
  · exact yields_fail
  dsimp only
  split
  · exact yields_fail
  · exact .pure (by simp)

theorem yields_specialNumber : Yields (· ≠ .null) specialNumber := by
  unfold specialNumber
  exact Yields.after fun _ => Yields.after fun _ => .pure (by simp)

theorem yields_moment (horigin : origin ≠ .document) :
    Yields Value.WellFormed (moment origin) := by
  unfold moment
  refine Yields.after fun _ => Yields.after fun _ => Yields.after fun _ => .pure ?_
  exact .table horigin (List.pairwise_singleton _ _)
    (List.forall_mem_singleton.mpr (.scalar horigin (by simp)))

theorem yields_numberOrMoment (horigin : origin ≠ .document) :
    Yields Value.WellFormed (numberOrMoment origin) := by
  unfold numberOrMoment
  refine Yields.after fun _ => ?_
  split
  · exact yields_moment horigin
  · exact (yields_realNumber.orElse (yields_specialNumber.orElse yields_wholeNumber)).bind
      fun _ hcontent => .pure (.scalar horigin hcontent)

theorem yields_simpleValue (horigin : origin ≠ .document) :
    Yields Value.WellFormed (simpleValue origin) := by
  unfold simpleValue
  refine Yields.after fun c => ?_
  split
  · exact Yields.after fun _ => .pure (.scalar horigin (by simp))
  · exact Yields.after fun _ => .pure (.scalar horigin (by simp))
  · exact Yields.after fun _ => .pure (.scalar horigin (by simp))
  · exact Yields.after fun _ => .pure (.scalar horigin (by simp))
  · exact yields_numberOrMoment horigin

theorem yields_items {value : Reader Value} (h : Yields Value.WellFormed value) (bound : ℕ) :
    Yields (fun values => ∀ v ∈ values, v.WellFormed) (items value bound) := by
  induction bound with
  | zero => exact yields_fail
  | succ bound ih =>
    unfold items
    refine Yields.after fun _ => Yields.after fun closing => ?_
    split
    · exact .pure (by simp)
    refine h.bind fun v hv => Yields.after fun _ => Yields.after fun comma => ?_
    split
    · refine ih.bind fun values hvalues => .pure ?_
      exact List.forall_mem_cons.mpr ⟨hv, hvalues⟩
    · exact Yields.after fun _ => .pure (by simpa using hv)

theorem yields_pair {value : Reader Value} (h : Yields Value.WellFormed value) :
    Yields (fun p => p.2.WellFormed) (pair value) := by
  unfold pair
  exact Yields.after fun _ => Yields.after fun _ => Yields.after fun _ =>
    h.bind fun _ hv => .pure hv

theorem yields_inlineFields {value : Reader Value} (h : Yields Value.WellFormed value)
    (bound : ℕ) {fields : Fields} (hfields : fields.WellFormed) :
    Yields Fields.WellFormed (inlineFields value bound fields) := by
  induction bound generalizing fields with
  | zero => exact yields_fail
  | succ bound ih =>
    unfold inlineFields
    refine (yields_pair h).bind fun p hp => ?_
    obtain ⟨path, v⟩ := p
    dsimp only
    split
    · exact yields_fail
    rename_i hadd
    have hadded := hfields.addAt (.closed hp) hadd
    refine Yields.after fun _ => Yields.after fun comma => ?_
    split
    · exact ih hadded
    · exact Yields.after fun _ => .pure hadded

theorem yields_orFail {α : Type} {P : α → Prop} {x : Option α} (h : ∀ a, x = some a → P a) :
    Yields P (orFail x) := by
  cases x with
  | none => exact yields_fail
  | some a => exact .pure (h a rfl)

theorem yields_inlineTable (horigin : origin ≠ .document) {value : Reader Value}
    (h : Yields Value.WellFormed value) :
    Yields Value.WellFormed (inlineTable origin value) := by
  unfold inlineTable
  refine Yields.after fun _ => Yields.after fun closing => ?_
  split
  · exact .pure (.table horigin List.Pairwise.nil (by simp))
  · refine Yields.after fun _ => (yields_inlineFields h _ Fields.wellFormed_nil).bind
      fun fields hfields => yields_orFail ?_
    exact Node.WellFormed.finish horigin (.table hfields)

theorem yields_value (horigin : origin ≠ .document) (depth : ℕ) :
    Yields Value.WellFormed (value origin depth) := by
  induction depth with
  | zero => exact yields_simpleValue horigin
  | succ depth ih =>
    unfold value
    refine Yields.after fun c => ?_
    split
    · exact Yields.after fun _ => Yields.after fun _ => (yields_items ih _).bind
        fun _ hitems => .pure (.list horigin hitems)
    · exact Yields.after fun _ => yields_inlineTable horigin ih
    · exact yields_simpleValue horigin

/-! ## Files -/

/-- A draft that holds nothing but well-formed values. -/
structure Draft.WellFormed (d : Draft) : Prop where
  root : d.root.WellFormed
  current : d.current.WellFormed

namespace Draft

variable {d d' : Draft} {path : List String}

theorem WellFormed.close (h : d.WellFormed) {fields : Fields} (hclose : d.close = some fields) :
    fields.WellFormed := by
  unfold Draft.close at hclose
  split at hclose
  · exact Option.some.inj hclose ▸ h.current
  · obtain ⟨last, -, hclose⟩ := Option.bind_eq_some_iff.mp hclose
    exact Fields.WellFormed.atHeader (fun hfields => hfields.add (.table h.current)) h.root hclose
  · obtain ⟨last, -, hclose⟩ := Option.bind_eq_some_iff.mp hclose
    refine Fields.WellFormed.atHeader (fun {fields _} hfields hset => ?_) h.root hclose
    split at hset
    · rename_i items hlookup
      obtain rfl := Option.some.inj hset
      refine hfields.set (.tables fun fields' hmem => ?_) last
      obtain hmem | hmem := List.mem_append.mp hmem
      · exact Fields.WellFormed.of_tables (hfields.of_lookup hlookup) fields' hmem
      · exact List.mem_singleton.mp hmem ▸ h.current
    · cases hset

theorem wellFormed_fieldsAt {fields found : Fields} (h : fields.WellFormed)
    (hfound : openTable.fieldsAt path fields = some found) : found.WellFormed := by
  induction path generalizing fields with
  | nil => exact Option.some.inj hfound ▸ h
  | cons key path ih =>
    unfold openTable.fieldsAt at hfound
    split at hfound
    · rename_i hlookup
      exact ih (.of_table (h.of_lookup hlookup)) hfound
    · rename_i hlookup
      exact ih (Fields.wellFormed_newest (.of_tables (h.of_lookup hlookup))) hfound
    · cases hfound
    · exact Option.some.inj hfound ▸ Fields.wellFormed_nil

theorem WellFormed.openTable (h : d.WellFormed) (hopen : d.openTable path = some d') :
    d'.WellFormed := by
  unfold Draft.openTable at hopen
  obtain ⟨root, hroot, hopen⟩ := Option.bind_eq_some_iff.mp hopen
  obtain ⟨last, -, hopen⟩ := Option.bind_eq_some_iff.mp hopen
  obtain ⟨found, hfound, hopen⟩ := Option.bind_eq_some_iff.mp hopen
  obtain ⟨taken, htaken, hopen⟩ := Option.bind_eq_some_iff.mp hopen
  obtain rfl := Option.some.inj hopen
  have hclosed := h.close hroot
  refine ⟨Fields.WellFormed.atHeader (fun {fields _} hfields htake => ?_) hclosed htaken,
    wellFormed_fieldsAt hclosed hfound⟩
  split at htake
  · exact Option.some.inj htake ▸ hfields
  · exact Option.some.inj htake ▸ hfields.erase last
  · cases htake

theorem WellFormed.openItem (h : d.WellFormed) (hopen : d.openItem path = some d') :
    d'.WellFormed := by
  unfold Draft.openItem at hopen
  obtain ⟨root, hroot, hopen⟩ := Option.bind_eq_some_iff.mp hopen
  obtain ⟨last, -, hopen⟩ := Option.bind_eq_some_iff.mp hopen
  obtain ⟨root', hroot', hopen⟩ := Option.bind_eq_some_iff.mp hopen
  obtain rfl := Option.some.inj hopen
  refine ⟨Fields.WellFormed.atHeader (fun {fields _} hfields hset => ?_) (h.close hroot) hroot',
    Fields.wellFormed_nil⟩
  split at hset
  · exact Option.some.inj hset ▸ hfields.set (.tables (by simp)) last
  · exact Option.some.inj hset ▸ hfields
  · cases hset

theorem WellFormed.add (h : d.WellFormed) {v : Value} (hv : v.WellFormed)
    (hadd : d.add path v = some d') : d'.WellFormed := by
  unfold Draft.add at hadd
  obtain ⟨fields, hfields, hadd⟩ := Option.bind_eq_some_iff.mp hadd
  obtain rfl := Option.some.inj hadd
  exact ⟨h.root, h.current.addAt (.closed hv) hfields⟩

end Draft

theorem yields_readHeader {d : Draft} (h : d.WellFormed) :
    Yields Draft.WellFormed (readHeader d) := by
  unfold readHeader
  refine Yields.after fun _ => Yields.after fun second => ?_
  split
  · exact Yields.after fun path => Yields.after fun _ => Yields.after fun _ =>
      yields_orFail fun _ hopen => h.openItem hopen
  · exact Yields.after fun path => Yields.after fun _ => Yields.after fun _ =>
      yields_orFail fun _ hopen => h.openTable hopen

theorem yields_readPair (horigin : origin ≠ .document) {d : Draft} (h : d.WellFormed) :
    Yields Draft.WellFormed (readPair origin d) := by
  unfold readPair
  refine (yields_pair (yields_value horigin maxDepth)).bind fun p hp => ?_
  exact Yields.after fun _ => yields_orFail fun _ hadd => h.add hp hadd

theorem yields_readLines (horigin : origin ≠ .document) (bound : ℕ) {d : Draft}
    (h : d.WellFormed) : Yields Draft.WellFormed (readLines origin bound d) := by
  induction bound generalizing d with
  | zero => exact .pure h
  | succ bound ih =>
    unfold readLines
    refine Yields.after fun _ => Yields.after fun c => ?_
    split
    · exact .pure h
    · exact (yields_readHeader h).bind fun _ hd => ih hd
    · exact Yields.after fun _ => ih h
    · exact Yields.after fun _ => ih h
    · exact Yields.after fun _ => ih h
    · exact (yields_readPair horigin h).bind fun _ hd => ih hd

/-- The table of a settings file is well-formed. -/
theorem wellFormed_parse? (horigin : origin ≠ .document) {s : String} {v : Value}
    (h : parse? origin s = some v) : v.WellFormed ∧ v.IsTable := by
  unfold parse? at h
  obtain ⟨d, hd, h⟩ := Option.bind_eq_some_iff.mp h
  obtain ⟨fields, hclose, h⟩ := Option.bind_eq_some_iff.mp h
  obtain ⟨values, hvalues, h⟩ := Option.bind_eq_some_iff.mp h
  obtain rfl := Option.some.inj h
  have hdraft : d.WellFormed :=
    (yields_readLines horigin _ ⟨Fields.wellFormed_nil, Fields.wellFormed_nil⟩).run? hd
  have hfinished := wellFormed_finishFields
    (fun f hf => Node.WellFormed.finish horigin (hdraft.close hclose f hf)) hvalues
  exact ⟨.ofFields horigin hfinished, trivial⟩

end Toml

end Settings

end FrameWatch
