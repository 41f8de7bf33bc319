import FrameWatch.Proofs.Run.SideBySide
import Mathlib.Data.List.Infix

/-!
# What a run hears

All that a run learns comes from its rig: the answers to its calls, whether memory is granted, and
the frames that are announced at some moment. `Rig.recording` keeps this news with the readings of
the clock at which it comes. A frame counts by its place in the buffer, not by its address, and a
frame that is not announced leaves no trace.

1. `Rig.plain_holds`: a run on a rig that is recorded goes as it does without the record.
2. `Rig.between_holds`: two runs go alike whose rigs say what is on one tape. They are compared
   between moments, where the tape goes on with something else than a frame (`Recording.Cuts`), and
   within a moment, where it may go on with one (`Recording.Begins`).
-/

namespace FrameWatch

variable {σ τ α β : Type}

/-- A piece of news from a rig. -/
inductive News
  | opened (answer : Except CameraError Handle)
  | selected (answer : Except CameraError NegotiatedMode)
  | configured (answer : Except CameraError Nat)
  | answered (answer : Except CameraError Unit)
  | reserved (granted : Bool)
  | lastError (e : CameraError)
  /-- A moment begins at which frames may be announced. -/
  | moment
  | announced (n : Notification)
  | fetched (landing : Landing)
  /-- Nothing more is heard. -/
  | over
deriving DecidableEq

/-- Whether the news comes with a frame. -/
def News.isDelivery : News → Bool
  | announced _ => true
  | fetched _ => true
  | _ => false

/-- A rig together with what has been heard of it. -/
structure Recording (σ : Type) where
  rig : σ
  /-- Where the memory begins that was granted last, and how many bytes it has. -/
  memory : Nat × Nat
  /-- The news, each piece with the reading of the clock before it. -/
  heard : List (Duration × News)

namespace Recording

/-- Nothing is heard yet. -/
def begin (x : σ) : Recording σ := ⟨x, (0, 0), []⟩

/-- Asks the rig, and keeps what news the answer brings. -/
def listen (rig : Rig σ) (news? : α → Option News) (question : StateM σ α) :
    StateM (Recording σ) α := fun t =>
  let (answer, x) := question t.rig
  (answer, { t with
    rig := x
    heard := t.heard ++ ((news? answer).map fun news => (rig.clock t.rig, news)).toList })

/-- Asks the rig, and keeps the answer as news. -/
def ask (rig : Rig σ) (news : α → News) (question : StateM σ α) : StateM (Recording σ) α :=
  listen rig (fun answer => some (news answer)) question

/-- The news of memory that is granted or not. -/
def reserveNews (base? : Option Nat) : News := .reserved base?.isSome

/-- Asks for memory, and keeps where it is. -/
def reserve (rig : Rig σ) (bytes : Nat) : StateM (Recording σ) (Option Nat) := fun t =>
  let (base?, t) := ask rig reserveNews (rig.reserve bytes) t
  (base?, { t with memory := base?.elim t.memory fun base => (base, bytes) })

/-- The news of a frame that is fetched. -/
def fetchNews (t : Recording σ) (answer : Fetched) : News := .fetched (answer.landing t.memory)

/-- Fetches a frame. -/
def fetch (rig : Rig σ) (camera : Handle) : StateM (Recording σ) Fetched := fun t =>
  ask rig t.fetchNews (rig.fetch camera) t

/-- All that was heard, and that it ends now. -/
def tape (rig : Rig σ) (t : Recording σ) : List (Duration × News) :=
  t.heard ++ [(rig.clock t.rig, .over)]

end Recording

/-- The rig that keeps what is heard of it. -/
def Rig.recording (rig : Rig σ) : Rig (Recording σ) where
  openCamera name := Recording.ask rig .opened (rig.openCamera name)
  logsOpening := rig.logsOpening
  selectMode camera mode := Recording.ask rig .selected (rig.selectMode camera mode)
  configure camera region mode ms policy :=
    Recording.ask rig .configured (rig.configure camera region mode ms policy)
  register camera := Recording.ask rig .answered (rig.register camera)
  start camera buffer := Recording.ask rig .answered (rig.start camera buffer)
  abort camera := Recording.ask rig .answered (rig.abort camera)
  deregister camera := Recording.ask rig .answered (rig.deregister camera)
  close camera := Recording.ask rig .answered (rig.close camera)
  fetch := Recording.fetch rig
  lastError := Recording.ask rig .lastError rig.lastError
  reserve := Recording.reserve rig
  arrivals m := Recording.ask rig (fun _ => .moment) (rig.arrivals m)
  tick := Recording.listen rig (Option.map .announced) rig.tick
  clock t := rig.clock t.rig
  date t := rig.date t.rig

/-! ## Recording changes nothing -/

/-- A rig that is recorded and the same rig as it is. -/
def Comparison.plain : Comparison (Recording σ) σ where
  timed := True
  place := id
  alike p q t x := t.rig = x ∧ p = q
  forget h := ⟨h.1, rfl⟩
  left _ := True
  right _ := True

section Plain

variable (rig : Rig σ)

theorem InStep.listen_plain (news? : α → Option News) (question : StateM σ α) :
    InStep .plain Eq (Act.ask (Recording.listen rig news? question)) (Act.ask question) where
  left _ _ := trivial
  right _ _ := trivial
  step s t hm _ _ := by
    obtain ⟨hrig, hblock⟩ := hm.alike
    refine ⟨?_, { hm with alike := ⟨?_, hblock⟩ }⟩
    · show (question s.rig.rig).1 = (question t.rig).1
      rw [hrig]
    · show (question s.rig.rig).2 = (question t.rig).2
      rw [hrig]

theorem InStep.ask_plain (news : α → News) (question : StateM σ α) :
    InStep .plain Eq (Act.ask (Recording.ask rig news question)) (Act.ask question) :=
  .listen_plain rig _ question

theorem Rig.plain_fetches : Comparison.plain.Fetches rig.recording rig where
  left _ _ _ := trivial
  right _ _ _ := trivial
  step camera p q t x halike _ _ := by
    obtain ⟨rfl, hblock⟩ := halike
    obtain rfl : p = q := Option.some.inj hblock
    exact ⟨rfl, rfl, rfl⟩

theorem Rig.plain_reserves : Comparison.plain.Reserves rig.recording rig where
  left _ _ _ := trivial
  right _ _ _ := trivial
  step bytes p q t x halike _ _ := by
    obtain ⟨rfl, hblock⟩ := halike
    cases hbase : (rig.reserve bytes t.rig).1 with
    | none => exact .inl ⟨hbase, rfl, rfl, hblock⟩
    | some base => exact .inr ⟨base, base, hbase, rfl, rfl, rfl, rfl⟩

theorem InStep.deliver_plain (m : Moment) :
    InStep .plain Eq (Act.deliver rig.recording m) (Act.deliver rig m) := by
  unfold Act.deliver
  refine InStep.andThen (.ask_plain rig (fun _ => .moment) (rig.arrivals m)) fun n => ?_
  induction n with
  | zero => exact .pure rfl
  | succ n ih =>
    refine InStep.andThen (InStep.andThen (.listen_plain rig _ rig.tick) fun announced => ?_)
      fun _ => ih
    cases announced with
    | none => exact .pure rfl
    | some n => exact .receive (Rig.plain_fetches rig) n

/-- What is recorded changes nothing. -/
theorem Rig.plain_holds : Comparison.plain.Holds rig.recording rig where
  clock halike _ _ _ := congrArg rig.clock halike.1
  deliver := InStep.deliver_plain rig
  openCamera _ := .ask_plain rig _ _
  selectMode _ _ := .ask_plain rig _ _
  configure _ _ _ _ _ := .ask_plain rig _ _
  reserve := Rig.plain_reserves rig
  register _ := .ask_plain rig _ _
  start camera b b' hb := by
    obtain rfl : b = b' := hb
    exact .ask_plain rig _ _
  abort _ := .ask_plain rig _ _
  deregister _ := .ask_plain rig _ _
  close _ := .ask_plain rig _ _
  lastError := .ask_plain rig _ _

end Plain

/-! ## Rigs that are heard to say the same -/

section Stamp

variable (timed : Bool)

/-- The reading of a clock, where it counts. -/
def Duration.stamped (d : Duration) : Duration := if timed then d else .zero

/-- What counts of a piece of news. -/
def stampNews (e : Duration × News) : Duration × News := (e.1.stamped timed, e.2)

end Stamp

namespace Recording

variable (rig : Rig σ) (timed : Bool) (tape : List (Duration × News)) (t : Recording σ)

/-- What counts of the news heard so far. -/
def stamped : List (Duration × News) := t.heard.map (stampNews timed)

/-- The news heard so far stands at the beginning of the tape. -/
def Begins : Prop := t.stamped timed <+: tape

/-- The news heard so far stands at the beginning of the tape, and what is on the tape after it
comes at once and is not a frame. -/
def Cuts : Prop :=
  ∃ e rest, tape = t.stamped timed ++ e :: rest ∧ e.2.isDelivery = false ∧
    e.1 = (rig.clock t.rig).stamped timed

end Recording

/-- Two rigs that are recorded, with the same news so far. -/
def Comparison.sameNews (timed : Bool) (left : Recording σ → Prop) (right : Recording τ → Prop) :
    Comparison (Recording σ) (Recording τ) where
  timed := timed = true
  place _ := 0
  alike p q t u := t.stamped timed = u.stamped timed ∧
    (∀ block, p = some block → t.memory = block) ∧ ∀ block, q = some block → u.memory = block
  forget h := ⟨h.1, by simp, by simp⟩
  left := left
  right := right

section Tape

variable (rig : Rig σ) (rig' : Rig τ) (timed : Bool) (tape : List (Duration × News))

/-- Two rigs, between two moments, whose news is on the same tape. -/
abbrev Comparison.between : Comparison (Recording σ) (Recording τ) :=
  .sameNews timed (Recording.Cuts rig timed tape) (Recording.Cuts rig' timed tape)

/-- Two rigs, within a moment, whose news is on the same tape. -/
abbrev Comparison.within : Comparison (Recording σ) (Recording τ) :=
  .sameNews timed (Recording.Begins timed tape) (Recording.Begins timed tape)

variable {rig rig' timed tape}

namespace Recording

variable {t t' : Recording σ} {u u' : Recording τ}

theorem Cuts.begins (h : t.Cuts rig timed tape) : t.Begins timed tape := by
  obtain ⟨e, rest, h, -⟩ := h
  exact ⟨e :: rest, h.symm⟩

/-- On one tape, the same comes after the same. -/
theorem Begins.next_eq (h : t.stamped timed = u.stamped timed) {e e' : Duration × News}
    (ht : t.stamped timed ++ [e] <+: tape) (hu : u.stamped timed ++ [e'] <+: tape) : e = e' := by
  obtain ⟨rest, rfl⟩ := ht
  obtain ⟨rest', hrest⟩ := hu
  simp [h] at hrest
  exact hrest.1.symm

theorem cuts_tape : t.Cuts rig timed ((t.tape rig).map (stampNews timed)) :=
  ⟨_, [], List.map_append, rfl, rfl⟩

theorem Cuts.clock_eq (h : t.stamped timed = u.stamped timed) (ht : t.Cuts rig timed tape)
    (hu : u.Cuts rig' timed tape) (htimed : timed = true) :
    rig.clock t.rig = rig'.clock u.rig := by
  obtain ⟨e, rest, rfl, -, he⟩ := ht
  obtain ⟨e', rest', hrest, -, he'⟩ := hu
  subst htimed
  rw [h] at hrest
  obtain ⟨rfl, -⟩ := List.cons.inj (List.append_cancel_left hrest)
  exact he.symm.trans he'

theorem Begins.of_prefix (h : t.heard <+: t'.heard) (ht : t'.Begins timed tape) :
    t.Begins timed tape :=
  (h.map _).trans ht

section Ask

variable {news : α → News} {news' : β → News} {question : StateM σ α} {question' : StateM τ β}
  {t : Recording σ} {u : Recording τ}

theorem stamped_ask : (ask rig news question t).2.stamped timed =
    t.stamped timed ++ [stampNews timed (rig.clock t.rig, news (question t.rig).1)] :=
  List.map_append

theorem Begins.of_ask (h : (ask rig news question t).2.Begins timed tape) :
    t.Begins timed tape := by
  unfold Begins at *
  rw [stamped_ask] at h
  exact (List.prefix_append _ _).trans h

theorem Cuts.of_next (h : (ask rig news question t).2.Begins timed tape)
    (hnews : (news (question t.rig).1).isDelivery = false) : t.Cuts rig timed tape := by
  obtain ⟨rest, h⟩ := h
  rw [stamped_ask, List.append_assoc] at h
  exact ⟨_, _, h.symm, hnews, rfl⟩

theorem Cuts.of_ask (hnews : ∀ a, (news a).isDelivery = false)
    (h : (ask rig news question t).2.Cuts rig timed tape) : t.Cuts rig timed tape :=
  .of_next h.begins (hnews _)

/-- What is asked of both rigs brings the same news. -/
theorem news_eq (ht : (ask rig news question t).2.Begins timed tape)
    (hu : (ask rig' news' question' u).2.Begins timed tape)
    (h : t.stamped timed = u.stamped timed) :
    news (question t.rig).1 = news' (question' u.rig).1 ∧
      (ask rig news question t).2.stamped timed = (ask rig' news' question' u).2.stamped timed := by
  unfold Begins at ht hu
  rw [stamped_ask] at ht hu ⊢
  rw [stamped_ask]
  have hnext := Begins.next_eq h ht hu
  rw [h, hnext]
  exact ⟨congrArg Prod.snd hnext, rfl⟩

end Ask

end Recording

theorem Comparison.within_fetches :
    (Comparison.within (σ := σ) (τ := τ) timed tape).Fetches rig.recording rig'.recording where
  left camera t (ht : (Recording.fetch rig camera t).2.Begins timed tape) :=
    Recording.Begins.of_ask ht
  right camera u (hu : (Recording.fetch rig' camera u).2.Begins timed tape) :=
    Recording.Begins.of_ask hu
  step camera p q t u halike ht hu := by
    obtain ⟨hheard, hmemory, hmemory'⟩ := halike
    obtain rfl := hmemory p rfl
    obtain rfl := hmemory' q rfl
    have ht : (Recording.ask rig t.fetchNews (rig.fetch camera) t).2.Begins timed tape := ht
    have hu : (Recording.ask rig' u.fetchNews (rig'.fetch camera) u).2.Begins timed tape := hu
    obtain ⟨heq, hstamped⟩ := Recording.news_eq ht hu hheard
    exact ⟨News.fetched.inj heq, hstamped, hmemory, hmemory'⟩

theorem InStep.ask_between {news : α → News} (hinj : Function.Injective news)
    (hnews : ∀ a, (news a).isDelivery = false) (question : StateM σ α) (question' : StateM τ α) :
    InStep (.between rig rig' timed tape) Eq (Act.ask (Recording.ask rig news question))
      (Act.ask (Recording.ask rig' news question')) where
  left _ ht := ht.of_ask hnews
  right _ hu := hu.of_ask hnews
  step s t hm ht hu := by
    obtain ⟨hheard, hs', ht'⟩ := hm.alike
    obtain ⟨heq, hstamped⟩ := Recording.news_eq ht.begins hu.begins hheard
    exact ⟨hinj heq, { hm with alike := ⟨hstamped, hs', ht'⟩ }⟩

theorem Recording.Cuts.of_reserve {bytes : ℕ} {t : Recording σ}
    (h : (reserve rig bytes t).2.Cuts rig timed tape) :
    (ask rig reserveNews (rig.reserve bytes) t).2.Cuts rig timed tape := h

theorem Recording.memory_reserve (bytes : ℕ) (t : Recording σ) :
    (rig.recording.reserve bytes t).2.memory =
      (rig.reserve bytes t.rig).1.elim t.memory fun base => (base, bytes) := rfl

theorem Comparison.between_reserves :
    (Comparison.between rig rig' timed tape).Reserves rig.recording rig'.recording where
  left _ _ ht := (Recording.Cuts.of_reserve ht).of_ask fun _ => rfl
  right _ _ hu := (Recording.Cuts.of_reserve hu).of_ask fun _ => rfl
  step bytes p q t u halike ht hu := by
    obtain ⟨hheard, hmemory, hmemory'⟩ := halike
    obtain ⟨heq, hstamped⟩ := Recording.news_eq (Recording.Cuts.of_reserve ht).begins
      (Recording.Cuts.of_reserve hu).begins hheard
    have hgranted : (rig.reserve bytes t.rig).1.isSome = (rig'.reserve bytes u.rig).1.isSome :=
      News.reserved.inj heq
    cases hbase : (rig.reserve bytes t.rig).1 with
    | none =>
      cases hbase' : (rig'.reserve bytes u.rig).1 with
      | some base' => rw [hbase, hbase'] at hgranted; cases hgranted
      | none =>
        refine .inl ⟨hbase, hbase', hstamped, ?_, ?_⟩
        · rw [Recording.memory_reserve, hbase]; exact hmemory
        · rw [Recording.memory_reserve, hbase']; exact hmemory'
    | some base =>
      cases hbase' : (rig'.reserve bytes u.rig).1 with
      | none => rw [hbase, hbase'] at hgranted; cases hgranted
      | some base' =>
        refine .inr ⟨base, base', hbase, hbase', rfl, hstamped, ?_, ?_⟩
        · rw [Recording.memory_reserve, hbase]; exact fun block hblock => Option.some.inj hblock
        · rw [Recording.memory_reserve, hbase']; exact fun block hblock => Option.some.inj hblock

/-! ## Moments -/

/-- Whatever comes of a notification, no news is lost. -/
theorem Act.prefix_receive (n : Notification) (s : RunState (Recording σ)) :
    s.rig.heard <+: (Act.receive rig.recording n s).2.rig.heard := by
  rcases Act.receive_cases rig.recording s n with ⟨-, h⟩ | ⟨-, -, h⟩ | ⟨handler, _, -, -, -, -, h⟩
  · rw [h]
  · rw [h]; exact List.prefix_refl _
  · rw [h]; exact List.prefix_append _ _

/-- A frame that is not announced leaves no trace. -/
theorem Recording.tick_of_none {t : Recording σ} (h : (rig.tick t.rig).1 = none) :
    (rig.recording.tick t).2 = { t with rig := (rig.tick t.rig).2 } := by
  show Recording.mk _ _ (t.heard ++ (((rig.tick t.rig).1.map _).map _).toList) = _
  rw [h]
  simp

theorem Recording.tick_of_some {t : Recording σ} {n : Notification}
    (h : (rig.tick t.rig).1 = some n) :
    (rig.recording.tick t).2 = (ask rig (fun _ => .announced n) rig.tick t).2 := by
  show Recording.mk _ _ (t.heard ++ (((rig.tick t.rig).1.map _).map _).toList) = _
  rw [h]
  rfl

theorem Act.prefix_deliverTick (s : RunState (Recording σ)) :
    s.rig.heard <+: (Act.deliverTick rig.recording s).2.rig.heard := by
  cases h : (rig.tick s.rig.rig).1 with
  | none => rw [deliverTick_of_none rig.recording s h, Recording.tick_of_none h]
  | some n =>
    rw [deliverTick_of_some rig.recording s h, Recording.tick_of_some h]
    have hasked : s.rig.heard <+:
      (Recording.ask rig (fun _ => .announced n) rig.tick s.rig).2.heard := List.prefix_append _ _
    exact hasked.trans (prefix_receive n { s with rig := _ })

theorem Act.prefix_deliverTicks (n : ℕ) (s : RunState (Recording σ)) :
    s.rig.heard <+: (Act.deliverTicks rig.recording n s).2.rig.heard := by
  induction n generalizing s with
  | zero => exact List.prefix_refl _
  | succ n ih => exact (prefix_deliverTick s).trans (ih _)

/-- Where a tape is cut, no frame is announced. -/
theorem Recording.Cuts.not_announced {t : Recording σ} {u : Recording τ} {n : Notification}
    {question : StateM τ α} (ht : t.Cuts rig timed tape)
    (hu : (ask rig' (fun _ => .announced n) question u).2.Begins timed tape)
    (h : t.stamped timed = u.stamped timed) : False := by
  obtain ⟨e, rest, rfl, hquiet, -⟩ := ht
  unfold Begins at hu
  rw [stamped_ask] at hu
  have hnext : e = _ := Begins.next_eq h ⟨rest, by simp⟩ hu
  rw [hnext] at hquiet
  cases hquiet

/-- The state in which a frame has just been announced, with the rig in `x` before. -/
def RunState.announced (rig : Rig σ) (s : RunState (Recording σ)) (x : σ) (n : Notification) :
    RunState (Recording σ) :=
  { s with
    rig := (Recording.ask rig (fun _ => .announced n) rig.tick { s.rig with rig := x }).2 }

/-- Frames come either all unheard, or unheard until one is announced. -/
theorem Act.deliverTicks_cases (n : ℕ) (s : RunState (Recording σ)) :
    (∃ x, (Act.deliverTicks rig.recording n s).2 = { s with rig := { s.rig with rig := x } }) ∨
      ∃ x a, ∃ m < n, (Act.deliverTicks rig.recording n s).2 =
        (Act.deliverTicks rig.recording m
          (Act.receive rig.recording a (s.announced rig x a)).2).2 := by
  induction n generalizing s with
  | zero => exact .inl ⟨s.rig.rig, rfl⟩
  | succ n ih =>
    have hsucc : (Act.deliverTicks rig.recording (n + 1) s).2 =
      (Act.deliverTicks rig.recording n (Act.deliverTick rig.recording s).2).2 := rfl
    rw [hsucc]
    cases h : (rig.tick s.rig.rig).1 with
    | none =>
      rw [deliverTick_of_none rig.recording s h, Recording.tick_of_none h]
      rcases ih { s with rig := { s.rig with rig := (rig.tick s.rig.rig).2 } } with
        ⟨x, hx⟩ | ⟨x, a, m, hm, hx⟩
      · exact .inl ⟨x, hx⟩
      · exact .inr ⟨x, a, m, Nat.lt_succ_of_lt hm, hx⟩
    | some a =>
      rw [deliverTick_of_some rig.recording s h, Recording.tick_of_some h]
      exact .inr ⟨s.rig.rig, a, n, Nat.lt_succ_self n, rfl⟩

theorem Act.begins_of_announced {s : RunState (Recording σ)} {x : σ} {a : Notification} {m : ℕ}
    (h : (Act.deliverTicks rig.recording m
      (Act.receive rig.recording a (s.announced rig x a)).2).2.rig.Cuts rig timed tape) :
    (Act.receive rig.recording a (s.announced rig x a)).2.rig.Begins timed tape ∧
      (Recording.ask rig (fun _ => .announced a) rig.tick { s.rig with rig := x }).2.Begins timed
        tape := by
  have hreceived := h.begins.of_prefix (prefix_deliverTicks m _)
  exact ⟨hreceived, hreceived.of_prefix (prefix_receive a (s.announced rig x a))⟩

/-- The frames of a moment are announced alike, whatever comes unheard between them. -/
theorem RunState.Matches.deliverTicks {s : RunState (Recording σ)} {t : RunState (Recording τ)}
    (hm : s.Matches (.within timed tape) t) (n n' : ℕ)
    (hs : (Act.deliverTicks rig.recording n s).2.rig.Cuts rig timed tape)
    (ht : (Act.deliverTicks rig'.recording n' t).2.rig.Cuts rig' timed tape) :
    (Act.deliverTicks rig.recording n s).2.Matches (.within timed tape)
      (Act.deliverTicks rig'.recording n' t).2 := by
  -- Unheard frames are skipped on both sides at once, so an announced frame on the left, which
  -- leaves fewer than `n` to come, is followed by the one on the right.
  induction n using Nat.strongRecOn generalizing n' s t with
  | ind n ih =>
    obtain ⟨hheard, hmemory⟩ := hm.alike
    rcases Act.deliverTicks_cases n s with ⟨x, hx⟩ | ⟨x, a, m, hlt, hx⟩ <;>
      rcases Act.deliverTicks_cases n' t with ⟨y, hy⟩ | ⟨y, b, m', -, hy⟩ <;>
      rw [hx] at hs ⊢ <;> rw [hy] at ht ⊢
    · exact { hm with alike := ⟨hheard, hmemory⟩ }
    · exact (hs.not_announced (Act.begins_of_announced ht).2 hheard).elim
    · exact (ht.not_announced (Act.begins_of_announced hs).2 hheard.symm).elim
    · obtain ⟨hreceived, hannounced⟩ := Act.begins_of_announced hs
      obtain ⟨hreceived', hannounced'⟩ := Act.begins_of_announced ht
      obtain ⟨heq, hstamped⟩ := Recording.news_eq hannounced hannounced' hheard
      obtain rfl : a = b := News.announced.inj heq
      have hm' : (s.announced rig x a).Matches (.within timed tape) (t.announced rig' y a) :=
        { hm with alike := ⟨hstamped, hmemory⟩ }
      obtain ⟨-, hm'⟩ := (InStep.receive Comparison.within_fetches a).step _ _ hm' hreceived
        hreceived'
      exact ih m hlt hm' m' hs ht

theorem InStep.deliver_between (m : Moment) :
    InStep (.between rig rig' timed tape) Eq (Act.deliver rig.recording m)
      (Act.deliver rig'.recording m) := by
  have hstart : ∀ {υ : Type} (rig : Rig υ) (s : RunState (Recording υ)),
      (Act.deliver rig.recording m s).2.rig.Cuts rig timed tape →
      (Recording.ask rig (fun _ => .moment) (rig.arrivals m) s.rig).2.Begins timed tape :=
    fun rig s h => h.begins.of_prefix
      (Act.prefix_deliverTicks _ (Act.ask (rig.recording.arrivals m) s).2)
  -- What is heard of a moment comes after its beginning, where the tape can be cut.
  refine ⟨fun s hs => ?_, fun t ht => ?_, fun s t hm hs ht => ⟨rfl, ?_⟩⟩
  · exact .of_next (hstart rig s hs) rfl
  · exact .of_next (hstart rig' t ht) rfl
  · obtain ⟨hheard, hmemory⟩ := hm.alike
    obtain ⟨-, hstamped⟩ := Recording.news_eq (hstart rig s hs) (hstart rig' t ht) hheard
    have hasked : (Act.ask (rig.recording.arrivals m) s).2.Matches (.within timed tape)
        (Act.ask (rig'.recording.arrivals m) t).2 := { hm with alike := ⟨hstamped, hmemory⟩ }
    exact { hasked.deliverTicks _ _ hs ht with }

/-- Rigs that are heard to say the same answer alike. -/
theorem Rig.between_holds :
    (Comparison.between rig rig' timed tape).Holds rig.recording rig'.recording where
  clock halike ht hu htimed := ht.clock_eq halike.1 hu htimed
  deliver := InStep.deliver_between
  openCamera _ := .ask_between (fun _ _ h => News.opened.inj h) (fun _ => rfl) _ _
  selectMode _ _ := .ask_between (fun _ _ h => News.selected.inj h) (fun _ => rfl) _ _
  configure _ _ _ _ _ := .ask_between (fun _ _ h => News.configured.inj h) (fun _ => rfl) _ _
  reserve := Comparison.between_reserves
  register _ := .ask_between (fun _ _ h => News.answered.inj h) (fun _ => rfl) _ _
  start _ _ _ _ := .ask_between (fun _ _ h => News.answered.inj h) (fun _ => rfl) _ _
  abort _ := .ask_between (fun _ _ h => News.answered.inj h) (fun _ => rfl) _ _
  deregister _ := .ask_between (fun _ _ h => News.answered.inj h) (fun _ => rfl) _ _
  close _ := .ask_between (fun _ _ h => News.answered.inj h) (fun _ => rfl) _ _
  lastError := .ask_between (fun _ _ h => News.lastError.inj h) (fun _ => rfl) _ _

end Tape

end FrameWatch
