import FrameWatch.Mailbox
import FrameWatch.Time.Duration
import Mathlib.Data.List.DropRight

/-!
# Delivery through a mailbox

Signals, waits and resets reach a mailbox in any order. A wait counts at the moment it returns, so
what happens is a list of operations, and `Mailbox.events` tells what each of them did.

1. `MailboxHistory` builds the events up together with the mailbox they lead to; every list of
   operations is one (`history_of_ops`), and so is whatever else signals and takes frames.
2. `MailboxHistory.ledger`: the tally and the frame that waits are functions of the events.
3. `MailboxHistory.exists_source`: every delivery goes back to a signal of its own, with nothing but
   idle waits in between.
4. `MailboxHistory.signals_eq_of_inTurn`: where frames are taken in turn, none is lost.
-/

namespace FrameWatch

/-- An operation on a mailbox, at the moment it takes effect. -/
inductive MailboxOp
  | signal (d : FrameDescriptor)
  /-- A wait that was allowed to take so long returns. -/
  | wait (timeout : Duration)
  | reset
deriving DecidableEq

/-- What an operation did. -/
inductive MailboxEvent
  | signalled (d : FrameDescriptor)
  /-- A wait returned with a frame. -/
  | fired (d : FrameDescriptor)
  /-- A wait returned without one. -/
  | timedOut
  | reset
deriving DecidableEq

namespace MailboxEvent

/-- How a wait ends that takes this. -/
def ofTaken : Option FrameDescriptor → MailboxEvent
  | some d => fired d
  | none => timedOut

/-- The frame that is put in. -/
def signal? : MailboxEvent → Option FrameDescriptor
  | signalled d => some d
  | _ => none

/-- The frame that is handed out. -/
def delivery? : MailboxEvent → Option FrameDescriptor
  | fired d => some d
  | _ => none

/-- Whether nothing waits to be taken afterwards, whatever was there before. -/
def clears : MailboxEvent → Bool
  | fired _ => true
  | reset => true
  | _ => false

/-- The frames put in, in order. -/
def signals (es : List MailboxEvent) : List FrameDescriptor := es.filterMap signal?

/-- The frames handed out, in order. -/
def deliveries (es : List MailboxEvent) : List FrameDescriptor := es.filterMap delivery?

/-- The events after the last reset. -/
def sinceReset (es : List MailboxEvent) : List MailboxEvent := es.rtakeWhile (· != reset)

/-- The events after the last one that handed a frame out or reset the mailbox. -/
def sinceCleared (es : List MailboxEvent) : List MailboxEvent := es.rtakeWhile (!·.clears)

section Concat

variable (es : List MailboxEvent) (e : MailboxEvent)

@[simp] theorem signals_concat : signals (es ++ [e]) = signals es ++ e.signal?.toList := by
  unfold signals
  rw [List.filterMap_append]
  cases h : e.signal? <;> simp [h]

@[simp] theorem deliveries_concat :
    deliveries (es ++ [e]) = deliveries es ++ e.delivery?.toList := by
  unfold deliveries
  rw [List.filterMap_append]
  cases h : e.delivery? <;> simp [h]

theorem sinceReset_concat (h : e ≠ reset) : sinceReset (es ++ [e]) = sinceReset es ++ [e] := by
  unfold sinceReset
  rw [List.rtakeWhile_concat, if_pos (by simpa using h)]

@[simp] theorem sinceReset_concat_reset : sinceReset (es ++ [reset]) = [] := by
  unfold sinceReset
  rw [List.rtakeWhile_concat, if_neg (by simp)]

variable {es} in
theorem sinceReset_of_not_mem (h : reset ∉ es) : sinceReset es = es := by
  unfold sinceReset
  rw [List.rtakeWhile_eq_self_iff]
  intro e he
  simpa using ne_of_mem_of_not_mem he h

theorem sinceCleared_concat :
    sinceCleared (es ++ [e]) = if e.clears then [] else sinceCleared es ++ [e] := by
  unfold sinceCleared
  rw [List.rtakeWhile_concat]
  cases e.clears <;> rfl

end Concat

end MailboxEvent

open MailboxEvent

namespace Mailbox

/-- An operation: what it does, and the mailbox after it. -/
def perform (m : Mailbox) : MailboxOp → MailboxEvent × Mailbox
  | .signal d => (.signalled d, m.signal d)
  | .wait _ => (.ofTaken m.take.1, m.take.2)
  | .reset => (.reset, m.reset)

/-- The mailbox after some operations on an empty one. -/
def after (ops : List MailboxOp) : Mailbox := ops.foldl (fun m op => (m.perform op).2) empty

/-- What the operations do, from a mailbox on. -/
def eventsFrom (m : Mailbox) : List MailboxOp → List MailboxEvent
  | [] => []
  | op :: ops => (m.perform op).1 :: eventsFrom (m.perform op).2 ops

/-- What operations on an empty mailbox do. -/
def events (ops : List MailboxOp) : List MailboxEvent := eventsFrom empty ops

theorem after_concat (ops : List MailboxOp) (op : MailboxOp) :
    after (ops ++ [op]) = ((after ops).perform op).2 := by
  unfold after
  rw [List.foldl_append]
  rfl

theorem eventsFrom_concat (m : Mailbox) (ops : List MailboxOp) (op : MailboxOp) :
    eventsFrom m (ops ++ [op]) =
      eventsFrom m ops ++ [((ops.foldl (fun m op => (m.perform op).2) m).perform op).1] := by
  induction ops generalizing m with
  | nil => rfl
  | cons first ops ih =>
    rw [List.cons_append, eventsFrom, ih, eventsFrom, List.foldl_cons, List.cons_append]

theorem events_concat (ops : List MailboxOp) (op : MailboxOp) :
    events (ops ++ [op]) = events ops ++ [((after ops).perform op).1] :=
  eventsFrom_concat empty ops op

end Mailbox

/-- `MailboxHistory es m`: the events `es` lead from an empty mailbox to `m`. -/
inductive MailboxHistory : List MailboxEvent → Mailbox → Prop
  | start : MailboxHistory [] .empty
  | signal {es : List MailboxEvent} {m : Mailbox} (h : MailboxHistory es m)
      (d : FrameDescriptor) : MailboxHistory (es ++ [.signalled d]) (m.signal d)
  | wait {es : List MailboxEvent} {m : Mailbox} (h : MailboxHistory es m) :
      MailboxHistory (es ++ [.ofTaken m.take.1]) m.take.2
  | reset {es : List MailboxEvent} {m : Mailbox} (h : MailboxHistory es m) :
      MailboxHistory (es ++ [.reset]) m.reset

theorem history_of_ops (ops : List MailboxOp) :
    MailboxHistory (Mailbox.events ops) (Mailbox.after ops) := by
  induction ops using List.reverseRecOn with
  | nil => exact .start
  | append_singleton ops op ih =>
    rw [Mailbox.events_concat, Mailbox.after_concat]
    cases op with
    | signal d => exact ih.signal d
    | wait timeout => exact ih.wait
    | reset => exact ih.reset

/-- What the events of a history tell about the mailbox. -/
structure MailboxLedger (es : List MailboxEvent) (m : Mailbox) : Prop where
  pending : m.pending? = (signals (sinceCleared es)).getLast?
  signals_eq : m.tally.signals = (signals (sinceReset es)).length
  consumed_eq : m.tally.consumed = (deliveries (sinceReset es)).length
  balance : m.tally.signals =
    m.tally.consumed + m.tally.overwritten + if m.isFired then 1 else 0
  sublist : (deliveries es ++ m.pending?.toList).Sublist (signals es)

namespace MailboxLedger

variable {es : List MailboxEvent} {m : Mailbox}

theorem empty : MailboxLedger [] .empty where
  pending := rfl
  signals_eq := rfl
  consumed_eq := rfl
  balance := rfl
  sublist := by simp [deliveries, signals]

theorem signal (h : MailboxLedger es m) (d : FrameDescriptor) :
    MailboxLedger (es ++ [.signalled d]) (m.signal d) where
  pending := by simp [sinceCleared_concat, clears, signal?]
  signals_eq := by
    rw [sinceReset_concat _ _ (by simp), signals_concat, List.length_append, ← h.signals_eq]
    rfl
  consumed_eq := by
    rw [sinceReset_concat _ _ (by simp), deliveries_concat, List.length_append, ← h.consumed_eq]
    rfl
  balance := by
    have hb := h.balance
    unfold Mailbox.signal Mailbox.isFired at *
    by_cases hf : m.fired = true
    · rw [if_pos hf] at hb
      simp only [if_pos hf, if_true]
      omega
    · rw [if_neg hf] at hb
      simp only [if_neg hf, if_true]
      omega
  sublist := by
    have hs := (List.sublist_append_left _ _).trans h.sublist
    simpa [delivery?, signal?] using hs.append_right [d]

theorem take (h : MailboxLedger es m) :
    MailboxLedger (es ++ [.ofTaken m.take.1]) m.take.2 := by
  have hne : ofTaken m.take.1 ≠ .reset := by cases m.take.1 <;> simp [ofTaken]
  obtain ⟨hp, hs, hc, hb, hsub⟩ := h
  by_cases hf : m.fired = true
  · rw [Mailbox.pending?_of_fired hf] at hsub
    rw [Mailbox.take_of_fired hf] at hne ⊢
    refine ⟨?_, ?_, ?_, ?_, ?_⟩
    · simp [sinceCleared_concat, ofTaken, clears, Mailbox.pending?, signals]
    · rw [sinceReset_concat _ _ hne, signals_concat, List.length_append, ← hs]; rfl
    · rw [sinceReset_concat _ _ hne, deliveries_concat, List.length_append, ← hc]; rfl
    · rw [Mailbox.isFired, if_pos hf] at hb
      simp only [Mailbox.isFired, Bool.false_eq_true, if_false]
      omega
    · simpa [ofTaken, delivery?, signal?, Mailbox.pending?] using hsub
  · rw [Mailbox.take_of_not_fired hf] at hne ⊢
    refine ⟨?_, ?_, ?_, hb, ?_⟩
    · rw [hp, sinceCleared_concat]; simp [ofTaken, clears, signal?]
    · rw [sinceReset_concat _ _ hne, signals_concat, hs]; simp [ofTaken, signal?]
    · rw [sinceReset_concat _ _ hne, deliveries_concat, hc]; simp [ofTaken, delivery?]
    · simpa [ofTaken, delivery?, signal?] using hsub

theorem reset (h : MailboxLedger es m) : MailboxLedger (es ++ [.reset]) m.reset where
  pending := by simp [sinceCleared_concat, clears, Mailbox.reset, signals]
  signals_eq := by rw [sinceReset_concat_reset]; rfl
  consumed_eq := by rw [sinceReset_concat_reset]; rfl
  balance := rfl
  sublist := by
    have hs := (List.sublist_append_left _ _).trans h.sublist
    simpa [delivery?, signal?, Mailbox.reset] using hs

end MailboxLedger

/-! ## From a delivery back to its signal -/

/-- What was put in at `i` is handed out at `j`: only idle waits lie in between. -/
def HandsOut (es : List MailboxEvent) (i j : ℕ) (d : FrameDescriptor) : Prop :=
  i < j ∧ es[i]? = some (.signalled d) ∧ ∀ k, i < k → k < j → es[k]? = some .timedOut

theorem HandsOut.concat {es : List MailboxEvent} {i j : ℕ} {d : FrameDescriptor}
    (h : HandsOut es i j d) (hj : j ≤ es.length) (e : MailboxEvent) :
    HandsOut (es ++ [e]) i j d := by
  obtain ⟨hij, hsig, hquiet⟩ := h
  refine ⟨hij, by rw [List.getElem?_append_left (by omega), hsig], fun k hk hk' => ?_⟩
  rw [List.getElem?_append_left (by omega)]
  exact hquiet k hk hk'

/-- The frame put in last would be handed out next, if nothing cleared the mailbox afterwards. -/
theorem exists_last_signal {es : List MailboxEvent} {d : FrameDescriptor}
    (h : (signals (sinceCleared es)).getLast? = some d) : ∃ i, HandsOut es i es.length d := by
  induction es using List.reverseRecOn with
  | nil => simp [sinceCleared, signals] at h
  | append_singleton es e ih =>
    rw [sinceCleared_concat] at h
    cases e with
    | signalled d' =>
      obtain rfl : d' = d := by simpa [clears, signal?] using h
      refine ⟨es.length, by simp, by simp, fun k hk hk' => ?_⟩
      simp only [List.length_append, List.length_singleton] at hk'
      omega
    | timedOut =>
      obtain ⟨i, hi⟩ := ih (by simpa [clears, signal?] using h)
      obtain ⟨hlt, hsig, hquiet⟩ := hi.concat le_rfl .timedOut
      refine ⟨i, by simp; omega, hsig, fun k hk hk' => ?_⟩
      by_cases hk : k < es.length
      · exact hquiet k ‹i < k› hk
      · obtain rfl : k = es.length := by simp at hk'; omega
        simp
    | fired d' => simp [clears, signals] at h
    | reset => simp [clears, signals] at h

theorem getElem?_concat {α : Type} {l : List α} {a x : α} {j : ℕ}
    (h : (l ++ [a])[j]? = some x) : (j < l.length ∧ l[j]? = some x) ∨ (j = l.length ∧ a = x) := by
  by_cases hlt : j < l.length
  · exact .inl ⟨hlt, by rwa [List.getElem?_append_left hlt] at h⟩
  · rw [List.getElem?_append_right (by omega), List.getElem?_singleton] at h
    split at h
    · exact .inr ⟨by omega, by simpa using h⟩
    · cases h

/-- The last event of a list, or an event before it. -/
theorem concat_eq_append_cons {α : Type} {l before after : List α} {a x : α}
    (h : l ++ [a] = before ++ x :: after) :
    (after = [] ∧ l = before ∧ a = x) ∨ ∃ rest, after = rest ++ [a] ∧ l = before ++ x :: rest := by
  rcases List.eq_nil_or_concat after with rfl | ⟨rest, b, rfl⟩
  · have := List.append_inj' h rfl
    simp_all
  · rw [List.concat_eq_append, ← List.cons_append, ← List.append_assoc] at h
    obtain ⟨rfl, hab⟩ := List.append_inj' h rfl
    exact .inr ⟨rest, by simp_all, rfl⟩

namespace MailboxHistory

variable {es : List MailboxEvent} {m : Mailbox}

theorem ledger (h : MailboxHistory es m) : MailboxLedger es m := by
  induction h with
  | start => exact .empty
  | signal _ d ih => exact ih.signal d
  | wait _ ih => exact ih.take
  | reset _ ih => exact ih.reset

theorem exists_handsOut (h : MailboxHistory es m) {j : ℕ} {d : FrameDescriptor}
    (hj : es[j]? = some (.fired d)) : ∃ i, HandsOut es i j d := by
  induction h with
  | start => simp at hj
  | signal _ d' ih =>
    rcases getElem?_concat hj with ⟨hlt, hj⟩ | ⟨-, he⟩
    · obtain ⟨i, hi⟩ := ih hj
      exact ⟨i, hi.concat hlt.le _⟩
    · cases he
  | @wait es m h ih =>
    rcases getElem?_concat hj with ⟨hlt, hj⟩ | ⟨rfl, he⟩
    · obtain ⟨i, hi⟩ := ih hj
      exact ⟨i, hi.concat hlt.le _⟩
    · -- this very wait takes the frame that the ledger names
      have hpend : m.pending? = some d := by
        rw [Mailbox.take_fst] at he
        cases hp : m.pending? <;> rw [hp] at he <;> cases he
        rfl
      obtain ⟨i, hi⟩ := exists_last_signal (h.ledger.pending.symm.trans hpend)
      exact ⟨i, hi.concat le_rfl _⟩
  | reset _ ih =>
    rcases getElem?_concat hj with ⟨hlt, hj⟩ | ⟨-, he⟩
    · obtain ⟨i, hi⟩ := ih hj
      exact ⟨i, hi.concat hlt.le _⟩
    · cases he

/-- Every delivery has a signal of its own, and signals are handed out in their order. -/
theorem exists_source (h : MailboxHistory es m) :
    ∃ source : ℕ → ℕ, ∀ j d, es[j]? = some (.fired d) →
      HandsOut es (source j) j d ∧
        ∀ i d', i < j → es[i]? = some (.fired d') → source i < source j := by
  have key : ∀ j : ℕ, ∃ i, ∀ d, es[j]? = some (.fired d) → HandsOut es i j d := by
    intro j
    by_cases hj : ∃ d, es[j]? = some (.fired d)
    · obtain ⟨d, hd⟩ := hj
      obtain ⟨i, hi⟩ := h.exists_handsOut hd
      refine ⟨i, fun d' hd' => ?_⟩
      obtain rfl : d = d' := by rw [hd] at hd'; cases hd'; rfl
      exact hi
    · exact ⟨0, fun d hd => absurd ⟨d, hd⟩ hj⟩
  choose source hsource using key
  refine ⟨source, fun j d hj => ⟨hsource j d hj, fun i d' hij hi => ?_⟩⟩
  have hlt := (hsource i d' hi).1
  -- the later delivery's signal cannot lie before the earlier delivery, which is no idle wait
  by_contra hle
  have hidle := (hsource j d hj).2.2 i (by omega) hij
  rw [hi] at hidle
  cases hidle

/-- What follows a reset is a history of its own. -/
theorem after_reset (h : MailboxHistory es m) {before after : List MailboxEvent}
    (hes : es = before ++ .reset :: after) : MailboxHistory after m := by
  induction h generalizing after with
  | start => simp at hes
  | signal _ d ih =>
    rcases concat_eq_append_cons hes with ⟨-, -, he⟩ | ⟨rest, rfl, hrest⟩
    · cases he
    · exact (ih hrest).signal d
  | @wait es m _ ih =>
    rcases concat_eq_append_cons hes with ⟨-, -, he⟩ | ⟨rest, rfl, hrest⟩
    · cases ht : m.take.1 <;> rw [ht] at he <;> cases he
    · exact (ih hrest).wait
  | reset _ ih =>
    rcases concat_eq_append_cons hes with ⟨rfl, -, -⟩ | ⟨rest, rfl, hrest⟩
    · exact .start
    · exact (ih hrest).reset

/-- A wait takes what waits in the mailbox at that moment. -/
theorem before_wait (h : MailboxHistory es m) {before after : List MailboxEvent}
    {taken : Option FrameDescriptor} (hes : es = before ++ .ofTaken taken :: after) :
    ∃ m₁, MailboxHistory before m₁ ∧ m₁.pending? = taken := by
  induction h generalizing after with
  | start => simp at hes
  | signal _ d ih =>
    rcases concat_eq_append_cons hes with ⟨-, -, he⟩ | ⟨rest, -, hrest⟩
    · cases taken <;> cases he
    · exact ih hrest
  | @wait es m h ih =>
    rcases concat_eq_append_cons hes with ⟨-, rfl, he⟩ | ⟨rest, -, hrest⟩
    · refine ⟨m, h, ?_⟩
      rw [Mailbox.take_fst] at he
      cases hp : m.pending? <;> cases taken <;> rw [hp] at he <;> cases he
      all_goals rfl
    · exact ih hrest
  | reset _ ih =>
    rcases concat_eq_append_cons hes with ⟨-, -, he⟩ | ⟨rest, -, hrest⟩
    · cases taken <;> cases he
    · exact ih hrest

/-- A wait ends without a frame only where nothing was left to be taken. -/
theorem idle_of_timedOut (h : MailboxHistory es m) {before after : List MailboxEvent}
    (hes : es = before ++ .timedOut :: after) : signals (sinceCleared before) = [] := by
  have hwait : es = before ++ .ofTaken none :: after := hes
  obtain ⟨m₁, h₁, hnone⟩ := h.before_wait hwait
  exact List.getLast?_eq_none_iff.mp (h₁.ledger.pending.symm.trans hnone)

end MailboxHistory

/-! ## Frames taken in turn -/

/-- Every frame handed out is the only one put in since the one before it. -/
def MailboxEvent.InTurn (es : List MailboxEvent) : Prop :=
  ∀ i d, es[i]? = some (.fired d) → (signals (sinceCleared (es.take i))).length ≤ 1

instance (es : List MailboxEvent) : Decidable (InTurn es) :=
  decidable_of_iff (∀ i < es.length, (es[i]?.bind delivery?).isSome →
    (signals (sinceCleared (es.take i))).length ≤ 1) (by
    constructor
    · intro h i d hi
      obtain ⟨hlt, -⟩ := List.getElem?_eq_some_iff.mp hi
      exact h i hlt (by rw [hi]; rfl)
    · intro h i _ hi
      obtain ⟨d, hd⟩ := Option.isSome_iff_exists.mp hi
      obtain ⟨e, he, hd⟩ := Option.bind_eq_some_iff.mp hd
      cases e with
      | fired d' => exact h i d' he
      | _ => cases hd)

theorem MailboxEvent.InTurn.of_append {es more : List MailboxEvent} (h : InTurn (es ++ more)) :
    InTurn es := by
  intro i d hi
  obtain ⟨hlt, -⟩ := List.getElem?_eq_some_iff.mp hi
  have hle := h i d (by rw [List.getElem?_append_left hlt, hi])
  rwa [List.take_append_of_le_length hlt.le] at hle

namespace MailboxHistory

variable {es : List MailboxEvent} {m : Mailbox}

/-- Frames taken in turn are all frames put in, but for those that wait in the end. -/
theorem signals_eq_of_inTurn (h : MailboxHistory es m) (hreset : .reset ∉ es) (ht : InTurn es) :
    signals es = deliveries es ++ signals (sinceCleared es) := by
  induction h with
  | start => rfl
  | signal h d ih =>
    rw [List.mem_append, not_or] at hreset
    rw [signals_concat, deliveries_concat, sinceCleared_concat, ih hreset.1 ht.of_append]
    simp [delivery?, clears]
  | @wait es m h ih =>
    rw [List.mem_append, not_or] at hreset
    have ih := ih hreset.1 ht.of_append
    have hpending := h.ledger.pending
    rw [Mailbox.take_fst] at ht ⊢
    rw [signals_concat, deliveries_concat, sinceCleared_concat, ih]
    cases hp : m.pending? with
    | none => simp [ofTaken, signal?, delivery?, clears]
    | some d =>
      -- the frame that is taken is the only one put in since the last was taken
      rw [hp] at ht hpending
      have hle := ht es.length d (by simp [ofTaken])
      rw [List.take_left] at hle
      have hsingle : signals (sinceCleared es) = [d] := by
        cases hs : signals (sinceCleared es) with
        | nil => rw [hs] at hpending; cases hpending
        | cons d' rest =>
          rw [hs] at hle hpending
          obtain rfl : rest = [] := List.eq_nil_of_length_eq_zero (by simpa using hle)
          cases hpending
          rfl
      rw [hsingle]
      simp [ofTaken, signal?, delivery?, clears, signals]
  | reset => exact absurd (List.mem_append_right _ (List.mem_singleton_self _)) hreset

/-- When a wait ends without a frame, all frames put in so far have been taken. -/
theorem signals_eq_of_timedOut (h : MailboxHistory es m) (hreset : .reset ∉ es) (ht : InTurn es)
    {before after : List MailboxEvent} (hes : es = before ++ .timedOut :: after) :
    signals before = deliveries before := by
  have hwait : es = before ++ .ofTaken none :: after := hes
  obtain ⟨m₁, h₁, -⟩ := h.before_wait hwait
  have hidle := h.idle_of_timedOut hes
  subst hes
  rw [h₁.signals_eq_of_inTurn (fun hmem => hreset (List.mem_append_left _ hmem)) ht.of_append,
    hidle, List.append_nil]

end MailboxHistory

/-- **Delivery.** Whatever signals, waits and resets reach an empty mailbox in whatever order: the
tally counts what happened since the last reset; a wait returns the newest frame put in since the
last delivery or reset, if there is one, however long it was allowed to take; every delivery has a
signal of its own, in the order of the signals and with no reset in between. -/
theorem delivery_of_ops (ops : List MailboxOp) :
    let m := Mailbox.after ops
    let es := Mailbox.events ops
    (m.tally.signals = (signals (sinceReset es)).length ∧
      m.tally.consumed = (deliveries (sinceReset es)).length ∧
      m.tally.signals =
        m.tally.consumed + m.tally.overwritten + if m.isFired then 1 else 0) ∧
    (∀ timeout, Mailbox.events (ops ++ [.wait timeout]) =
      es ++ [.ofTaken (signals (sinceCleared es)).getLast?]) ∧
    (∃ source : ℕ → ℕ, ∀ j d, es[j]? = some (.fired d) →
      HandsOut es (source j) j d ∧
        ∀ i d', i < j → es[i]? = some (.fired d') → source i < source j) ∧
    (deliveries es).Sublist (signals es) ∧
    ∀ before after, es = before ++ .reset :: after →
      (deliveries after).Sublist (signals after) := by
  intro m es
  have h : MailboxHistory es m := history_of_ops ops
  have sublist : ∀ {es m}, MailboxHistory es m → (deliveries es).Sublist (signals es) :=
    fun h => (List.sublist_append_left _ _).trans h.ledger.sublist
  refine ⟨⟨h.ledger.signals_eq, h.ledger.consumed_eq, h.ledger.balance⟩, fun timeout => ?_,
    h.exists_source, sublist h, fun before after hes => sublist (h.after_reset hes)⟩
  rw [Mailbox.events_concat, ← h.ledger.pending, ← Mailbox.take_fst]
  rfl

end FrameWatch
