import FrameWatch.Handler
import FrameWatch.Proofs.Delivery

/-!
# Notifications

The camera calls its handler while somebody waits at the mailbox. A wait counts at the moment it
returns, and one that returns while a call is handled counts before the call, which touches the
mailbox last. What the handler makes of the calls depends neither on the waits nor on calls without
frame data or context.

1. `HandlerUse` is a handler in use, with what went through its mailbox and the fetches it made.
2. `HandlerUse.Answers` says what comes of one call that is heard, and `HandlerUse.call_answers`
   that it does so in every state.
3. `HandlerUse.after_eq`: the handler, its fetches and its signals are functions of the frames that
   it has heard of.
4. `HandlerLaw` says what that means for calls and waits in any order.
-/

namespace FrameWatch

open MailboxEvent

/-- What reaches a handler and its mailbox. -/
inductive HandlerOp
  /-- The camera calls, and fetching the frame would end in this way. -/
  | call (n : Notification) (answer : Fetched)
  /-- A wait that was allowed to take so long returns. -/
  | wait (timeout : Duration)
deriving DecidableEq

namespace HandlerOp

/-- The frame that the handler hears of, with the end of the fetch. -/
def frame? : HandlerOp → Option (FrameInfo × Fetched)
  | call ⟨some info, true⟩ answer => some (info, answer)
  | _ => none

/-- Whether it is a call without frame data or context. -/
def isIgnored : HandlerOp → Bool
  | call ⟨some _, true⟩ _ => false
  | call _ _ => true
  | wait _ => false

/-- The frames that the handler hears of, in order. -/
def frames (ops : List HandlerOp) : List (FrameInfo × Fetched) := ops.filterMap frame?

/-- The calls that are heard, and nothing else. -/
def heard (ops : List HandlerOp) : List HandlerOp := ops.filter (·.frame?.isSome)

/-- An operation is ignored, or makes the handler hear of a frame, or is a wait. -/
theorem cases_op (op : HandlerOp) : op.isIgnored = true ∨
    (∃ info answer, op = call ⟨some info, true⟩ answer) ∨ ∃ timeout, op = wait timeout := by
  cases op with
  | wait timeout => exact .inr (.inr ⟨timeout, rfl⟩)
  | call n answer =>
    obtain ⟨_ | info, _ | _⟩ := n
    · exact .inl rfl
    · exact .inl rfl
    · exact .inl rfl
    · exact .inr (.inl ⟨info, answer, rfl⟩)

theorem frame?_of_isIgnored {op : HandlerOp} (h : op.isIgnored = true) : op.frame? = none := by
  cases op with
  | wait timeout => rfl
  | call n answer => obtain ⟨_ | info, _ | _⟩ := n <;> first | rfl | cases h

theorem frames_concat (ops : List HandlerOp) (op : HandlerOp) :
    frames (ops ++ [op]) = frames ops ++ op.frame?.toList := by
  unfold frames
  rw [List.filterMap_append]
  cases h : op.frame? <;> simp [h]

theorem frames_heard (ops : List HandlerOp) : frames (heard ops) = frames ops := by
  unfold frames heard
  rw [List.filterMap_filter]
  refine List.filterMap_congr fun op _ => ?_
  cases op.frame? <;> rfl

end HandlerOp

/-- The frame that was put into a mailbox on the way from `m` to `m'`, if one was. -/
def Mailbox.added? (m m' : Mailbox) : Option FrameDescriptor :=
  if m.tally.signals < m'.tally.signals then some m'.descriptor else none

theorem Mailbox.added?_self (m : Mailbox) : m.added? m = none := if_neg (Nat.lt_irrefl _)

theorem Mailbox.added?_signal (m : Mailbox) (d : FrameDescriptor) :
    m.added? (m.signal d) = some d := if_pos (Nat.lt_succ_self _)

/-- A handler in use. -/
structure HandlerUse where
  receiver : Receiver
  /-- What went through the mailbox. -/
  events : List MailboxEvent
  /-- Attempts to fetch a frame. -/
  fetches : ℕ

namespace HandlerUse

/-- A handler that comes into use, with an empty mailbox. -/
def initial (h : Handler) : HandlerUse := ⟨⟨h, .empty⟩, [], 0⟩

/-- The camera calls. -/
def call (s : HandlerUse) (n : Notification) (answer : Fetched) : HandlerUse :=
  let (r, fetches) := s.receiver.receive (fun fetches => (answer, fetches + 1)) n s.fetches
  ⟨r, s.events ++ ((s.receiver.mailbox.added? r.mailbox).map signalled).toList, fetches⟩

/-- A wait returns. -/
def wait (s : HandlerUse) : HandlerUse where
  receiver := { s.receiver with mailbox := s.receiver.mailbox.take.2 }
  events := s.events ++ [.ofTaken s.receiver.mailbox.take.1]
  fetches := s.fetches

/-- An operation reaches the handler or its mailbox. -/
def perform (s : HandlerUse) : HandlerOp → HandlerUse
  | .call n answer => s.call n answer
  | .wait _ => s.wait

/-- A handler after some operations. -/
def after (h : Handler) (ops : List HandlerOp) : HandlerUse := ops.foldl perform (initial h)

/-- What the handler has counted. -/
def counters (s : HandlerUse) : HandlerCounters := s.receiver.handler.counters

/-- Whether a frame waits to be taken, as a number. -/
def waiting (s : HandlerUse) : ℕ := if s.receiver.mailbox.isFired then 1 else 0

/-! ## One call -/

variable (s : HandlerUse)

/-- A call without frame data or context comes to nothing. -/
theorem perform_of_isIgnored {op : HandlerOp} (h : op.isIgnored = true) : s.perform op = s := by
  cases op with
  | wait timeout => cases h
  | call n answer =>
    have hignored : s.receiver.receive (fun fetches => (answer, fetches + 1)) n s.fetches =
        (s.receiver, s.fetches) := by
      obtain ⟨_ | info, _ | _⟩ := n
      · rfl
      · rfl
      · rfl
      · cases h
    show s.call n answer = s
    unfold call
    rw [hignored]
    dsimp only
    rw [Mailbox.added?_self]
    exact congrArg (HandlerUse.mk _ · _) (List.append_nil _)

theorem call_of_heard (info : FrameInfo) (answer : Fetched) :
    s.call ⟨some info, true⟩ answer =
      ⟨s.receiver.handle info answer,
        s.events ++ ((s.receiver.handler.descriptor? info answer).map signalled).toList,
        s.fetches + 1⟩ := by
  have hadded : s.receiver.mailbox.added? (s.receiver.handle info answer).mailbox =
      s.receiver.handler.descriptor? info answer := by
    unfold Receiver.handle
    cases s.receiver.handler.descriptor? info answer with
    | none => exact Mailbox.added?_self _
    | some d => exact Mailbox.added?_signal _ d
  rw [← hadded]
  rfl

/-- The descriptor is that of a frame fetched in this way into the `size` bytes from `base` on. -/
structure Describes (base size : ℕ) (info : FrameInfo) (answer : Fetched) (d : FrameDescriptor) :
    Prop where
  sequence : d.sequence = info.number
  timestamp : d.timestamp = info.timestamp
  degraded : d.degraded = true ↔ ∃ e, answer = .failed e
  bufferOffset : ∀ offset, d.bufferOffset = some offset ↔ ∃ address, answer = .frame address ∧
    (base : ℤ) ≤ address ∧ (address : ℤ) < base + size ∧ (offset : ℤ) = address - base

theorem describes_of_descriptor? {h : Handler} {info : FrameInfo} {answer : Fetched}
    {d : FrameDescriptor} (hd : h.descriptor? info answer = some d) :
    Describes h.base h.size info answer d := by
  cases answer with
  | frame address =>
    obtain rfl := Option.some.inj hd
    refine ⟨rfl, rfl, by simp, fun offset => ?_⟩
    show FrameBuffer.offsetIn h.base h.size address = some offset ↔ _
    unfold FrameBuffer.offsetIn
    constructor
    · intro hoffset
      split at hoffset
      · cases hoffset
        exact ⟨address, rfl, by omega, by omega, by omega⟩
      · cases hoffset
    · rintro ⟨_, ⟨⟩, hle, hlt, hoffset⟩
      rw [if_pos (by omega)]
      exact congrArg some (by omega)
  | failed e =>
    obtain rfl := Option.some.inj hd
    exact ⟨rfl, rfl, by simp, by simp⟩
  | crashed => cases hd

theorem descriptor?_eq_none_iff {h : Handler} {info : FrameInfo} {answer : Fetched} :
    h.descriptor? info answer = none ↔ answer = .crashed := by
  cases answer <;> simp [Handler.descriptor?]

/-- What comes of a call that is heard, on the way from `s` to `s'`. -/
structure Answers (s s' : HandlerUse) (info : FrameInfo) (answer : Fetched) : Prop where
  fetched : s'.fetches = s.fetches + 1
  handled : s'.counters.handled = s.counters.handled + 1
  degraded : s'.counters.degraded =
    s.counters.degraded + if answer matches .failed _ then 1 else 0
  /-- However the fetch ends, the number is compared with the one before it. -/
  compared : s'.receiver.handler.lastNumber = info.number ∧
    s'.counters.gapEvents =
      s.counters.gapEvents + (if s.receiver.handler.isGap info.number then 1 else 0) ∧
    s'.counters.lostFrames = s.counters.lostFrames +
      if s.receiver.handler.isGap info.number
      then (info.number - s.receiver.handler.lastNumber - 1).toNat else 0
  /-- A fetch that breaks off puts nothing into the mailbox. -/
  crashed : answer = .crashed → s'.receiver.mailbox = s.receiver.mailbox ∧ s'.events = s.events
  signalled : answer ≠ .crashed → ∃ d,
    Describes s.receiver.handler.base s.receiver.handler.size info answer d ∧
      s'.receiver.mailbox = s.receiver.mailbox.signal d ∧ s'.events = s.events ++ [.signalled d]

theorem counters_noteFetch (h : Handler) (answer : Fetched) : (h.noteFetch answer).counters =
    { h.counters with
      degraded := h.counters.degraded + if answer matches .failed _ then 1 else 0 } := by
  cases answer <;> rfl

theorem lastNumber_noteFetch (h : Handler) (answer : Fetched) :
    (h.noteFetch answer).lastNumber = h.lastNumber := by
  cases answer <;> rfl

theorem call_answers (info : FrameInfo) (answer : Fetched) :
    s.Answers (s.call ⟨some info, true⟩ answer) info answer := by
  rw [call_of_heard]
  set h := s.receiver.handler
  have hcounters : (s.receiver.handle info answer).handler.counters =
      { (h.count info.number).counters with
        degraded := h.counters.degraded + if answer matches .failed _ then 1 else 0 } :=
    counters_noteFetch _ answer
  refine ⟨rfl, congrArg HandlerCounters.handled hcounters,
    congrArg HandlerCounters.degraded hcounters, ⟨lastNumber_noteFetch _ answer, ?_, ?_⟩,
    fun hcrashed => ?_, fun hends => ?_⟩
  · refine (congrArg HandlerCounters.gapEvents hcounters).trans ?_
    show (if h.isGap info.number then _ else _) = _
    split <;> rfl
  · refine (congrArg HandlerCounters.lostFrames hcounters).trans ?_
    show (if h.isGap info.number then _ else _) = _
    split <;> rfl
  · subst hcrashed
    exact ⟨rfl, List.append_nil _⟩
  · obtain ⟨d, hd⟩ := Option.ne_none_iff_exists'.mp (mt descriptor?_eq_none_iff.mp hends)
    refine ⟨d, describes_of_descriptor? hd, ?_, ?_⟩
    · show (h.descriptor? info answer).elim _ _ = _
      rw [hd]
      rfl
    · show s.events ++ ((h.descriptor? info answer).map _).toList = _
      rw [hd]
      rfl

end HandlerUse

/-! ## All calls -/

namespace Handler

/-- The handler after it has handled a frame. -/
def hear (h : Handler) (frame : FrameInfo × Fetched) : Handler :=
  (h.count frame.1.number).noteFetch frame.2

/-- What is put into the mailbox about a frame that was heard of. -/
def noted? (h : Handler) (frame : FrameInfo × Fetched) : Option FrameDescriptor :=
  h.descriptor? frame.1 frame.2

theorem noted?_hear (h : Handler) (frame : FrameInfo × Fetched) :
    (h.hear frame).noted? = h.noted? := by
  obtain ⟨info, _ | _ | _⟩ := frame <;> rfl

theorem handled_hear (h : Handler) (frame : FrameInfo × Fetched) :
    (h.hear frame).counters.handled = h.counters.handled + 1 := by
  obtain ⟨info, _ | _ | _⟩ := frame <;> rfl

variable (h : Handler) (frames : List (FrameInfo × Fetched))

/-- Where the buffer lies does not change. -/
theorem noted?_foldl : (frames.foldl hear h).noted? = h.noted? := by
  induction frames generalizing h with
  | nil => rfl
  | cons frame frames ih => exact (ih (h.hear frame)).trans (h.noted?_hear frame)

theorem handled_foldl :
    (frames.foldl hear h).counters.handled = h.counters.handled + frames.length := by
  induction frames using List.reverseRecOn with
  | nil => rfl
  | append_singleton frames frame ih =>
    rw [List.foldl_concat, handled_hear, ih, List.length_append]
    rfl

end Handler

namespace HandlerUse

variable (h : Handler) (ops : List HandlerOp)

theorem after_concat (op : HandlerOp) : after h (ops ++ [op]) = (after h ops).perform op :=
  List.foldl_concat _ _ _ _

/-- Calls without frame data or context can be left out. -/
theorem after_filter : after h (ops.filter (!·.isIgnored)) = after h ops := by
  induction ops using List.reverseRecOn with
  | nil => rfl
  | append_singleton ops op ih =>
    rw [List.filter_append, List.filter_singleton, after_concat]
    cases hop : op.isIgnored with
    | true => rw [perform_of_isIgnored _ hop, ← ih]; simp
    | false => rw [← ih, ← after_concat]; simp

/-- The handler, its fetches and its signals, whoever waits in the meantime. -/
theorem after_eq :
    (after h ops).receiver.handler = (HandlerOp.frames ops).foldl Handler.hear h ∧
      (after h ops).fetches = (HandlerOp.frames ops).length ∧
      signals (after h ops).events = (HandlerOp.frames ops).filterMap h.noted? := by
  induction ops using List.reverseRecOn with
  | nil => exact ⟨rfl, rfl, rfl⟩
  | append_singleton ops op ih =>
    obtain ⟨hhandler, hfetches, hsignals⟩ := ih
    rw [after_concat, HandlerOp.frames_concat]
    rcases op.cases_op with hignored | ⟨info, answer, rfl⟩ | ⟨timeout, rfl⟩
    · rw [perform_of_isIgnored _ hignored, HandlerOp.frame?_of_isIgnored hignored,
        Option.toList_none, List.append_nil]
      exact ⟨hhandler, hfetches, hsignals⟩
    · have hnoted : (after h ops).receiver.handler.descriptor? info answer =
          h.noted? (info, answer) := by
        rw [← h.noted?_foldl (HandlerOp.frames ops), ← hhandler]
        rfl
      show ((after h ops).call ⟨some info, true⟩ answer).receiver.handler = _ ∧
        ((after h ops).call ⟨some info, true⟩ answer).fetches = _ ∧
        signals ((after h ops).call ⟨some info, true⟩ answer).events =
          (HandlerOp.frames ops ++ [(info, answer)]).filterMap h.noted?
      rw [call_of_heard, hnoted, List.filterMap_append, ← hsignals]
      refine ⟨?_, ?_, ?_⟩
      · show ((after h ops).receiver.handler.hear (info, answer)) = _
        rw [hhandler]
        exact (List.foldl_concat _ _ _ _).symm
      · show (after h ops).fetches + 1 = _
        rw [hfetches, List.length_append]
        rfl
      · cases hd : h.noted? (info, answer) with
        | none => simp [hd]
        | some d => simp [hd, signal?]
    · refine ⟨?_, ?_, ?_⟩
      · exact hhandler.trans (congrArg _ (List.append_nil _).symm)
      · exact hfetches.trans (congrArg _ (List.append_nil _).symm)
      · show signals ((after h ops).events ++ [.ofTaken (after h ops).receiver.mailbox.take.1]) =
          (HandlerOp.frames ops ++ []).filterMap h.noted?
        rw [signals_concat, hsignals, List.append_nil]
        cases (after h ops).receiver.mailbox.take.1 <;> exact List.append_nil _

/-- The mailbox has come about by what went through it. -/
theorem after_history : MailboxHistory (after h ops).events (after h ops).receiver.mailbox := by
  induction ops using List.reverseRecOn with
  | nil => exact .start
  | append_singleton ops op ih =>
    rw [after_concat]
    rcases op.cases_op with hignored | ⟨info, answer, rfl⟩ | ⟨timeout, rfl⟩
    · rw [perform_of_isIgnored _ hignored]
      exact ih
    · obtain ⟨-, -, -, -, hcrashed, hsignalled⟩ := (after h ops).call_answers info answer
      show MailboxHistory ((after h ops).call _ answer).events
        ((after h ops).call _ answer).receiver.mailbox
      by_cases hends : answer = .crashed
      · rw [(hcrashed hends).1, (hcrashed hends).2]
        exact ih
      · obtain ⟨d, -, hmailbox, hevents⟩ := hsignalled hends
        rw [hmailbox, hevents]
        exact ih.signal d
    · exact ih.wait

theorem reset_not_mem_after : MailboxEvent.reset ∉ (after h ops).events := by
  induction ops using List.reverseRecOn with
  | nil => exact List.not_mem_nil
  | append_singleton ops op ih =>
    rw [after_concat]
    rcases op.cases_op with hignored | ⟨info, answer, rfl⟩ | ⟨timeout, rfl⟩
    · rw [perform_of_isIgnored _ hignored]
      exact ih
    · show _ ∉ ((after h ops).call _ answer).events
      rw [call_of_heard]
      simpa using ih
    · refine List.mem_append.not.mpr (not_or.mpr ⟨ih, ?_⟩)
      cases (after h ops).receiver.mailbox.take.1 <;> simp [ofTaken]

/-- What the tally says of the frames put in. -/
theorem tally_after :
    let tally := (after h ops).receiver.mailbox.tally
    tally.signals = ((HandlerOp.frames ops).filterMap h.noted?).length ∧
      tally.signals = tally.consumed + tally.overwritten + (after h ops).waiting := by
  have hledger := (after_history h ops).ledger
  refine ⟨?_, hledger.balance⟩
  rw [hledger.signals_eq, sinceReset_of_not_mem (reset_not_mem_after h ops), (after_eq h ops).2.2]

/-- Where nobody waits, nothing is taken. -/
theorem consumed_of_heard (hops : ∀ op ∈ ops, op.frame?.isSome) :
    (after h ops).receiver.mailbox.tally.consumed = 0 := by
  induction ops using List.reverseRecOn with
  | nil => rfl
  | append_singleton ops op ih =>
    have ih := ih fun op hop => hops op (List.mem_append_left _ hop)
    have hop := hops op (List.mem_append_right _ List.mem_cons_self)
    rw [after_concat]
    rcases op.cases_op with hignored | ⟨info, answer, rfl⟩ | ⟨timeout, rfl⟩
    · rw [HandlerOp.frame?_of_isIgnored hignored] at hop
      cases hop
    · show ((after h ops).call _ answer).receiver.mailbox.tally.consumed = 0
      have hanswers := (after h ops).call_answers info answer
      by_cases hends : answer = .crashed
      · rw [(hanswers.crashed hends).1]
        exact ih
      · obtain ⟨d, -, hmailbox, -⟩ := hanswers.signalled hends
        rw [hmailbox]
        exact ih
    · cases hop

/-- Every frame that is heard of and whose fetch does not break off has its descriptor. -/
theorem describes_noted (frames : List (FrameInfo × Fetched)) :
    List.Forall₂ (fun frame d => Describes h.base h.size frame.1 frame.2 d)
      (frames.filter (·.2 ≠ .crashed)) (frames.filterMap h.noted?) := by
  induction frames with
  | nil => exact .nil
  | cons frame frames ih =>
    rw [List.filter_cons, List.filterMap_cons]
    cases hd : h.noted? frame with
    | none =>
      have hcrashed : frame.2 = .crashed := descriptor?_eq_none_iff.mp hd
      rw [if_neg (by simpa using hcrashed)]
      exact ih
    | some d =>
      have hends : frame.2 ≠ .crashed := fun hcrashed => by
        rw [show h.noted? frame = none from descriptor?_eq_none_iff.mpr hcrashed] at hd
        cases hd
      rw [if_pos (by simpa using hends)]
      exact .cons (describes_of_descriptor? hd) ih

end HandlerUse

open HandlerUse in
/-- What a handler makes of calls and waits that come in this order. -/
structure HandlerLaw (h : Handler) (ops : List HandlerOp) : Prop where
  /-- Calls without frame data or context can be left out. -/
  erasable : after h (ops.filter (!·.isIgnored)) = after h ops
  /-- Every other call is answered with one fetch and put into the mailbox. -/
  answers : ∀ info answer,
    (after h ops).Answers ((after h ops).call ⟨some info, true⟩ answer) info answer
  /-- The handler ends up as if nobody had waited. -/
  handler : (after h ops).receiver.handler = (after h (HandlerOp.heard ops)).receiver.handler
  fetches : (after h ops).fetches = (after h (HandlerOp.heard ops)).fetches
  signals : signals (after h ops).events = signals (after h (HandlerOp.heard ops)).events
  /-- It has fetched and handled each frame that it heard of. -/
  fetched : (after h ops).fetches = (HandlerOp.frames ops).length
  handled : (after h ops).counters.handled = h.counters.handled + (HandlerOp.frames ops).length
  described : List.Forall₂ (fun frame d => Describes h.base h.size frame.1 frame.2 d)
    ((HandlerOp.frames ops).filter (·.2 ≠ .crashed)) (MailboxEvent.signals (after h ops).events)
  /-- Waits move frames from those that wait or gave way to those that were taken. -/
  schedule :
    let tally := (after h ops).receiver.mailbox.tally
    let unwaited := (after h (HandlerOp.heard ops)).receiver.mailbox.tally
    tally.signals = unwaited.signals ∧ unwaited.consumed = 0 ∧
      tally.signals = tally.consumed + tally.overwritten + (after h ops).waiting ∧
      unwaited.signals = unwaited.overwritten + (after h (HandlerOp.heard ops)).waiting

/-- **Handling.** Whatever calls and waits reach a handler and its mailbox in whatever order: calls
without frame data or context come to nothing, every other call is fetched and signalled as it says,
and the waits only decide which of the signalled frames are taken. -/
theorem HandlerUse.handler_law (h : Handler) (ops : List HandlerOp) : HandlerLaw h ops := by
  obtain ⟨hhandler, hfetches, hsignals⟩ := after_eq h ops
  obtain ⟨hhandler', hfetches', hsignals'⟩ := after_eq h (HandlerOp.heard ops)
  obtain ⟨htally, hbalance⟩ := tally_after h ops
  obtain ⟨htally', hbalance'⟩ := tally_after h (HandlerOp.heard ops)
  have hunwaited := consumed_of_heard h (HandlerOp.heard ops) fun op hop =>
    (List.mem_filter.mp hop).2
  rw [HandlerOp.frames_heard] at hhandler' hfetches' hsignals' htally'
  refine
    { erasable := after_filter h ops
      answers := call_answers (after h ops)
      handler := hhandler.trans hhandler'.symm
      fetches := hfetches.trans hfetches'.symm
      signals := hsignals.trans hsignals'.symm
      fetched := hfetches
      handled := ?_
      described := hsignals ▸ describes_noted h _
      schedule := ⟨htally.trans htally'.symm, hunwaited, hbalance, ?_⟩ }
  · show (after h ops).receiver.handler.counters.handled = _
    rw [hhandler, Handler.handled_foldl]
  · rw [hbalance', hunwaited, Nat.zero_add]

end FrameWatch
