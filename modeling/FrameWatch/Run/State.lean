import FrameWatch.Run.Rig

/-!
# The state of a run

What a run holds while it goes on, and how it deals with its camera: `call` makes a call and lets
notifications in around it, `deliver` lets them in at any other moment. A notification reaches the
handler's context wherever that is; one that finds the context given back strays. Every step of the
run is kept, so that what happened can be told from the state in which it ends.
-/

namespace FrameWatch

/-- What has become of a resource. -/
inductive Custody (α : Type) where
  /-- It was never acquired. -/
  | absent
  | held (item : α)
  /-- It was given back. -/
  | released
  /-- It can never be given back. -/
  | leaked (item : α)
deriving DecidableEq

/-- The resource, where it still exists. -/
def Custody.live? {α : Type} : Custody α → Option α
  | held item => some item
  | leaked item => some item
  | absent => none
  | released => none

/-- `f` applied to the resource, where it still exists. -/
def Custody.map {α β : Type} (f : α → β) : Custody α → Custody β
  | held item => held (f item)
  | leaked item => leaked (f item)
  | absent => absent
  | released => released

/-- The state of a run on a rig with states from `σ`. -/
structure RunState (σ : Type) where
  rig : σ
  mailbox : Mailbox
  phase : Phase
  camera : Option Handle
  context : Custody Handler
  buffer : Custody FrameBuffer
  /-- Whether the camera may call the handler. -/
  registered : Bool
  /-- Whether everything has been given back. -/
  tornDown : Bool
  /-- What has happened, in order. -/
  past : Array RunStep

namespace RunState

variable {σ : Type}

/-- The state in which a run begins. -/
def initial (rig : σ) (mailbox : Mailbox) : RunState σ :=
  ⟨rig, mailbox, .idle, none, .absent, .absent, false, false, #[]⟩

/-- One step more. -/
def step (s : RunState σ) (e : RunStep) : RunState σ := { s with past := s.past.push e }

/-- One more entry of the record. -/
def note (s : RunState σ) (e : RecordEntry) : RunState σ := s.step (.noted e)

/-- One more event of the record. -/
def log (s : RunState σ) (e : RunEvent) : RunState σ := s.note (.event e)

/-- The calls made and the events logged, in order. -/
def record (s : RunState σ) : Array RecordEntry := s.past.filterMap RunStep.entry?

end RunState

/-- An action of a run. -/
abbrev Act (σ α : Type) := StateM (RunState σ) α

namespace Act

variable {σ α : Type}

/-- Logs an event. -/
def log (e : RunEvent) : Act σ Unit := modify (·.log e)

/-- Asks the rig. -/
def ask (question : StateM σ α) : Act σ α := fun s =>
  let (answer, rig) := question s.rig
  (answer, { s with rig := rig })

/-- Fetches the latest frame, as a call of its own. -/
def fetch (rig : Rig σ) (camera : Handle) : Act σ Fetched := do
  modify (·.note (.call (.fetch camera)))
  ask (rig.fetch camera)

/-- Fetches the frame of a notification, and keeps what becomes of it. -/
def fetchFor (rig : Rig σ) (handler : Handler) (n : Notification) : Act σ Fetched := do
  let answer ← fetch rig handler.camera
  modify (·.step (.handled n answer (n.info.bind (handler.descriptor? · answer))))
  return answer

/-- Hands a notification to the handler, if the camera may call it. -/
def receive (rig : Rig σ) (n : Notification) : Act σ Unit := fun s =>
  if s.registered then
    match s.context.live? with
    | none => ((), s.step (.strayed n))
    | some handler =>
      let (r, s) := Receiver.receive (fetchFor rig handler n) n ⟨handler, s.mailbox⟩ s
      ((), { s with mailbox := r.mailbox, context := s.context.map fun _ => r.handler })
  else ((), s)

/-- Lets the camera come to its next frame. -/
def deliverTick (rig : Rig σ) : Act σ Unit := do
  match ← ask rig.tick with
  | some notification => receive rig notification
  | none => pure ()

/-- Lets the camera come to `n` frames. -/
def deliverTicks (rig : Rig σ) : Nat → Act σ Unit
  | 0 => pure ()
  | n + 1 => do
    deliverTick rig
    deliverTicks rig n

/-- Lets in the notifications of a moment. -/
def deliver (rig : Rig σ) (m : Moment) : Act σ Unit := do
  deliverTicks rig (← ask (rig.arrivals m))

/-- The error of an answer. -/
def failure? {ε : Type} : Except ε α → Option ε
  | .ok _ => none
  | .error e => some e

/-- Makes a call, with the notifications before and after it takes effect. -/
def call (rig : Rig σ) (c : CameraCall) (effect : StateM σ (Except CameraError α)) :
    Act σ (Except CameraError α) := do
  modify (·.note (.call c))
  deliver rig (.before c)
  let answer ← ask effect
  deliver rig (.after c)
  modify (·.step (.answered c (failure? answer)))
  return answer

/-- Goes on to another phase. -/
def enter (target : Phase) : Act σ Unit := do
  log (.transition (← get).phase target)
  modify fun s => { s with phase := target }

end Act

end FrameWatch
