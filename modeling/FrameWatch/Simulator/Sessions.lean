import FrameWatch.Camera.Frame
import FrameWatch.Camera.Handle

/-!
# Sessions of the simulated camera

What the simulated camera keeps for every open handle, and the table of open handles.
-/

namespace FrameWatch

/-- Frames that were announced and not fetched yet. -/
structure ReadyQueue where
  pending : Nat
  /-- The newest frame. -/
  latest : Option LatestFrame
deriving DecidableEq, Repr

/-- Nothing announced yet. -/
def ReadyQueue.empty : ReadyQueue := ⟨0, none⟩

/-- A running acquisition. -/
structure Acquisition where
  /-- The number of the last frame taken. -/
  frame : Nat
  /-- The address of the buffer. -/
  base : Nat
  frameBytes : Nat
  /-- Frames that fit into the buffer. -/
  slots : Nat
deriving DecidableEq, Repr

/-- The place in the buffer of frame `frame`. -/
def Acquisition.address (a : Acquisition) (frame : Nat) : Nat :=
  a.base + (frame - 1) % max a.slots 1 * a.frameBytes

/-- What is kept for an open handle. -/
structure CameraSession where
  /-- The bytes of a frame, once they are agreed on. -/
  frameBytes : Option Nat
  /-- The token of the registered callback. -/
  registration : Option Nat
  queue : ReadyQueue
  acquisition : Option Acquisition
deriving DecidableEq, Repr

/-- The session of a handle just opened. -/
def CameraSession.fresh : CameraSession := ⟨none, none, .empty, none⟩

/-- The sessions of the open handles. -/
abbrev SessionTable : Type := List (Handle × CameraSession)

namespace SessionTable

/-- The session of an open handle. -/
def get? : SessionTable → Handle → Option CameraSession
  | [], _ => none
  | (key, s) :: rest, h => if key = h then some s else get? rest h

/-- The table with a session for a handle, in place of any other. -/
def insert (t : SessionTable) (h : Handle) (s : CameraSession) : SessionTable := (h, s) :: t

/-- The table with the session of a handle changed, if it has one. -/
def modify (t : SessionTable) (h : Handle) (f : CameraSession → CameraSession) : SessionTable :=
  t.map fun e => if e.1 = h then (e.1, f e.2) else e

/-- The table without a handle. -/
def erase (t : SessionTable) (h : Handle) : SessionTable := t.filter fun e => e.1 != h

@[simp] theorem get?_nil (h : Handle) : get? [] h = none := rfl

@[simp] theorem get?_cons (t : SessionTable) (key h : Handle) (s : CameraSession) :
    get? ((key, s) :: t) h = if key = h then some s else get? t h := rfl

theorem get?_insert (t : SessionTable) (h k : Handle) (s : CameraSession) :
    (t.insert h s).get? k = if h = k then some s else t.get? k := rfl

theorem get?_modify (t : SessionTable) (h k : Handle) (f : CameraSession → CameraSession) :
    (t.modify h f).get? k = if h = k then (t.get? k).map f else t.get? k := by
  induction t with
  | nil => simp [modify]
  | cons e t ih =>
    obtain ⟨key, s⟩ := e
    simp only [modify, List.map_cons] at ih ⊢
    by_cases hh : key = h <;> by_cases hk : key = k <;> by_cases hk' : h = k <;> simp_all

theorem get?_erase (t : SessionTable) (h k : Handle) :
    (t.erase h).get? k = if h = k then none else t.get? k := by
  induction t with
  | nil => simp [erase]
  | cons e t ih =>
    obtain ⟨key, s⟩ := e
    simp only [erase, List.filter_cons] at ih ⊢
    by_cases hh : key = h <;> by_cases hk : key = k <;> by_cases hk' : h = k <;> simp_all

end SessionTable

end FrameWatch
