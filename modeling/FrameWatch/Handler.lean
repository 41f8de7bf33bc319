import FrameWatch.Buffer
import FrameWatch.Camera.Error
import FrameWatch.Camera.Frame
import FrameWatch.Camera.Handle
import FrameWatch.Mailbox

/-!
# The notification handler

What happens when the camera announces a frame. A notification without frame data or context is
ignored. Every other one is counted, compared with the frame number before it, answered with one
fetch, and put into the mailbox unless the fetch broke off.
-/

namespace FrameWatch

/-- How an attempt to fetch the latest frame ended. -/
inductive Fetched
  /-- The frame begins at this address. -/
  | frame (address : Nat)
  | failed (e : CameraError)
  /-- The camera broke off inside the call. -/
  | crashed
deriving DecidableEq

/-- What a handler has counted. -/
structure HandlerCounters where
  /-- Notifications with frame data. -/
  handled : Nat
  /-- Notifications whose frame could not be fetched. -/
  degraded : Nat
  /-- Jumps in the frame number. -/
  gapEvents : Nat
  /-- Frame numbers left out in all jumps. -/
  lostFrames : Nat
deriving DecidableEq, Repr

/-- Nothing counted yet. -/
def HandlerCounters.zero : HandlerCounters := ⟨0, 0, 0, 0⟩

/-- The context of a registered callback. -/
structure Handler where
  camera : Handle
  /-- The address of the buffer. -/
  base : Nat
  /-- The bytes of the buffer. -/
  size : Nat
  /-- The frame number of the last notification. -/
  lastNumber : Int
  counters : HandlerCounters
deriving DecidableEq

namespace Handler

/-- The handler for a fresh acquisition into a buffer. -/
def ofBuffer (camera : Handle) (buffer : FrameBuffer) : Handler :=
  ⟨camera, buffer.base, buffer.size, 0, .zero⟩

/-- The handler as it was before any notification. -/
def pristine (h : Handler) : Handler := { h with lastNumber := 0, counters := .zero }

/-- The number that follows `n`; the greatest frame number follows itself. -/
def successor (n : Int) : Int := min (n + 1) maxFrameNumber

/-- Whether frame numbers were left out before `number`. The first frame has none before it. -/
def isGap (h : Handler) (number : Int) : Bool :=
  0 < h.counters.handled && successor h.lastNumber < number

/-- Counts a notification about frame `number`. -/
def count (h : Handler) (number : Int) : Handler :=
  let gap := h.isGap number
  { h with
    lastNumber := number
    counters :=
      { h.counters with
        handled := h.counters.handled + 1
        gapEvents := if gap then h.counters.gapEvents + 1 else h.counters.gapEvents
        lostFrames :=
          if gap then h.counters.lostFrames + (number - h.lastNumber - 1).toNat
          else h.counters.lostFrames } }

/-- What is put into the mailbox about a frame. -/
def descriptor? (h : Handler) (info : FrameInfo) : Fetched → Option FrameDescriptor
  | .frame address =>
    some ⟨info.number, info.timestamp, FrameBuffer.offsetIn h.base h.size address, false⟩
  | .failed _ => some ⟨info.number, info.timestamp, none, true⟩
  | .crashed => none

/-- Counts a frame that could not be fetched. -/
def noteFetch (h : Handler) : Fetched → Handler
  | .failed _ => { h with counters := { h.counters with degraded := h.counters.degraded + 1 } }
  | _ => h

end Handler

/-- A handler together with the mailbox that it fills. -/
structure Receiver where
  handler : Handler
  mailbox : Mailbox
deriving DecidableEq

namespace Receiver

/-- Handles a frame that was fetched in this way. -/
def handle (r : Receiver) (info : FrameInfo) (answer : Fetched) : Receiver where
  handler := (r.handler.count info.number).noteFetch answer
  mailbox := (r.handler.descriptor? info answer).elim r.mailbox r.mailbox.signal

/-- Receives a notification; `fetch` is how the latest frame is fetched, once for every
notification that is not ignored. -/
def receive {σ : Type} (fetch : σ → Fetched × σ) (n : Notification) (r : Receiver) (s : σ) :
    Receiver × σ :=
  match n.info, n.hasContext with
  | some info, true =>
    let (answer, s) := fetch s
    (r.handle info answer, s)
  | _, _ => (r, s)

end Receiver

end FrameWatch
