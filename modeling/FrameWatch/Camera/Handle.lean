/-!
# Camera handles

The number that stands for an open camera: a signed word of sixteen bits, so numbers come round
again after 65536 cameras.
-/

namespace FrameWatch

/-- The number of an open camera. -/
structure Handle where
  raw : Int
deriving DecidableEq, Repr, Hashable

/-- The handle for the camera opened after `n` others. -/
def Handle.ofCount (n : Nat) : Handle := ⟨Int.bmod n 65536⟩

end FrameWatch
