/-!
# Powers

An algebra library brings a power of its own, defined for every monoid. Here `^` means the core
library's power of natural numbers and integers, whether or not such a library is imported too.
-/

-- The priority is above the one with which the monoid's power is picked for a numeral.
attribute [instance (20000), default_instance (20000)] instPowNat
