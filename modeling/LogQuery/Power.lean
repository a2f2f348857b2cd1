/-!
# Power — powers with natural exponents

The power of a natural number or an integer is the one that the type brings itself, also where a
library of algebra defines powers for every monoid.
-/

attribute [instance (2000)] instPowNat
attribute [default_instance 20000] instPowNat
