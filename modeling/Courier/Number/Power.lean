/-
Powers of whole numbers. Every `b ^ n` of naturals or of integers is the power
of the core library, also in a module where monoids offer a power of their own:
`omega` and the lemmas on powers are about that one.
-/

attribute [instance (2000)] instPowNat
attribute [default_instance 20000] instPowNat
