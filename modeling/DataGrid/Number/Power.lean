/-!
# Powers

The powers of natural numbers and integers in this library are the built-in ones, also where
another instance of them is in scope.
-/

attribute [instance (high), default_instance high + 1] instPowNat
