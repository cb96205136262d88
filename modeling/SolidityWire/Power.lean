/-
Powers with natural numbers as exponents. They are those of the core library, also in modules that see powers
in other structures.
-/

namespace SolidityWire

@[default_instance 20000]
instance (priority := high) natPow {α : Type} [NatPow α] : Pow α Nat :=
  instPowNat

end SolidityWire
