/-!
# Powers

The powers that bounds and scales are made of.
-/

set_option autoImplicit false

namespace SessionSync

/-- Two to a power. -/
abbrev twoTo (exponent : Nat) : Nat := Nat.pow 2 exponent

/-- Five to a power. -/
abbrev fiveTo (exponent : Nat) : Nat := Nat.pow 5 exponent

/-- Ten to a power. -/
abbrev tenTo (exponent : Nat) : Nat := Nat.pow 10 exponent

/-! ## Bounds of words -/

/-- The largest natural number of 32 bits. -/
def halfWordMax : Nat := twoTo 32 - 1

/-- The largest natural number of 64 bits. -/
def wordMax : Nat := twoTo 64 - 1

/-- The smallest integer of 64 bits. -/
def signedMin : Int := -(twoTo 63 : Int)

/-- The largest integer of 64 bits. -/
def signedMax : Int := (twoTo 63 : Int) - 1

end SessionSync
