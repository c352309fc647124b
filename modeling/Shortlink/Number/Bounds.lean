/-!
# Bounds

The greatest numbers that fit in words of 32 and of 64 bits, with a sign and without.
-/

namespace Shortlink.Number

/-- The greatest number of 31 bits, which is the greatest signed one of 32. -/
def maxSigned32 : Nat := 0x7FFFFFFF

/-- The greatest number of 32 bits. -/
def maxWord32 : Nat := 0xFFFFFFFF

/-- The greatest number of 63 bits, which is the greatest signed one of 64. -/
def maxSigned64 : Nat := 0x7FFFFFFFFFFFFFFF

/-- The greatest number of 64 bits. -/
def maxWord64 : Nat := 0xFFFFFFFFFFFFFFFF

end Shortlink.Number
