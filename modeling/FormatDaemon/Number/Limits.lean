/-!
# Limits of machine integers

* `nat64`: naturals of 64 bits lie below it.
* `int64`, `int32`: integers of 64 or 32 bits lie below it, and not below its negation.
-/

namespace FormatDaemon.Limit

/-- Naturals of 64 bits lie below it. -/
def nat64 : Nat := Nat.pow 2 64

/-- Integers of 64 bits lie below it, and not below its negation. -/
def int64 : Nat := Nat.pow 2 63

/-- Integers of 32 bits lie below it, and not below its negation. -/
def int32 : Nat := Nat.pow 2 31

end FormatDaemon.Limit
