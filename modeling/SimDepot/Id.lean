/-!
# Identities

Rows are known by 64-bit signed identities, counted upwards from one. They are kept as integers;
`maxId` is the largest one a table can hold.
-/

namespace SimDepot

/-- Identity of a subscriber registry. -/
abbrev RegistryId := Int

/-- Identity of a profile vendor. -/
abbrev VendorId := Int

/-- Identity of an import batch. -/
abbrev BatchId := Int

/-- Identity of a SIM. -/
abbrev SimId := Int

/-- The largest identity a table can hold. -/
def maxId : Int := 9223372036854775807

/-- The smallest identity a table can hold. -/
def minId : Int := -9223372036854775808

/-- The largest count that a request can carry. -/
def maxCount : Nat := 18446744073709551615

end SimDepot
