/-!
# Tables of characters

A class of characters that no formula describes is stored as a list of closed intervals of code
points.  Membership scans the intervals from left to right.
-/

namespace RecordExtraction

/-- A class of characters as closed intervals of code points, in increasing order. -/
structure CharTable where
  intervals : List (Nat × Nat)

namespace CharTable

/-- A character belongs to the table when one of the intervals covers its code point. -/
def contains (table : CharTable) (c : Char) : Bool :=
  table.intervals.any fun interval => interval.1 ≤ c.toNat && c.toNat ≤ interval.2

end CharTable
end RecordExtraction
