/-! # Sets of code points

A property of characters is a table of closed ranges of code points.

* `CodePoint.Table` is such a table and `CodePoint.Table.has` its membership test.
-/

namespace SliderMixer.CodePoint

/-- Closed ranges of code points, in ascending order. -/
abbrev Table := Array (Nat × Nat)

/-- The character's code point lies in one of the ranges. -/
def Table.has (table : Table) (c : Char) : Bool :=
  table.any fun (first, last) => first ≤ c.toNat && c.toNat ≤ last

end SliderMixer.CodePoint
