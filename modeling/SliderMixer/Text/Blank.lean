/-! # Blank characters

* `isBlank` is the Unicode property `White_Space`.
* `trim` removes blank characters from both ends.
-/

namespace SliderMixer

/-- The Unicode property `White_Space`. -/
def isBlank (c : Char) : Bool :=
  let n := c.toNat
  (0x9 ≤ n && n ≤ 0xd) || n == 0x20 || n == 0x85 || n == 0xa0 || n == 0x1680
    || (0x2000 ≤ n && n ≤ 0x200a) || n == 0x2028 || n == 0x2029 || n == 0x202f
    || n == 0x205f || n == 0x3000

def trimStart (text : List Char) : List Char := text.dropWhile isBlank

/-- The characters without leading and trailing blank ones. -/
def trim (text : List Char) : List Char :=
  (trimStart (trimStart text).reverse).reverse

/-- The text without leading and trailing blank characters. -/
def trimmed (text : String) : String := String.ofList (trim text.toList)

end SliderMixer
