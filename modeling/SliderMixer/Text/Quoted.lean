import SliderMixer.Text.CodePoint.Printable

/-! # Quoted text

Text inside a message stands between double quotes, with everything that would not
be seen spelled out.

* `quoteChar` spells one character.
* `quoted` is the whole text in quotes.
-/

namespace SliderMixer

/-- One character inside quotes: the usual escapes, code points in hexadecimal for
    what is not printable or attaches to its neighbour, and all else as it is. -/
def quoteChar (c : Char) : List Char :=
  if c = '"' then ['\\', '"']
  else if c = '\\' then ['\\', '\\']
  else if c = '\t' then ['\\', 't']
  else if c = '\r' then ['\\', 'r']
  else if c = '\n' then ['\\', 'n']
  else if c.toNat = 0 then ['\\', '0']
  else if CodePoint.unprintable.has c || CodePoint.combining.has c then
    ['\\', 'u', '\x7b'] ++ Nat.toDigits 16 c.toNat ++ ['\x7d']
  else [c]

def quoted (text : String) : String :=
  String.ofList ('"' :: text.toList.flatMap quoteChar ++ ['"'])

end SliderMixer
