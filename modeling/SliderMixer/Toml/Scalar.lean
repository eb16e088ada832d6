import SliderMixer.Toml.Value

/-! # Words, strings and numbers of a settings file

The pieces of TOML 1.0 that contain no other value.

* `Toml.key` reads a bare or quoted key.
* `Toml.quotedText` reads the four kinds of strings.
* `Toml.number` reads integers, fractions, dates and times.

A reader takes the characters that are left and gives what it read and the rest.
-/

namespace SliderMixer.Toml

/-- Reads something from the front of the text, or refuses the whole text. -/
abbrev Reader (α : Type) := List Char → Option (α × List Char)

/-! ## Characters -/

def isSpace (c : Char) : Bool := c == ' ' || c == '\t'

/-- Characters that may stand in a comment: no control character but the tab. -/
def isCommentChar (c : Char) : Bool := c == '\t' || (0x20 ≤ c.toNat && c.toNat != 0x7f)

/-- Characters of a bare key. -/
def isBareChar (c : Char) : Bool := c.isAlphanum || c == '-' || c == '_'

/-- Characters that stand for themselves between double quotes. -/
def isPlainChar (c : Char) : Bool := isCommentChar c && c != '"' && c != '\\'

/-- Characters that may stand between single quotes. -/
def isLiteralChar (c : Char) : Bool := isCommentChar c && c != '\''

def isHexDigit (c : Char) : Bool :=
  c.isDigit || ('a' ≤ c && c ≤ 'f') || ('A' ≤ c && c ≤ 'F')

def digitValue (c : Char) : Nat :=
  if c.isDigit then c.toNat - '0'.toNat
  else if 'a' ≤ c && c ≤ 'f' then c.toNat - 'a'.toNat + 10
  else c.toNat - 'A'.toNat + 10

/-- The number that digits of a base stand for. -/
def digitsValue (base : Nat) (digits : List Char) : Nat :=
  digits.foldl (fun n c => base * n + digitValue c) 0

/-! ## Space, comments and line ends -/

def skipSpace (text : List Char) : List Char := text.dropWhile isSpace

/-- The text after a line end, if it starts with one. -/
def lineEnd? : List Char → Option (List Char)
  | '\n' :: rest => some rest
  | '\r' :: '\n' :: rest => some rest
  | _ => none

/-- What may follow on a line: space, a comment, and the end of the line or text. -/
def restOfLine (text : List Char) : Option (List Char) :=
  let text := skipSpace text
  let text :=
    match text with
    | '#' :: comment => comment.dropWhile isCommentChar
    | _ => text
  match text with
  | [] => some []
  | _ => lineEnd? text

/-- Skips space, comments and line ends; `inComment` while inside a comment. -/
def skipBlank (inComment : Bool) : List Char → Option (List Char)
  | [] => if inComment then none else some []
  | '\n' :: rest => skipBlank false rest
  | '\r' :: '\n' :: rest => skipBlank false rest
  | c :: rest =>
    if inComment then
      if isCommentChar c then skipBlank true rest else none
    else if isSpace c then skipBlank false rest
    else if c = '#' then skipBlank true rest
    else some (c :: rest)

/-! ## Strings -/

/-- The character of a code point written in hexadecimal; surrogates and values
    beyond the last code point have none. -/
def escapedChar? (digits : List Char) : Option Char :=
  if digits.all isHexDigit then
    let n := digitsValue 16 digits
    if n.isValidChar then some (Char.ofNat n) else none
  else none

/-- The characters after a backslash, as the character they stand for. -/
def escape : Reader Char
  | 'b' :: rest => some ('\x08', rest)
  | 'f' :: rest => some ('\x0c', rest)
  | 'n' :: rest => some ('\n', rest)
  | 'r' :: rest => some ('\r', rest)
  | 't' :: rest => some ('\t', rest)
  | '"' :: rest => some ('"', rest)
  | '\\' :: rest => some ('\\', rest)
  | 'u' :: a :: b :: c :: d :: rest =>
    (escapedChar? [a, b, c, d]).map fun x => (x, rest)
  | 'U' :: a :: b :: c :: d :: e :: f :: g :: h :: rest =>
    (escapedChar? [a, b, c, d, e, f, g, h]).map fun x => (x, rest)
  | _ => none

/-- The rest of a double-quoted string; `fuel` bounds its characters. -/
def basicText : Nat → Reader (List Char)
  | 0, _ => none
  | _, [] => none
  | _, '"' :: rest => some ([], rest)
  | fuel + 1, '\\' :: rest => do
    let (c, rest) ← escape rest
    let (cs, rest) ← basicText fuel rest
    return (c :: cs, rest)
  | fuel + 1, c :: rest =>
    if isPlainChar c then (basicText fuel rest).map fun (cs, rest) => (c :: cs, rest)
    else none

/-- The rest of a single-quoted string. -/
def literalText (text : List Char) : Option (List Char × List Char) :=
  match text.dropWhile isLiteralChar with
  | '\'' :: rest => some (text.takeWhile isLiteralChar, rest)
  | _ => none

/-- A run of quotes inside a string of several lines: up to two belong to the string,
    three close it.  Gives the quotes that belong to the string, and whether it ends
    there. -/
def quoteRun (quote : Char) (text : List Char) : List Char × Bool × List Char :=
  let count := (text.takeWhile (· == quote)).length
  if count < 3 then (List.replicate count quote, false, text.drop count)
  else
    let own := min (count - 3) 2
    (List.replicate own quote, true, text.drop (own + 3))

/-- The rest of a double-quoted string of several lines. -/
def basicLines : Nat → Reader (List Char)
  | 0, _ => none
  | _, [] => none
  | fuel + 1, '"' :: rest =>
    match quoteRun '"' ('"' :: rest) with
    | (own, true, rest) => some (own, rest)
    | (own, false, rest) => (basicLines fuel rest).map fun (cs, rest) => (own ++ cs, rest)
  | fuel + 1, '\\' :: rest =>
    match lineEnd? (skipSpace rest) with
    | some rest =>
      basicLines fuel (skipLineSpace rest)
    | none => do
      let (c, rest) ← escape rest
      let (cs, rest) ← basicLines fuel rest
      return (c :: cs, rest)
  | fuel + 1, '\r' :: '\n' :: rest =>
    (basicLines fuel rest).map fun (cs, rest) => ('\n' :: cs, rest)
  | fuel + 1, c :: rest =>
    if isPlainChar c || c == '\n' then
      (basicLines fuel rest).map fun (cs, rest) => (c :: cs, rest)
    else none
where
  /-- Skips space and line ends. -/
  skipLineSpace : List Char → List Char
    | '\n' :: rest => skipLineSpace rest
    | '\r' :: '\n' :: rest => skipLineSpace rest
    | c :: rest => if isSpace c then skipLineSpace rest else c :: rest
    | [] => []

/-- The rest of a single-quoted string of several lines. -/
def literalLines : Nat → Reader (List Char)
  | 0, _ => none
  | _, [] => none
  | fuel + 1, '\'' :: rest =>
    match quoteRun '\'' ('\'' :: rest) with
    | (own, true, rest) => some (own, rest)
    | (own, false, rest) => (literalLines fuel rest).map fun (cs, rest) => (own ++ cs, rest)
  | fuel + 1, '\r' :: '\n' :: rest =>
    (literalLines fuel rest).map fun (cs, rest) => ('\n' :: cs, rest)
  | fuel + 1, c :: rest =>
    if isLiteralChar c || c == '\n' then
      (literalLines fuel rest).map fun (cs, rest) => (c :: cs, rest)
    else none

/-- The text without a line end at its front: the one after the opening quotes does
    not belong to the string. -/
def skipLineEnd (text : List Char) : List Char := (lineEnd? text).getD text

/-- A string of any kind. -/
def quotedText (text : List Char) : Option (String × List Char) :=
  let read :=
    match text with
    | '"' :: '"' :: '"' :: rest => basicLines (rest.length + 1) (skipLineEnd rest)
    | '"' :: rest => basicText (rest.length + 1) rest
    | '\'' :: '\'' :: '\'' :: rest => literalLines (rest.length + 1) (skipLineEnd rest)
    | '\'' :: rest => literalText rest
    | _ => none
  read.map fun (cs, rest) => (String.ofList cs, rest)

/-! ## Keys -/

/-- One key: bare, or a string of one line. -/
def key (text : List Char) : Option (String × List Char) :=
  match text with
  | '"' :: rest => (basicText (rest.length + 1) rest).map fun (cs, rest) => (String.ofList cs, rest)
  | '\'' :: rest => (literalText rest).map fun (cs, rest) => (String.ofList cs, rest)
  | _ =>
    match text.takeWhile isBareChar with
    | [] => none
    | word => some (String.ofList word, text.dropWhile isBareChar)

/-- Keys with dots between them; `fuel` bounds their number. -/
def keyPath : Nat → Reader (List String)
  | 0, _ => none
  | fuel + 1, text => do
    let (k, rest) ← key (skipSpace text)
    match skipSpace rest with
    | '.' :: rest =>
      let (ks, rest) ← keyPath fuel rest
      return (k :: ks, rest)
    | rest => return ([k], rest)

/-! ## Numbers, dates and times -/

/-- What a reader of one kind of number makes of a text. -/
inductive Attempt where
  | read (value : Value) (rest : List Char)
  /-- Some other kind may be meant. -/
  | otherKind
  /-- Begins as this kind and goes wrong. -/
  | malformed

/-- Digits, with single underscores between them, after the first digit. -/
def moreDigits (isDigit : Char → Bool) : Reader (List Char)
  | [] => some ([], [])
  | '_' :: c :: rest =>
    if isDigit c then (moreDigits isDigit rest).map fun (cs, rest) => (c :: cs, rest) else none
  | c :: rest =>
    if c = '_' then none
    else if isDigit c then (moreDigits isDigit rest).map fun (cs, rest) => (c :: cs, rest)
    else some ([], c :: rest)

/-- At least one digit. -/
def someDigits (isDigit : Char → Bool) : Reader (List Char)
  | [] => none
  | c :: rest =>
    if isDigit c then (moreDigits isDigit rest).map fun (cs, rest) => (c :: cs, rest) else none

/-- A sign, if there is one; true for minus. -/
def sign : List Char → Bool × List Char
  | '+' :: rest => (false, rest)
  | '-' :: rest => (true, rest)
  | text => (false, text)

/-- Whole digits without a leading zero.  `none`: not digits at all; `some none`: a
    misplaced underscore. -/
def wholeDigits (text : List Char) : Option (Option (List Char × List Char)) :=
  match text with
  | '0' :: rest => some (some (['0'], rest))
  | c :: _ => if c.isDigit then some (someDigits Char.isDigit text) else none
  | [] => none

/-- Exactly `count` digits, as a number. -/
def fixedDigits (count : Nat) (text : List Char) : Option (Nat × List Char) :=
  let digits := text.take count
  if digits.length = count ∧ digits.all Char.isDigit then
    some (digitsValue 10 digits, text.drop count)
  else none

/-- Two digits between `low` and `high`. -/
def twoDigits (low high : Nat) (text : List Char) : Option (Nat × List Char) :=
  match fixedDigits 2 text with
  | some (n, rest) => if low ≤ n ∧ n ≤ high then some (n, rest) else none
  | none => none

/-- The days of a month. -/
def daysIn (year month : Nat) : Nat :=
  let leap := year % 4 = 0 ∧ (year % 100 ≠ 0 ∨ year % 400 = 0)
  if month = 2 then (if leap then 29 else 28)
  else if month = 4 ∨ month = 6 ∨ month = 9 ∨ month = 11 then 30
  else 31

/-- A number with at least `width` digits. -/
def padded (width n : Nat) : String :=
  let digits := Nat.toDigits 10 n
  String.ofList (List.replicate (width - digits.length) '0' ++ digits)

/-- Two numbers, or three, of two digits each. -/
def colons (parts : List Nat) : String := ":".intercalate (parts.map (padded 2))

/-- How many digits of a fraction of a second count. -/
def secondPlaces : Nat := 9

/-- A fraction of a second, if there is one, without zeros at its end. -/
def secondFraction (text : List Char) : String × List Char :=
  match text with
  | '.' :: c :: rest =>
    if c.isDigit then
      let places := (c :: rest.takeWhile Char.isDigit).take secondPlaces
      -- zeros at the end are not written
      let places := (places.reverse.dropWhile (· == '0')).reverse
      (if places.isEmpty then "" else String.ofList ('.' :: places), rest.dropWhile Char.isDigit)
    else ("", text)
  | _ => ("", text)

/-- What a reader of one part of a date makes of a text: the part as it is usually
    written. -/
inductive MomentPart where
  | read (written : String) (rest : List Char)
  /-- The part is not there. -/
  | absent
  /-- The part begins and goes wrong. -/
  | malformed

/-- A time of day. -/
def timeOfDay (text : List Char) : MomentPart :=
  match twoDigits 0 23 text with
  | some (hour, ':' :: rest) =>
    match twoDigits 0 59 rest with
    | some (minute, ':' :: rest) =>
      match twoDigits 0 60 rest with
      | some (second, rest) =>
        let (places, rest) := secondFraction rest
        .read (colons [hour, minute, second] ++ places) rest
      | none => .malformed
    | _ => .malformed
  | _ => .absent

/-- A distance from universal time.  None at all counts as one to the east. -/
def offset (text : List Char) : MomentPart :=
  let distance (west : Bool) (rest : List Char) : MomentPart :=
    match twoDigits 0 23 rest with
    | some (hours, ':' :: rest) =>
      match twoDigits 0 59 rest with
      | some (minutes, rest) =>
        let mark := if west ∧ (hours, minutes) ≠ (0, 0) then "-" else "+"
        .read (mark ++ colons [hours, minutes]) rest
      | none => .malformed
    | _ => .malformed
  match text with
  | 'Z' :: rest | 'z' :: rest => .read "Z" rest
  | '+' :: rest => distance false rest
  | '-' :: rest => distance true rest
  | _ => .absent

/-- The time of day that may follow a date. -/
def timeAfterDate (text : List Char) : MomentPart :=
  match text with
  | c :: rest =>
    if c = 'T' ∨ c = 't' ∨ c = ' ' then
      match timeOfDay rest with
      | .read time rest =>
        match offset rest with
        | .read distance rest => .read ("T" ++ time ++ distance) rest
        | .absent => .read ("T" ++ time) rest
        | .malformed => .malformed
      | part => part
    else .absent
  | [] => .absent

def time (text : List Char) : Attempt :=
  match timeOfDay text with
  | .read written rest => .read (.moment written) rest
  | .absent => .otherKind
  | .malformed => .malformed

/-- A date, with or without a time of day. -/
def date (text : List Char) : Attempt :=
  match fixedDigits 4 text with
  | some (year, '-' :: rest) =>
    match twoDigits 1 12 rest with
    | some (month, '-' :: rest) =>
      match twoDigits 1 31 rest with
      | some (day, rest) =>
        if day ≤ daysIn year month then
          let written := padded 4 year ++ "-" ++ padded 2 month ++ "-" ++ padded 2 day
          match timeAfterDate rest with
          | .read time rest => .read (.moment (written ++ time)) rest
          | .absent => .read (.moment written) rest
          | .malformed => .malformed
        else .malformed
      | none => .malformed
    | _ => .malformed
  | _ => .otherKind

/-- The decimal `digits * 10 ^ power` is too large for a double: it is at least the
    middle between the largest double and the next power of two.  The number of
    digits settles the clear cases. -/
def exceedsDouble (digits : List Char) (power : Int) : Bool :=
  let n := digitsValue 10 digits
  let size : Int := (Nat.toDigits 10 n).length + power
  if n = 0 ∨ size < 300 then false
  else if 400 < size then true
  else
    let limit := ((1 <<< 54) - 1) <<< 970
    if 0 ≤ power then limit ≤ n * Nat.pow 10 power.toNat
    else limit * Nat.pow 10 power.natAbs ≤ n

/-- An exponent: digits with a sign, possibly with leading zeros. -/
def exponent (text : List Char) : Option (Int × List Char) :=
  let (minus, rest) := sign text
  (someDigits Char.isDigit rest).map fun (digits, rest) =>
    let n : Int := digitsValue 10 digits
    (if minus then -n else n, rest)

/-- A number with a fraction or an exponent. -/
def fraction (text : List Char) : Attempt :=
  let (minus, body) := sign text
  let finish (digits : List Char) (power : Int) (rest : List Char) : Attempt :=
    if !minus && exceedsDouble digits power then .malformed else .read .other rest
  let withExponent (digits : List Char) (power : Int) (rest : List Char) : Attempt :=
    match exponent rest with
    | some (e, rest) => finish digits (power + e) rest
    | none => .malformed
  match wholeDigits body with
  | none => .otherKind
  | some none => .malformed
  | some (some (whole, rest)) =>
    match rest with
    | 'e' :: rest | 'E' :: rest => withExponent whole 0 rest
    | '.' :: rest =>
      match someDigits Char.isDigit rest with
      | none => .malformed
      | some (places, rest) =>
        let digits := whole ++ places
        let power : Int := -places.length
        match rest with
        | 'e' :: rest | 'E' :: rest => withExponent digits power rest
        | _ => finish digits power rest
    | _ => .otherKind

/-- An infinity or a missing value, with a sign or without. -/
def specialNumber (text : List Char) : Attempt :=
  match (sign text).2 with
  | 'i' :: 'n' :: 'f' :: rest => .read .other rest
  | 'n' :: 'a' :: 'n' :: rest => .read .other rest
  | _ => .otherKind

/-- The integer, if it fits into 64 bits with a sign. -/
def integerValue? (n : Int) : Option Value :=
  if Int64.minValue.toInt ≤ n ∧ n ≤ Int64.maxValue.toInt then some (.integer n) else none

/-- An integer in a base other than ten. -/
def basedInteger (base : Nat) (isDigit : Char → Bool) (text : List Char) : Attempt :=
  match someDigits isDigit text with
  | some (digits, rest) =>
    match integerValue? (digitsValue base digits) with
    | some v => .read v rest
    | none => .malformed
  | none => .malformed

def integer (text : List Char) : Attempt :=
  match text with
  | '0' :: 'x' :: rest => basedInteger 16 isHexDigit rest
  | '0' :: 'o' :: rest => basedInteger 8 (fun c => '0' ≤ c && c ≤ '7') rest
  | '0' :: 'b' :: rest => basedInteger 2 (fun c => c == '0' || c == '1') rest
  | _ =>
    let (minus, body) := sign text
    match wholeDigits body with
    | some (some (digits, rest)) =>
      let n : Int := digitsValue 10 digits
      match integerValue? (if minus then -n else n) with
      | some v => .read v rest
      | none => .malformed
    | _ => .malformed

/-- The first kind in the list that takes the text. -/
def firstKind (kinds : List (List Char → Attempt)) (text : List Char) : Option (Value × List Char) :=
  match kinds with
  | [] => none
  | kind :: others =>
    match kind text with
    | .read v rest => some (v, rest)
    | .otherKind => firstKind others text
    | .malformed => none

/-- Whatever starts with a sign or a digit. -/
def number (text : List Char) : Option (Value × List Char) :=
  firstKind [date, time, fraction, specialNumber, integer] text

end SliderMixer.Toml
