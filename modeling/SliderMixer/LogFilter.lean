import SliderMixer.Frame
import SliderMixer.LogFilter.Pattern
import SliderMixer.Text.Blank
import SliderMixer.Text.Utf8

/-! # Log filters

A log filter says what is logged: directives with commas between them, such as
`info,engine=debug`.  A directive that is not understood is passed over, and the user
is told so.

* `Directive.fault?` tells why a directive is not understood, if it is not.
* `LogFilter.ignored` are the directives of a filter that are passed over.

A directive has the parts

    target [span{field}]=level

most of which may be left out.
-/

namespace SliderMixer

/-! ## Levels -/

inductive LogLevel where
  | off
  | error
  | warn
  | info
  | debug
  | trace
  deriving DecidableEq, Repr

namespace LogLevel

/-- The level of a number from 0 to 5. -/
def ofNumber? (n : Nat) : Option LogLevel := [off, error, warn, info, debug, trace][n]?

/-- The level of a name, in any case of the Latin letters. -/
def ofName? (name : String) : Option LogLevel :=
  [("off", off), ("error", error), ("warn", warn), ("info", info), ("debug", debug),
    ("trace", trace)].lookup name

/-- The level that a text names or numbers.  A number may have a plus sign. -/
def ofText? (text : List Char) : Option LogLevel :=
  let digits :=
    match text with
    | '+' :: rest => rest
    | _ => text
  if !digits.isEmpty && digits.all Char.isDigit then ofNumber? (Frame.decimal digits)
  else ofName? (String.ofList (text.map Char.toLower))

end LogLevel

/-! ## Values of fields -/

/-- What follows the first of some digits, if there are any. -/
def afterDigits? (text : List Char) : Option (List Char) :=
  match text with
  | c :: _ => if c.isDigit then some (text.dropWhile Char.isDigit) else none
  | [] => none

/-- A number, possibly with a sign, a fraction and an exponent, or the name of one that
    has no digits. -/
def isNumber (text : List Char) : Bool :=
  let body :=
    match text with
    | '+' :: rest | '-' :: rest => rest
    | _ => text
  let isExponent (text : List Char) : Bool :=
    match text with
    | [] => true
    | c :: rest =>
      let rest :=
        match rest with
        | '+' :: rest | '-' :: rest => rest
        | _ => rest
      (c == 'e' || c == 'E') && afterDigits? rest == some []
  if ["inf", "infinity", "nan"].contains (String.ofList (body.map Char.toLower)) then true
  else
    match afterDigits? body with
    | some ('.' :: rest) => isExponent (rest.dropWhile Char.isDigit)
    | some rest => isExponent rest
    | none =>
      match body with
      | '.' :: rest => (afterDigits? rest).any isExponent
      | _ => false

/-! ## Directives -/

inductive DirectiveFault where
  | malformed
  | unknownLevel
  | field (cause : PatternFault)
  /-- A part of it would begin or end inside a character. -/
  | cutCharacter
  deriving DecidableEq, Repr

def DirectiveFault.message : DirectiveFault → String
  | malformed => "invalid filter directive"
  | unknownLevel =>
    "error parsing level filter: expected one of \"off\", \"error\", \"warn\", \"info\", " ++
    "\"debug\", \"trace\", or a number 0-5"
  | field cause => "invalid field filter: " ++ cause.message
  | cutCharacter => "part of a character"

namespace Directive

/-- The part of a directive that is being read, with its begin in bytes. -/
inductive Part where
  | nothing
  | target
  | span (start : Nat)
  | field (start : Nat)
  /-- After the last field. -/
  | fields
  /-- After the span. -/
  | complete
  | level (start : Nat)
  deriving DecidableEq, Repr

/-- No character is cut at a place. -/
def isBetweenCharacters (text : List UInt8) (place : Nat) : Bool :=
  match text[place]? with
  | some b => Utf8.leadLength b ≠ 0
  | none => true

/-- The characters between two places of a directive. -/
def piece (text : List UInt8) (start stop : Nat) : Except DirectiveFault (List Char) :=
  if isBetweenCharacters text start && isBetweenCharacters text stop then
    .ok (Utf8.decodeLossy ((text.take stop).drop start)).toList
  else .error .cutCharacter

/-- Takes in a field: a name, and after an equals sign the value or the pattern it is
    compared with. -/
def checkField (field : List Char) : Except DirectiveFault Unit :=
  if field.isEmpty then .error .malformed
  else
    match field.dropWhile (· ≠ '=') with
    | [] => .ok ()
    | _ :: rest =>
      let value := rest.takeWhile (· ≠ '=')
      match Pattern.fault? value with
      | none => .ok ()
      | some cause => if isNumber value then .ok () else .error (.field cause)

/-- Characters with which a target or a level may begin. -/
def mayBegin (c : Char) : Bool := ['-', ':', '_'].contains c || CodePoint.isAlphanumeric c

/-- Takes in the character at a place. -/
def step (text : List UInt8) (part : Part) (place : Nat) (c : Char) :
    Except DirectiveFault Part := do
  match part with
  | .nothing =>
    if c = '[' then return .span (place + 1)
    else if mayBegin c then return .target
    else throw .malformed
  | .target =>
    if c = '=' then
      let _ ← piece text 0 place
      return .level (place + 1)
    else if c = '[' then
      let _ ← piece text 0 place
      return .span (place + 1)
    else return part
  | .span start =>
    if c = ']' then
      let _ ← piece text start place
      return .complete
    else if c = '\x7b' then
      let _ ← piece text start place
      return .field (place + 1)
    else return part
  | .field start =>
    if c = '\x7d' then
      checkField (← piece text start place)
      return .fields
    else return part
  | .fields => if c = ']' then return .complete else throw .malformed
  | .complete => if c = '=' then return .level (place + 1) else throw .malformed
  | .level _ => return part

/-- Takes in characters, the first of which stands at a place. -/
def steps (text : List UInt8) (part : Part) (place : Nat) :
    List Char → Except DirectiveFault Part
  | [] => .ok part
  | c :: rest =>
    match step text part place c with
    | .ok part => steps text part (place + c.utf8Size) rest
    | .error fault => .error fault

/-- The directive may end here.  A level that is left out means the highest one. -/
def finish (text : List UInt8) (part : Part) : Except DirectiveFault Unit := do
  match part with
  | .target | .complete => return ()
  | .level start =>
    let level ← piece text start text.length
    if level.isEmpty || (LogLevel.ofText? level).isSome then return () else throw .unknownLevel
  | .nothing | .span _ | .field _ | .fields => throw .malformed

/-- Reads a directive.  Blanks around it are passed over, but the places of its parts
    count as if there were none in front. -/
def read (directive : String) : Except DirectiveFault Unit := do
  let text := directive.toUTF8.toList
  finish text (← steps text .nothing 0 (trim directive.toList))

/-- Why a directive is not understood, if it is not. -/
def fault? (directive : String) : Option DirectiveFault :=
  match read directive with
  | .ok _ => none
  | .error fault => some fault

end Directive

/-! ## Filters -/

/-- A directive that is passed over. -/
structure IgnoredDirective where
  text : String
  fault : DirectiveFault
  deriving DecidableEq, Repr

def IgnoredDirective.message (d : IgnoredDirective) : String :=
  "ignoring `" ++ d.text ++ "`: " ++ d.fault.message

namespace LogFilter

/-- The directives of a filter.  Nothing between two commas is no directive. -/
def directives (filter : String) : List String := (filter.splitOn ",").filter (· ≠ "")

/-- The directives that are passed over. -/
def ignored (filter : String) : List IgnoredDirective :=
  (directives filter).filterMap fun text =>
    (Directive.fault? text).map fun fault => { text, fault }

end LogFilter

end SliderMixer
