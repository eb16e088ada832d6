/-! # Command line

The words after the program's name, and the variables that stand in for some of them.

* `CommandLine.read` takes the words from left to right.  A question for help or for
  the version is answered at once, whatever follows; a mistake before it wins.
* `CommandLine.withEnvironment` fills in what only the environment gives.
* `CommandLine.parse` does both.
-/

namespace SliderMixer

/-! ## What can be said -/

/-- The audio systems that can be chosen. -/
inductive AudioChoice where
  /-- Sessions in memory. -/
  | memory
  /-- The audio system of the platform. -/
  | native
  deriving DecidableEq, Repr

/-- What is left open is `none`. -/
structure CommandLine where
  settingsPath : Option String := none
  port : Option String := none
  audio : Option AudioChoice := none
  verbose : Bool := false
  deriving DecidableEq, Repr, Inhabited

inductive Invocation where
  | help
  | version
  | run (c : CommandLine)
  deriving DecidableEq, Repr

structure Environment where
  settingsPath : Option String := none
  port : Option String := none
  configHome : Option String := none
  home : Option String := none
  /-- The log filter to use instead of the one in the settings. -/
  logFilter : Option String := none
  deriving DecidableEq, Repr, Inhabited

/-- The options that take a value. -/
inductive ValueOption where
  | settingsPath
  | port
  | audio
  deriving DecidableEq, Repr

def ValueOption.name : ValueOption → String
  | settingsPath => "--config"
  | port => "--port"
  | audio => "--backend"

/-- The options that stand for themselves. -/
inductive FlagOption where
  | verbose
  | help
  | version
  deriving DecidableEq, Repr

def FlagOption.name : FlagOption → String
  | verbose => "--verbose"
  | help => "--help"
  | version => "--version"

/-! ## Mistakes -/

inductive UsageError where
  | unexpected (word : String)
  | missingValue (option : ValueOption)
  | needlessValue (option : FlagOption) (value : String)
  | invalidValue (option : ValueOption) (value : String)
  | repeated (option : String)
  deriving DecidableEq, Repr

def UsageError.message : UsageError → String
  | unexpected word => "unexpected argument '" ++ word ++ "' found"
  | missingValue option => "a value is required for '" ++ option.name ++ "' but none was supplied"
  | needlessValue option value =>
    "unexpected value '" ++ value ++ "' for '" ++ option.name ++ "' found; no more were expected"
  | invalidValue option value => "invalid value '" ++ value ++ "' for '" ++ option.name ++ "'"
  | repeated option => "the argument '" ++ option ++ "' cannot be used multiple times"

/-! ## Words -/

/-- A word by its shape. -/
inductive Word where
  /-- Two dashes alone: no option follows. -/
  | endOfOptions
  /-- A name after two dashes, and what is attached to it by an equals sign. -/
  | long (name : String) (attached : Option String)
  /-- One dash and letters. -/
  | short (letters : List Char)
  | plain
  deriving DecidableEq, Repr

/-- Splits at the first equals sign. -/
def splitAttached (chars : List Char) : List Char × Option (List Char) :=
  match chars.dropWhile (· ≠ '=') with
  | [] => (chars, none)
  | _ :: value => (chars.takeWhile (· ≠ '='), some value)

def Word.ofText (word : String) : Word :=
  match word.toList with
  | ['-', '-'] => endOfOptions
  | '-' :: '-' :: rest =>
    let (name, attached) := splitAttached rest
    long (String.ofList name) (attached.map String.ofList)
  | ['-'] => plain
  | '-' :: letters => short letters
  | _ => plain

def optionNamed? (name : String) : Option (ValueOption ⊕ FlagOption) :=
  if name = "config" then some (.inl .settingsPath)
  else if name = "port" then some (.inl .port)
  else if name = "backend" then some (.inl .audio)
  else if name = "verbose" then some (.inr .verbose)
  else if name = "help" then some (.inr .help)
  else if name = "version" then some (.inr .version)
  else none

/-- The option behind a letter. -/
def flagLettered? : Char → Option FlagOption
  | 'v' => some .verbose
  | 'h' => some .help
  | 'V' => some .version
  | _ => none

namespace CommandLine

/-! ## Reading -/

def audioNamed? (name : String) : Option AudioChoice :=
  if name = "memory" then some .memory else if name = "native" then some .native else none

/-- A path that may be given: any but the empty one. -/
def settingsPathOf (value : String) : Except UsageError String :=
  if value = "" then .error (.invalidValue .settingsPath value) else .ok value

/-- Takes an option with its value.  None may be given twice. -/
def takeValue (c : CommandLine) (option : ValueOption) (value : String) :
    Except UsageError CommandLine :=
  match option with
  | .settingsPath =>
    if c.settingsPath.isSome then .error (.repeated option.name)
    else (settingsPathOf value).map fun path => { c with settingsPath := some path }
  | .port =>
    if c.port.isSome then .error (.repeated option.name) else .ok { c with port := some value }
  | .audio =>
    if c.audio.isSome then .error (.repeated option.name)
    else
      match audioNamed? value with
      | none => .error (.invalidValue .audio value)
      | some audio => .ok { c with audio := some audio }

/-- Takes an option without a value: either it is an answer at once, or it is noted. -/
def takeFlag (c : CommandLine) (option : FlagOption) :
    Except UsageError (Invocation ⊕ CommandLine) :=
  match option with
  | .help => .ok (.inl .help)
  | .version => .ok (.inl .version)
  | .verbose =>
    if c.verbose then .error (.repeated option.name) else .ok (.inr { c with verbose := true })

/-- Takes letters from left to right. -/
def takeLetters (c : CommandLine) : List Char → Except UsageError (Invocation ⊕ CommandLine)
  | [] => .ok (.inr c)
  | letter :: rest =>
    match flagLettered? letter with
    | none => .error (.unexpected ("-" ++ letter.toString))
    | some option =>
      match c.takeFlag option with
      | .ok (.inr c) => c.takeLetters rest
      | answer => answer

/-- A word that may be the value of the option before it. -/
def mayBeValue (word : String) : Bool := Word.ofText word == .plain

/-- Takes the words from left to right. -/
def read (c : CommandLine) : List String → Except UsageError Invocation
  | [] => .ok (.run c)
  | word :: rest =>
    match Word.ofText word with
    | .plain => .error (.unexpected word)
    | .endOfOptions =>
      -- what follows would be no options, and there is nothing else to say
      match rest with
      | [] => .ok (.run c)
      | next :: _ => .error (.unexpected next)
    | .short letters =>
      match c.takeLetters letters with
      | .error e => .error e
      | .ok (.inl answer) => .ok answer
      | .ok (.inr c) => c.read rest
    | .long name attached =>
      match optionNamed? name, attached with
      | none, _ => .error (.unexpected word)
      | some (.inr option), some value => .error (.needlessValue option value)
      | some (.inr option), none =>
        match c.takeFlag option with
        | .error e => .error e
        | .ok (.inl answer) => .ok answer
        | .ok (.inr c) => c.read rest
      | some (.inl option), some value =>
        match c.takeValue option value with
        | .error e => .error e
        | .ok c => c.read rest
      | some (.inl option), none =>
        match rest with
        | [] => .error (.missingValue option)
        | value :: rest =>
          -- an option is never taken for a value
          if mayBeValue value then
            match c.takeValue option value with
            | .error e => .error e
            | .ok c => c.read rest
          else .error (.missingValue option)

/-- Takes from the environment what was not given. -/
def withEnvironment (c : CommandLine) (env : Environment) : Except UsageError CommandLine :=
  let c := { c with port := c.port.or env.port }
  match c.settingsPath, env.settingsPath with
  | none, some value => (settingsPathOf value).map fun path => { c with settingsPath := some path }
  | _, _ => .ok c

def parse (words : List String) (env : Environment) : Except UsageError Invocation :=
  match read {} words with
  | .ok (.run c) => (c.withEnvironment env).map .run
  | answer => answer

end CommandLine

end SliderMixer
