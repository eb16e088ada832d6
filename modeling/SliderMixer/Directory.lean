import SliderMixer.Session

/-! # Session directory

The directory holds the sessions known at present.

* `Directory.sessions` lists them by key; no key has an empty list.
* `Directory.unmapped` lists those that the settings leave over: their key is not
  reserved, not a device's, and named by no slider.
* Both are kept in step by `insert`, `remove`, `takeAll` and `classify`.
-/

namespace SliderMixer

/-- The sessions by key, the ones left over, the keys that sliders name, and when the
    last refresh began. -/
structure Directory where
  sessions : List (String × List Session) := []
  unmapped : List Session := []
  mappedKeys : List String := []
  lastRefresh : Option Nat := none
  deriving DecidableEq, Inhabited

namespace Directory

/-- An empty directory for the given mapped keys. -/
def new (mappedKeys : List String) : Directory := { mappedKeys }

/-! ## Views -/

/-- The key does not belong to a left-over application. -/
def isMappedKey (d : Directory) (key : String) : Bool :=
  isReservedKey key || isDeviceKey key || d.mappedKeys.contains key

/-- The sessions with exactly this key. -/
def lookup (d : Directory) (key : String) : Option (List Session) := d.sessions.lookup key

def held (d : Directory) : List Session := d.sessions.flatMap (·.2)

def count (d : Directory) : Nat := d.sessions.foldr (fun e n => e.2.length + n) 0

/-- The keys that have sessions, in order. -/
def keys (d : Directory) : List String :=
  (d.sessions.map (·.1)).mergeSort fun a b => decide (a ≤ b)

/-- The first of each in a list. -/
def distinct : List String → List String
  | [] => []
  | k :: rest => k :: (distinct rest).filter (· ≠ k)

/-- The keys of the sessions left over, in the order in which they came to be. -/
def unmappedKeys (d : Directory) : List String := distinct (d.unmapped.map (·.key))

/-! ## Changes -/

/-- Adds a session to the list of its key. -/
def insertInto (s : Session) : List (String × List Session) → List (String × List Session)
  | [] => [(s.key, [s])]
  | (key, ss) :: rest =>
    if key = s.key then (key, ss ++ [s]) :: rest else (key, ss) :: insertInto s rest

def insert (d : Directory) (s : Session) : Directory :=
  { d with
    sessions := insertInto s d.sessions
    unmapped := if d.isMappedKey s.key then d.unmapped else d.unmapped ++ [s] }

/-- The entry without this object, unless it has another key or nothing is left. -/
def withoutSession (s : Session) (entry : String × List Session) :
    Option (String × List Session) :=
  if entry.1 = s.key then
    match entry.2.filter fun other => !other.same s with
    -- no key keeps an empty list
    | [] => none
    | rest => some (entry.1, rest)
  else some entry

/-- Removes this object, however often it is held; says whether it was. -/
def remove (d : Directory) (s : Session) : Bool × Directory :=
  (((d.lookup s.key).getD []).any fun other => other.same s,
    { d with
      sessions := d.sessions.filterMap (withoutSession s)
      unmapped := d.unmapped.filter fun other => !other.same s })

/-- Empties the directory and gives out what it held. -/
def takeAll (d : Directory) : List Session × Directory :=
  (d.held, { d with sessions := [], unmapped := [] })

/-- Empties the directory and fills it anew; gives out what it held before. -/
def replaceAll (d : Directory) (fresh : List Session) : List Session × Directory :=
  let (stale, d) := d.takeAll
  (stale, fresh.foldl insert d)

/-- Changes the keys that sliders name. -/
def classify (d : Directory) (mappedKeys : List String) : Directory :=
  let d := { d with mappedKeys }
  -- sorted anew as a whole, since any key may have changed sides
  { d with unmapped := d.held.filter fun s => !d.isMappedKey s.key }

/-! ## Refreshes -/

/-- Notes the begin of a refresh.  One that is not forced may not begin within
    `minInterval` of the last. -/
def beginRefresh (d : Directory) (now minInterval : Nat) (force : Bool) : Option Directory :=
  let tooSoon := !force && d.lastRefresh.any fun last => now - last < minInterval
  if tooSoon then none else some { d with lastRefresh := some now }

end Directory

end SliderMixer
