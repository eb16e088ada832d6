import SliderMixer.Toml.Scalar

/-! # Settings files

A settings file in TOML 1.0.

* `Toml.Table` is a table under construction; it remembers how it came to be, since
  a table may be written only once.
* `Toml.Table.put` and `Toml.Table.openTable` are the two ways a file adds to it.
* `Toml.read` reads a whole file.
-/

namespace SliderMixer.Toml

/-! ## Tables under construction -/

/-- How a table came to be. -/
inductive Origin where
  /-- Written by a header or between braces, or the file itself. -/
  | written
  /-- On the way to a table with a longer header. -/
  | onTheWay
  /-- On the way of a key with dots. -/
  | dotted
  deriving DecidableEq

/-- What stands under a key. -/
inductive Node where
  | leaf (value : Value)
  | table (origin : Origin) (fields : List (String × Node))
  /-- Tables under one repeated header, newest first. -/
  | tables (newest : List (String × Node)) (older : List (List (String × Node)))

/-- A table and how it came to be. -/
structure Table where
  origin : Origin
  fields : List (String × Node)

/-- The fields with one added, or replaced in its place. -/
def setField (name : String) (node : Node) : List (String × Node) → List (String × Node)
  | [] => [(name, node)]
  | (other, old) :: rest =>
    if name = other then (name, node) :: rest else (other, old) :: setField name node rest

namespace Table

def empty : Table := ⟨.written, []⟩

/-- Changes the table at the end of a path, making the tables on the way.  A key with
    dots may not pass through a table that is written elsewhere. -/
def change (dotted : Bool) (f : Table → Option Table) : List String → Table → Option Table
  | [], t => f t
  | k :: ks, t =>
    match t.fields.lookup k with
    | none => do
      let inner ← change dotted f ks ⟨if dotted then .dotted else .onTheWay, []⟩
      return { t with fields := setField k (.table inner.origin inner.fields) t.fields }
    | some (.leaf _) => none
    | some (.tables newest older) => do
      let inner ← change dotted f ks ⟨.written, newest⟩
      return { t with fields := setField k (.tables inner.fields older) t.fields }
    | some (.table origin fields) =>
      if dotted && origin == .written then none
      else do
        let inner ← change dotted f ks ⟨origin, fields⟩
        return { t with fields := setField k (.table inner.origin inner.fields) t.fields }

/-- Adds one key, which must be new. -/
def insert (name : String) (value : Value) (t : Table) : Option Table :=
  match t.fields.lookup name with
  | some _ => none
  | none => some { t with fields := setField name (.leaf value) t.fields }

/-- Adds a value under a key with dots, relative to the table.  A table on the way
    must come from such keys alone. -/
def put (path : List String) (value : Value) (t : Table) : Option Table :=
  match path.reverse with
  | [] => none
  | name :: onWay =>
    change true
      (fun inner =>
        if (inner.origin == .dotted) == onWay.isEmpty then none else inner.insert name value)
      onWay.reverse t

def openTable (path : List String) (t : Table) : Option Table :=
  match path.reverse with
  | [] => none
  | name :: onWay =>
    change false
      (fun inner =>
        match inner.fields.lookup name with
        | none => some { inner with fields := setField name (.table .written []) inner.fields }
        | some (.table .onTheWay fields) =>
          some { inner with fields := setField name (.table .written fields) inner.fields }
        | some _ => none)
      onWay.reverse t

/-- Opens one more table of a repeated header. -/
def openTables (path : List String) (t : Table) : Option Table :=
  match path.reverse with
  | [] => none
  | name :: onWay =>
    change false
      (fun inner =>
        match inner.fields.lookup name with
        | none => some { inner with fields := setField name (.tables [] []) inner.fields }
        | some (.tables newest older) =>
          some { inner with fields := setField name (.tables [] (newest :: older)) inner.fields }
        | some _ => none)
      onWay.reverse t

end Table

mutual

def Node.value : Node → Value
  | .leaf v => v
  | .table _ fields => .table (fieldValues fields)
  | .tables newest older => .list ((olderValues older) ++ [.table (fieldValues newest)])

def fieldValues : List (String × Node) → List (String × Value)
  | [] => []
  | (name, node) :: rest => (name, node.value) :: fieldValues rest

/-- The older tables of a repeated header, oldest first. -/
def olderValues : List (List (String × Node)) → List Value
  | [] => []
  | fields :: older => olderValues older ++ [.table (fieldValues fields)]

end

/-! ## Values -/

/-- The deepest nesting of lists and tables in braces. -/
def maxNesting : Nat := 79

/-- The longest key with dots. -/
def maxPath : Nat := 79

/-- A key with dots, and what follows it. -/
def path (text : List Char) : Option (List String × List Char) :=
  match keyPath (text.length + 1) text with
  | some (ks, rest) => if ks.length ≤ maxPath then some (ks, rest) else none
  | none => none

mutual

/-- A value; `depth` is the nesting still allowed.  A nested value costs two units of
    `fuel` and at least one character. -/
def value : Nat → Nat → Reader Value
  | 0, _, _ => none
  | _, _, [] => none
  | fuel + 1, depth, c :: rest =>
    if c = '"' ∨ c = '\'' then (quotedText (c :: rest)).map fun (s, rest) => (.text s, rest)
    else if c = '[' then
      match depth with
      | 0 => none
      | depth + 1 =>
        match skipBlank false rest with
        | some (']' :: rest) => some (.list [], rest)
        | _ => (items fuel depth rest).map fun (vs, rest) => (.list vs, rest)
    else if c = '\x7b' then
      match depth with
      | 0 => none
      | depth + 1 =>
        match skipSpace rest with
        | '\x7d' :: rest => some (.table [], rest)
        | _ =>
          (pairs fuel depth Table.empty rest).map fun (t, rest) =>
            (.table (fieldValues t.fields), rest)
    else if c = '+' ∨ c = '-' ∨ c.isDigit then number (c :: rest)
    else
      match c :: rest with
      | 't' :: 'r' :: 'u' :: 'e' :: rest => some (.boolean true, rest)
      | 'f' :: 'a' :: 'l' :: 's' :: 'e' :: rest => some (.boolean false, rest)
      | 'i' :: 'n' :: 'f' :: rest => some (.other, rest)
      | 'n' :: 'a' :: 'n' :: rest => some (.other, rest)
      | _ => none

/-- The items of a list up to its closing bracket, at least one; a comma may follow
    the last. -/
def items : Nat → Nat → Reader (List Value)
  | 0, _, _ => none
  | fuel + 1, depth, text => do
    let text ← skipBlank false text
    let (v, rest) ← value fuel depth text
    let rest ← skipBlank false rest
    match rest with
    | ']' :: rest => return ([v], rest)
    | ',' :: rest =>
      match skipBlank false rest with
      | some (']' :: rest) => return ([v], rest)
      | _ =>
        let (vs, rest) ← items fuel depth rest
        return (v :: vs, rest)
    | _ => none

/-- The pairs of a table in braces up to its closing brace, at least one. -/
def pairs : Nat → Nat → Table → Reader Table
  | 0, _, _, _ => none
  | fuel + 1, depth, t, text => do
    let (ks, rest) ← path text
    match rest with
    | '=' :: rest =>
      let (v, rest) ← value fuel depth (skipSpace rest)
      let t ← t.put ks v
      match skipSpace rest with
      | '\x7d' :: rest => return (t, rest)
      | ',' :: rest => pairs fuel depth t rest
      | _ => none
    | _ => none

end

/-! ## Files -/

/-- A file read so far: its tables and the header in force. -/
structure Progress where
  root : Table := .empty
  header : List String := []

/-- A header, after its first bracket. -/
def header (p : Progress) (text : List Char) : Option (Progress × List Char) :=
  match text with
  | '[' :: rest => do
    let (ks, rest) ← path rest
    match rest with
    | ']' :: ']' :: rest =>
      let root ← p.root.openTables ks
      return (⟨root, ks⟩, ← restOfLine rest)
    | _ => none
  | _ => do
    let (ks, rest) ← path text
    match rest with
    | ']' :: rest =>
      let root ← p.root.openTable ks
      return (⟨root, ks⟩, ← restOfLine rest)
    | _ => none

/-- A line with a key and its value. -/
def pair (p : Progress) (text : List Char) : Option (Progress × List Char) := do
  let (ks, rest) ← path text
  match rest with
  | '=' :: rest =>
    let (v, rest) ← value (2 * rest.length + 2) maxNesting (skipSpace rest)
    let rest ← restOfLine rest
    let root ← p.root.change false (fun t => t.put ks v) p.header
    return ({ p with root }, rest)
  | _ => none

/-- The lines that are left; `fuel` bounds their number. -/
def lines : Nat → Progress → List Char → Option Progress
  | 0, _, _ => none
  | fuel + 1, p, text =>
    match skipSpace text with
    | [] => some p
    | '[' :: rest => do
      let (p, rest) ← header p rest
      lines fuel p rest
    | c :: rest =>
      if c = '#' ∨ c = '\n' ∨ c = '\r' then do
        lines fuel p (← restOfLine (c :: rest))
      else do
        let (p, rest) ← pair p (c :: rest)
        lines fuel p rest

/-- The fields of a file, with or without a byte order mark; `none` if it is not
    well formed. -/
def read (text : String) : Option (List (String × Value)) :=
  let cs :=
    match text.toList with
    | c :: rest => if c.toNat = 0xfeff then rest else c :: rest
    | [] => []
  (lines (cs.length + 1) {} cs).map fun p => fieldValues p.root.fields

end SliderMixer.Toml
