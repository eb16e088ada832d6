/-! # File trees

What stands at a path, as far as a reader of files can tell.

* `FileContent` is what the reader finds.
* `FileTree` maps the names on the way from the root to a directory or a file.
* `FileTree.contentAt` follows a path, name by name, and tells what it leads to.
-/

namespace SliderMixer

/-! ## Contents -/

/-- What stands at a path. -/
inductive FileContent where
  | missing
  /-- It cannot be opened: the path leads through something that is no directory, or a
      name is too long. -/
  | unreachable (reason : String)
  /-- It can be opened and not read, like a directory. -/
  | unreadable (reason : String)
  | bytes (content : List UInt8)
  deriving DecidableEq, Repr, Inhabited

/-! ## Trees -/

inductive FileEntry where
  | directory
  | file (content : List UInt8)
  deriving DecidableEq, Repr

/-- Entries by the names on the way from the root, and the directory in which a path
    begins that does not begin at the root. -/
structure FileTree where
  entries : List (List String × FileEntry)
  workingDirectory : List String

inductive PathError where
  | missing
  | notDirectory
  | tooLong
  deriving DecidableEq, Repr

/-- The longest name, in bytes. -/
def nameLimit : Nat := 255

/-- One past the longest path, in bytes. -/
def pathLimit : Nat := 4096

namespace FileTree

/-- What stands at a place.  The directories on the way to an entry need no entry of
    their own. -/
def entry? (t : FileTree) (place : List String) : Option FileEntry :=
  match t.entries.lookup place with
  | some e => some e
  | none => if t.entries.any fun e => place.isPrefixOf e.1 then some .directory else none

/-- Goes on by one name of a path.  Only a directory has names in it, the empty one
    and the dots included. -/
def step (t : FileTree) (place : List String) (name : String) : Except PathError (List String) :=
  match t.entry? place with
  | none => .error .missing
  | some (.file _) => .error .notDirectory
  | some .directory =>
    if name = "" ∨ name = "." then .ok place
    -- above the root is the root
    else if name = ".." then .ok place.dropLast
    else if nameLimit < name.utf8ByteSize then .error .tooLong
    else if (t.entry? (place ++ [name])).isNone then .error .missing
    else .ok (place ++ [name])

/-- The place to which a path leads. -/
def follow (t : FileTree) (path : String) : Except PathError (List String) :=
  if path = "" then .error .missing
  else if pathLimit ≤ path.utf8ByteSize then .error .tooLong
  else
    let start := if path.startsWith "/" then [] else t.workingDirectory
    (path.splitOn "/").foldlM t.step start

def contentAt (t : FileTree) (path : String) : FileContent :=
  match t.follow path with
  | .error .missing => .missing
  | .error .notDirectory => .unreachable "Not a directory (os error 20)"
  | .error .tooLong => .unreachable "File name too long (os error 36)"
  | .ok place =>
    match t.entry? place with
    | none => .missing
    | some .directory => .unreadable "Is a directory (os error 21)"
    | some (.file content) => .bytes content

/-! ## A plain system -/

/-- The directories below the root that every system has. -/
def systemDirectories : List String :=
  ["bin", "dev", "etc", "home", "lib", "proc", "root", "run", "sys", "tmp", "usr", "var"]

/-- A plain system whose working directory holds the given files, by their paths. -/
def holding (files : List (String × FileEntry)) : FileTree :=
  let here := ["tmp", "work"]
  { workingDirectory := here
    entries :=
      files.map (fun (path, e) => (here ++ path.splitOn "/", e))
        ++ (here, .directory)
        -- the device that is always empty
        :: (["dev", "null"], .file [])
        :: systemDirectories.map fun name => ([name], .directory) }

end FileTree

end SliderMixer
