import WireHeaders.Data.SortedMap
import WireHeaders.Files.System

/-!
# File trees

Directories and files held in memory, as a state that the operations on files act on.

## Main definitions

* `Location` — the names that lead from the top to a file or a directory
* `FileTree` — what is at each location, and the working directory
* `FileTree.locate` — where a path leads to
* `FileTree.read`, `FileTree.isDirectory`, `FileTree.makeDirectory`, `FileTree.write` — the
  operations

## Design notes

A path is walked segment by segment.  Each segment but the last one must lead to a directory, and
two dots lead up from where the walk is.  There are no links.
-/

namespace WireHeaders

/-- **The names that lead from the top** to a file or a directory.  Dots are gone from it, so two
paths lead to one place iff their locations are equal. -/
abbrev Location := List String

inductive FileEntry where
  | file (bytes : Bytes)
  | directory
  deriving DecidableEq

/-- **Directories and files in memory.**  There are no links, so what a path leads to depends on
its segments only and a file has one location. -/
structure FileTree where
  /-- All files and directories but those on the way to the working directory. -/
  entries : SortedMap Location FileEntry
  /-- Where relative paths start. -/
  workingDirectory : Location
  deriving DecidableEq

/-- **Where a path leads to.**  A path that ends in a name leads to that name whether or not
anything is there, since some operations ask for what is there and others for what is not. -/
inductive Target where
  /-- A directory, by dots or by the slash of the root. -/
  | directory (location : Location)
  /-- A name in a directory, with or without a slash behind it. -/
  | entry (parent : Location) (name : String) (slash : Bool)
  deriving DecidableEq

namespace FileTree

/-- **What is at a location.**  The working directory and those above it are always there, so a
tree without entries is one in which a program can run. -/
def at? (t : FileTree) (location : Location) : Option FileEntry :=
  if location.isPrefixOf t.workingDirectory then some .directory else t.entries.get? location

/-- The length in bytes that a name may have. -/
def maxNameLength : Nat := 255

/-- The length in bytes that a path may have. -/
def maxPathLength : Nat := 4095

/-- One step of a walk.  Dots stay or lead up, at the top both stay there; a name must be that of a
directory below the place of the walk. -/
def step (t : FileTree) (location : Location) (segment : List Char) :
    Except FileError Location :=
  if segment = ['.'] then .ok location
  else if segment = ['.', '.'] then .ok location.dropLast
  else
    let name := String.ofList segment
    if maxNameLength < name.utf8ByteSize then .error .nameTooLong
    else
      match t.at? (location ++ [name]) with
      | none => .error .missing
      | some (.file _) => .error .notDirectory
      | some .directory => .ok (location ++ [name])

/-- Where the last segment of a path leads to. -/
def lastStep (t : FileTree) (slash : Bool) (location : Location) (segment : List Char) :
    Except FileError Target :=
  if segment = ['.'] ∨ segment = ['.', '.'] then (t.step location segment).map .directory
  else .ok (.entry location (String.ofList segment) slash)

/-- **A walk** along segments that are not empty.  All of them but the last one must lead to
directories, and only the last one may be the name of something that is not there. -/
def walk (t : FileTree) (slash : Bool) :
    Location → List (List Char) → Except FileError Target
  | location, [] => .ok (.directory location)
  | location, [segment] => t.lastStep slash location segment
  | location, segment :: rest => do
    let next ← t.step location segment
    walk t slash next rest

/-- **Where a path leads to.**  What is wrong with the text of a path is found first, before
anything in the tree is looked at. -/
def locate (t : FileTree) (path : Path) : Except FileError Target :=
  if '\x00' ∈ path.text.toList then .error .nulInPath
  else if path.text.isEmpty then .error .missing
  else if maxPathLength < path.text.utf8ByteSize then .error .nameTooLong
  else
    t.walk (path.text.toList.getLast? == some '/')
      (if path.isAbsolute then [] else t.workingDirectory)
      (path.segments.filter (fun s => s ≠ []))

/-- What is at a name of a directory, if the name is not too long. -/
def find (t : FileTree) (parent : Location) (name : String) :
    Except FileError (Option FileEntry) :=
  if maxNameLength < name.utf8ByteSize then .error .nameTooLong
  else .ok (t.at? (parent ++ [name]))

/-- **The content of a file.**  A slash behind the name of a file is refused, but where nothing has
that name the file is just missing. -/
def read (t : FileTree) (path : Path) : Except FileError Bytes := do
  match ← t.locate path with
  | .directory _ => throw .isDirectory
  | .entry parent name slash =>
    match ← t.find parent name with
    | none => throw .missing
    | some .directory => throw .isDirectory
    | some (.file bytes) => if slash then throw .notDirectory else return bytes

def isDirectory (t : FileTree) (path : Path) : Bool :=
  match t.locate path with
  | .ok (.directory _) => true
  | .ok (.entry parent name _) =>
    match t.find parent name with
    | .ok (some .directory) => true
    | _ => false
  | .error _ => false

def put (t : FileTree) (location : Location) (entry : FileEntry) : FileTree :=
  { t with entries := t.entries.insert location entry }

/-- **Makes one directory.**  Its parent must be there.  Whatever already has the name is in the
way, be it a directory or a file; whether a directory there is welcome is for the caller to say. -/
def makeDirectory (t : FileTree) (path : Path) : Except FileError FileTree := do
  match ← t.locate path with
  | .directory _ => throw .alreadyExists
  | .entry parent name _ =>
    match ← t.find parent name with
    | some _ => throw .alreadyExists
    | none => return t.put (parent ++ [name]) .directory

/-- **Replaces the content of a file**, which is made if it is missing.  A slash behind the name
asks for a directory, so nothing is written then, whatever is there. -/
def write (t : FileTree) (path : Path) (bytes : Bytes) : Except FileError FileTree := do
  match ← t.locate path with
  | .directory _ => throw .isDirectory
  | .entry parent name slash =>
    if slash then throw .isDirectory
    match ← t.find parent name with
    | some .directory => throw .isDirectory
    | _ => return t.put (parent ++ [name]) (.file bytes)

def remove (t : FileTree) (path : Path) : FileTree :=
  match t.locate path with
  | .ok (.entry parent name _) => { t with entries := t.entries.erase (parent ++ [name]) }
  | _ => t

/-- An operation that changes the tree when it succeeds. -/
def change (operation : FileTree → Except FileError FileTree) :
    StateM FileTree (Except FileError Unit) := fun t =>
  match operation t with
  | .ok t' => (.ok (), t')
  | .error e => (.error e, t)

instance : FileSystem (StateM FileTree) where
  read path := fun t => (t.read path, t)
  isDirectory path := fun t => (t.isDirectory path, t)
  makeDirectory path := change fun t => t.makeDirectory path
  write path bytes := change fun t => t.write path bytes

end FileTree

end WireHeaders
