import AxisMixer.Failure.System
import AxisMixer.Files.Path

/-!
# Files — what is found under a path

* `Entry`: what a path leads to, as far as reading it is concerned.
* `FileTree`: files and directories by name, and the rules by which a path is followed.
-/

namespace AxisMixer

inductive Entry where
  | file (contents : ByteArray)
  /-- What the operating system says instead of opening a file. -/
  | unusable (e : SystemError)
  /-- The path holds a character that no name can hold. -/
  | unnameable

/-- What each path leads to. -/
abbrev FileSystem := Path → Entry

namespace FileSystem

/-- Errors that mean that there is no file, and not that looking for one failed. -/
def meansAbsent (e : SystemError) : Bool :=
  e == .noSuchFile || e == .notADirectory || e == .isADirectory

/-- Whether the path leads to a file. -/
def isFile (files : FileSystem) (p : Path) : Except SystemError Bool :=
  match files p with
  | .file _ => .ok true
  | .unnameable => .ok false
  | .unusable e => if meansAbsent e then .ok false else .error { e with file := some p.text }

/-- The first of the paths that leads to a file. -/
def firstFile? (files : FileSystem) : List Path → Except SystemError (Option Path)
  | [] => .ok none
  | p :: rest => do if ← files.isFile p then return some p else firstFile? files rest

end FileSystem

/-! ### Trees -/

/-- Files and directories, each by the names that lead to it.  A directory is also whatever has
something below it. -/
structure FileTree where
  files : List (List String × ByteArray) := []
  directories : List (List String) := []
  /-- The directory in which the program was started. -/
  start : List String := []

namespace FileTree

def file? (t : FileTree) (place : List String) : Option ByteArray :=
  (t.files.find? fun f => f.1 == place).map Prod.snd

def isDirectory (t : FileTree) (place : List String) : Bool :=
  place.isEmpty || place.isPrefixOf t.start || t.directories.any (place.isPrefixOf ·) ||
    t.files.any fun f => place.isPrefixOf f.1 && f.1 != place

/-- The greatest length of a name, in bytes. -/
def maxName : Nat := 255

/-- The greatest length of a path, in bytes. -/
def maxPath : Nat := 4095

/-- What the names lead to from a place that exists. -/
def follow (t : FileTree) (place : List String) : List String → Entry
  | [] =>
    match t.file? place with
    | some contents => .file contents
    | none => .unusable .isADirectory
  | name :: rest =>
    if !t.isDirectory place then .unusable .notADirectory
    else if name = ".." then t.follow place.dropLast rest
    else if maxName < name.utf8ByteSize then .unusable .nameTooLong
    else if (t.file? (place ++ [name])).isSome || t.isDirectory (place ++ [name]) then
      t.follow (place ++ [name]) rest
    else .unusable .noSuchFile

/-- The directory from which a path is followed. -/
def origin (t : FileTree) : Path.Root → List String
  | .here => t.start
  | .slash | .doubleSlash => []

/-- What a path leads to, if there is nothing but the tree. -/
def entry (t : FileTree) : FileSystem := fun p =>
  if p.text.contains '\x00' then .unnameable
  else if maxPath < p.text.utf8ByteSize then .unusable .nameTooLong
  else t.follow (t.origin p.root) p.names

end FileTree

end AxisMixer
