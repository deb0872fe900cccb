/-!
# Paths — names of files

A path is a root or none, and the names that lead from there to the file.  Empty names and single
points in the text of a path mean nothing and are left out; two points are kept, because what they
lead to depends on the files.  Two slashes at the front are a root of their own, three or more are
the same as one.

* `Path.ofText`, `Path.text`: between a path and its text.
* `Path.suffix`: the ending of the last name.
-/

namespace AxisMixer

inductive Path.Root where
  /-- The path starts where the program was started. -/
  | here
  | slash
  | doubleSlash
  deriving DecidableEq, Repr

structure Path where
  root : Path.Root
  names : List String
  deriving DecidableEq, Repr

namespace Path

def Root.text : Root → String
  | here => ""
  | slash => "/"
  | doubleSlash => "//"

def Root.ofChars : List Char → Root
  | '/' :: '/' :: '/' :: _ => slash
  | '/' :: '/' :: _ => doubleSlash
  | '/' :: _ => slash
  | _ => here

def ofText (s : String) : Path where
  root := .ofChars s.toList
  names := (s.splitOn "/").filter fun name => name != "" && name != "."

/-- The root and the names, a slash between any two of them; a point if there are none. -/
def text (p : Path) : String :=
  if p.root = .here ∧ p.names = [] then "."
  else p.root.text ++ String.intercalate "/" p.names

/-- The path that leads on to `name`. -/
def child (p : Path) (name : String) : Path := { p with names := p.names ++ [name] }

/-- The path with another last name. -/
def withName (p : Path) (name : String) : Path := { p with names := p.names.dropLast ++ [name] }

/-- The end of a name from its last point on, unless the point is its first or its last
character. -/
def nameSuffix (name : String) : String :=
  let ending := name.toList.reverse.takeWhile (· != '.')
  let start := name.toList.reverse.drop (ending.length + 1)
  if ending.isEmpty || start.isEmpty then "" else String.ofList ('.' :: ending.reverse)

/-- The suffix of the last name. -/
def suffix (p : Path) : String := nameSuffix (p.names.getLast?.getD "")

end Path

end AxisMixer
