import TypedScalar.Text.Parts
import TypedScalar.Text.Utf8

/-! A working directory: the files in it, and what a path leads to. A path is reduced by dropping empty
parts and single dots, and then followed part by part. Beyond the working directory nothing is known but
that there are directories above it. -/

namespace TypedScalar

/-- File names with their texts. -/
structure Files where
  entries : List (String × String)
  deriving DecidableEq, Repr

/-- What a path leads to. -/
inductive Found
  | missing
  | nameTooLong
  | directory
  | file (text : String)
  deriving DecidableEq, Repr

namespace Files

/-- The slashes in front of an absolute path; two are kept, and more count as one. -/
def root (path : List Char) : List Char :=
  match (path.takeWhile (· == '/')).length with
  | 0 => []
  | 2 => ['/', '/']
  | _ => ['/']

/-- The parts of a path that lead somewhere. -/
def parts (path : List Char) : List (List Char) := (Text.splitAt '/' path).filter fun p => !p.isEmpty && p != ['.']

def normalPath (path : String) : String :=
  let s := path.toList
  let body := List.intercalate ['/'] (parts s)
  let whole := root s ++ body
  String.ofList (if whole.isEmpty then ['.'] else whole)

/-- The longest name of a file, in bytes. -/
def nameLimit : Nat := 255

/-- No path has as many bytes as this. -/
def pathLimit : Nat := 4096

def byteLength (s : List Char) : Nat := (Text.Utf8.encode s).length

/-- A step upwards. -/
def up : List Char := ['.', '.']

/-- Follows the parts of a path from above the working directory, or from the root. -/
def findAbove : List (List Char) → Found
  | [] => .directory
  | part :: rest =>
    if part = up then findAbove rest else if nameLimit < byteLength part then .nameTooLong else .missing

/-- Whether some file lies below a directory. -/
def hasDirectory (files : Files) (place : List (List Char)) : Bool :=
  files.entries.any fun e =>
    let file := parts e.1.toList
    place.isPrefixOf file && place.length < file.length

/-- The text of the file at a place. -/
def textAt? (files : Files) (place : List (List Char)) : Option String :=
  (files.entries.find? fun e => parts e.1.toList == place).map (·.2)

/-- Follows the parts of a path from a directory inside the working directory. -/
def findFrom (files : Files) (place : List (List Char)) : List (List Char) → Found
  | [] => .directory
  | part :: rest =>
    if part = up then if place.isEmpty then findAbove rest else files.findFrom place.dropLast rest
    else if nameLimit < byteLength part then .nameTooLong
    else
      let place := place ++ [part]
      match files.textAt? place with
      | some text => if rest.isEmpty then .file text else .missing
      | none => if files.hasDirectory place then files.findFrom place rest else .missing

def find (files : Files) (path : String) : Found :=
  let s := path.toList
  if s.contains '\x00' then .missing
  else if pathLimit ≤ byteLength (normalPath path).toList then .nameTooLong
  else if (root s).isEmpty then files.findFrom [] (parts s)
  else findAbove (parts s)

end Files

end TypedScalar
