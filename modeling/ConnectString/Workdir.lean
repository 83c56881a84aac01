/-
  ConnectString.Workdir — the files that relative paths lead to.

  A `Workdir` answers for each path what stands there. `ofTree` makes one out of a list of files and directories; the
  directories above them are implied. A path is walked part by part: a dot stays where it is, two dots go up, and
  only a directory leads on.
-/

import ConnectString.Text

namespace ConnectString

inductive FileState where
  | content (bytes : ByteArray)
  | directory
  | missing
  /-- The path leads through something that is no directory. -/
  | blocked
  /-- A part of the path, or all of it, is too long for a name. -/
  | overlong
  /-- The path holds a NUL. -/
  | unnamable

inductive ReadFault where
  | missing | directory | blocked | overlong | unnamable | notText
  deriving DecidableEq, Repr

namespace ReadFault

def message : ReadFault → String
  | missing => "No such file or directory (os error 2)"
  | directory => "Is a directory (os error 21)"
  | blocked => "Not a directory (os error 20)"
  | overlong => "File name too long (os error 36)"
  | unnamable => "file name contained an unexpected NUL byte"
  | notText => "stream did not contain valid UTF-8"

end ReadFault

structure Workdir where
  look : Text → FileState

namespace Workdir

def has (w : Workdir) (path : Text) : Bool :=
  match w.look path with
  | .content _ | .directory => true
  | _ => false

def read (w : Workdir) (path : Text) : Except ReadFault Text :=
  match w.look path with
  | .content bytes => ((String.fromUTF8? bytes).map fun s => Except.ok s.toList).getD (.error .notText)
  | .directory => .error .directory
  | .missing => .error .missing
  | .blocked => .error .blocked
  | .overlong => .error .overlong
  | .unnamable => .error .unnamable

/-! ## A workdir that holds a list of files -/

def parts (path : Text) : List Text := path.splitOn '/'

def nameLimit : Nat := 255

/-- The bytes that a path may have, short of this many. -/
def pathLimit : Nat := 4096

/-- A file, or a directory where there is no content. -/
structure Entry where
  path : List Text
  content : Option ByteArray

/-- What stands at a place, given as the parts that lead there from the top. -/
def at? (tree : List Entry) (place : List Text) : FileState :=
  match tree.find? fun e => e.path == place with
  | some e => (e.content.map FileState.content).getD .directory
  | none => if place.isEmpty || tree.any fun e => place.isPrefixOf e.path then .directory else .missing

/-- Whether a part of a path leads to no name: it stays, or it goes up. -/
def isStep (part : Text) : Bool := part.isEmpty || part == ['.'] || part == ['.', '.']

/-- What a directory answers for a name that it does not hold. -/
def absent (name : Text) : FileState := if nameLimit < Text.byteLength name then .overlong else .missing

/-- What stands at a path that leads out of the tree: of what is out there only the directories above are known. -/
def outside (rest : List Text) : FileState :=
  match rest.find? fun p => !isStep p with
  | some name => absent name
  | none => .directory

def walk (tree : List Entry) : List Text → List Text → FileState
  | place, [] => at? tree place
  | place, part :: rest =>
    match at? tree place with
    | .directory =>
      if part.isEmpty || part == ['.'] then walk tree place rest
      else if part == ['.', '.'] then if place.isEmpty then outside rest else walk tree place.dropLast rest
      else if nameLimit < Text.byteLength part then .overlong
      else walk tree (place ++ [part]) rest
    | .content _ => .blocked
    | other => other

def ofTree (tree : List (Text × Option ByteArray)) : Workdir :=
  let tree := tree.map fun (path, content) =>
    Entry.mk ((parts path).filter fun p => !p.isEmpty && p != ['.']) content
  ⟨fun path =>
    if path.isEmpty then .missing
    else if path.contains '\x00' then .unnamable
    else if pathLimit ≤ Text.byteLength path then .overlong
    else if path.head? == some '/' then outside (parts path)
    else walk tree [] (parts path)⟩

end Workdir

end ConnectString
