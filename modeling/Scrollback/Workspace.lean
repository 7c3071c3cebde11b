import Scrollback.Report

/-!
Runs in a directory of files.

The directory holds files by their names and has no directories below it. The one
place outside it that a path can lead to is the null device, which reads as empty
and drops what is written to it. A run may keep a log, which is opened before the
arguments are read: the file is created if it is missing, and its first line is
written at the end of what is there. The clock stands in UTC unless another is
given.
-/

namespace Scrollback

/-- A directory: the names and texts of its files. -/
structure Workspace where
  files : List (String × String)
  deriving DecidableEq, Repr

namespace Workspace

/-- Where a path leads. -/
inductive Place where
  /-- The file of the directory with a name, which may be missing. -/
  | file (name : String)
  | nullDevice
  deriving DecidableEq, Repr

/-- The most bytes a path may have. -/
def pathLimit : Nat := 4095

/-- The most bytes the name of a file may have. -/
def nameLimit : Nat := 255

/-- Where a path leads that starts in the directory, or at the root when it is
absolute. `steps` go before the name; those that stay where they are count for
nothing. -/
def placeAt? (absolute : Bool) (steps : List String) (name : String) : Option Place :=
  let above := steps.filter fun step => step != "" && step != "."
  if name = "" ∨ name = "." ∨ name = ".." then none
  else if absolute then if above = ["dev"] ∧ name = "null" then some .nullDevice else none
  else if above = [] ∧ name.utf8ByteSize ≤ nameLimit then some (.file name) else none

/-- Where a path leads, if it leads to a file or a device. A path that is too long
leads nowhere. -/
def place? (path : String) : Option Place :=
  if pathLimit < path.utf8ByteSize then none
  else match ((path.toList.splitOn '/').map String.ofList).reverse with
    | [] => none
    | name :: before => placeAt? (before.getLast? == some "") before.reverse name

/-- The text at a path. -/
def read? (w : Workspace) (path : String) : Option String :=
  match place? path with
  | some (.file name) => w.files.lookup name
  | some .nullDevice => some ""
  | none => none

/-- Write at the end of the file at a path, which is created if it is missing. -/
def append? (w : Workspace) (path text : String) : Option Workspace :=
  match place? path with
  | some (.file name) =>
      let old := (w.files.lookup name).getD ""
      some ⟨(name, old ++ text) :: w.files.filter (·.1 != name)⟩
  | some .nullDevice => some w
  | none => none

/-- Whether a path leads to a file that the directory has. -/
def hasFile (w : Workspace) (path : String) : Bool :=
  match place? path with
  | some (.file name) => (w.files.lookup name).isSome
  | _ => false

/-- The first line of a log. -/
def logHeader : String := "transcript log opened\n"

/-- What is seen of a log that was asked for: whether it could be opened, and
whether its file is there after the run. -/
structure LogState where
  opened : Bool
  kept : Bool
  deriving DecidableEq, Repr

/-- A run in a directory: what it does, and what is seen of its log when one was
asked for. -/
structure Run where
  outcome : Report.Outcome
  log : Option LogState
  deriving DecidableEq, Repr

/-- A run with its arguments and the path of its log, if it keeps one. -/
def run (w : Workspace) (log : Option String) (arguments : List String)
    (clock : Nat → Clock := fun _ => .utc) : Run :=
  match log with
  | none => ⟨Report.run clock w.read? arguments, none⟩
  | some path =>
      let after := w.append? path logHeader
      let w := after.getD w
      ⟨Report.run clock w.read? arguments, some ⟨after.isSome, w.hasFile path⟩⟩

end Workspace

end Scrollback
