import Playback.Toml.Path

/-!
# Building documents

The statements of a document are carried out in order.  A header names the table that the
assignments after it belong to, and a header in double brackets adds such a table to a list.
Every table has one definition: a header may name a table that other headers only implied, but no
table twice, and dotted keys extend only tables that dotted keys made.
-/

namespace Playback.Toml

inductive Statement
  | header (path : Path)
  /-- A header of one more table of a list. -/
  | addition (path : Path)
  /-- An assignment to a key of the current table. -/
  | assignment (path : Path) (value : Value)

/-- The rules for walking down a path of keys. -/
structure Walk where
  origin : Origin
  passes : Origin → Bool
  /-- The tables that the walk may end at. -/
  enters : Origin → Bool

def Walk.ofHeader : Walk where
  origin := .implied
  passes origin := origin ≠ .inline
  enters origin := origin ≠ .inline

/-- The walk to a table that a dotted key names. -/
def Walk.ofDottedKey : Walk where
  origin := .dotted
  passes origin := origin = .implied || origin = .dotted
  enters origin := origin = .dotted

/-- Whether a walk may go into a table with keys left to walk down. -/
def Walk.allows (walk : Walk) (left : List Key) (origin : Origin) : Bool :=
  if left.isEmpty then walk.enters origin else walk.passes origin

namespace Members

/-- Changes the members of the table that a walk down a path ends at. -/
def changeAt (walk : Walk) (change : Members → Option Members) :
    (path : List Key) → Members → Option Members
  | [], members => change members
  | key :: path, members =>
    members.alter key fun
      | none => (changeAt walk change path []).map (.table walk.origin)
      | some (.table origin inner) =>
        if walk.allows path origin then
          (changeAt walk change path inner).map (.table origin)
        else
          none
      | some (.tables earlier last) =>
        if path.isEmpty && !walk.enters .header then
          none
        else
          (changeAt walk change path last).map (.tables earlier)
      | some _ => none

/-- Assigns a value to a key of a table or of a table within it. -/
def assign (path : Path) (value : Value) : Members → Option Members :=
  changeAt .ofDottedKey (add path.last value) path.parents

def define (path : Path) : Members → Option Members :=
  changeAt .ofHeader
    (alter path.last fun
      | none => some (.table .header [])
      | some (.table .implied members) => some (.table .header members)
      | some _ => none)
    path.parents

/-- Adds an empty table to the list that a header names. -/
def append (path : Path) : Members → Option Members :=
  changeAt .ofHeader
    (alter path.last fun
      | none => some (.tables [] [])
      | some (.tables earlier last) => some (.tables (earlier ++ [last]) [])
      | some _ => none)
    path.parents

/-- The members that assignments leave, starting from none. -/
def ofAssignments? (assignments : List (Path × Value)) : Option Members :=
  assignments.foldlM (fun members assignment => assign assignment.1 assignment.2 members) []

end Members

/-- A document as far as it has been built. -/
structure Document where
  members : Members := []
  /-- The path of the table that assignments belong to. -/
  current : List Key := []

namespace Document

def carryOut? (document : Document) : Statement → Option Document
  | .header path =>
    (document.members.define path).map fun members => { members, current := path.keys }
  | .addition path =>
    (document.members.append path).map fun members => { members, current := path.keys }
  | .assignment path value =>
    (document.members.changeAt .ofHeader (Members.assign path value) document.current).map
      fun members => { document with members }

def ofStatements? (statements : List Statement) : Option Document :=
  statements.foldlM carryOut? {}

end Document

end Playback.Toml
