import Playback.Toml.Quoted
import Playback.Toml.Value

/-!
# Paths of keys

A key is bare, when it has only letters, digits, underscores and hyphens, or quoted.  Keys with
points between them name a member of a table within a table.  A path has at most 80 keys.
-/

namespace Playback.Toml

/-- A path to a member: the keys of the tables on the way, and its own key. -/
structure Path where
  parents : List Key
  last : Key
  deriving DecidableEq, Repr

def Path.keys (path : Path) : List Key :=
  path.parents ++ [path.last]

def isBare (c : Char) : Bool :=
  c.isAlphanum || c = '_' || c = '-'

def key? (text : List Char) : Option (Key × List Char) :=
  match text.takeWhile isBare with
  | [] => lineText? text
  | key => some (key, text.dropWhile isBare)

def maxKeys : Nat :=
  80

/-- Reads a path of a limited number of keys and the blanks after it. -/
def pathUpTo? : (limit : Nat) → List Char → Option (Path × List Char)
  | 0, _ => none
  | limit + 1, text =>
    match key? text with
    | none => none
    | some (key, rest) =>
      match skipBlanks rest with
      | '.' :: rest =>
        (pathUpTo? limit (skipBlanks rest)).map fun (path, rest) =>
          ({ path with parents := key :: path.parents }, rest)
      | rest => some ({ parents := [], last := key }, rest)

def path? (text : List Char) : Option (Path × List Char) :=
  pathUpTo? maxKeys text

end Playback.Toml
