import Playback.Toml.Document
import Playback.Toml.Scalar

/-!
# Reading TOML

A text is read to a list of statements, which build the members of its table.  A line holds at
most one statement, but between its brackets or braces an array or a table may go over several
lines, with comments and with a comma after the last part, and a text in three quotes may do so
too.  A key with its points stays on one line.  Arrays and tables in braces may be nested 80 deep.
-/

namespace Playback.Toml

/-- How deep arrays and tables in braces may be nested. -/
def maxNesting : Nat :=
  80

/-- Reads the path of an assignment in braces, its equals sign and the gaps around that. -/
def inlineKey? (text : List Char) : Option (Path × List Char) :=
  match path? text with
  | none => none
  | some (path, rest) =>
    match skipGap false rest with
    | '=' :: rest => some (path, skipGap false rest)
    | _ => none

mutual

/-- Reads a value nested at most `nesting` deep; `fuel` bounds the steps. -/
def valueWithin? : (fuel nesting : Nat) → List Char → Option (Value × List Char)
  | 0, _, text => scalar? text
  | fuel + 1, nesting, text =>
    match nesting, text with
    | nesting + 1, '[' :: rest =>
      (items? fuel nesting (skipGap false rest)).map fun (items, rest) => (.array items, rest)
    | nesting + 1, '{' :: rest =>
      match inlineAssignments? fuel nesting (skipGap false rest) with
      | some (assignments, rest) =>
        (Members.ofAssignments? assignments).map fun members => (.table .inline members, rest)
      | none => none
    | _, text => scalar? text
termination_by structural fuel => fuel

/-- Reads the items that are left of an array and its end. -/
def items? : (fuel nesting : Nat) → List Char → Option (List Value × List Char)
  | 0, _, _ => none
  | _ + 1, _, ']' :: rest => some ([], rest)
  | fuel + 1, nesting, text =>
    match valueWithin? fuel nesting text with
    | none => none
    | some (item, rest) =>
      match skipGap false rest with
      | ',' :: rest =>
        (items? fuel nesting (skipGap false rest)).map fun (items, rest) => (item :: items, rest)
      | ']' :: rest => some ([item], rest)
      | _ => none
termination_by structural fuel => fuel

/-- Reads the assignments that are left of a table in braces and its end. -/
def inlineAssignments? : (fuel nesting : Nat) → List Char →
    Option (List (Path × Value) × List Char)
  | 0, _, _ => none
  | _ + 1, _, '}' :: rest => some ([], rest)
  | fuel + 1, nesting, text =>
    match inlineKey? text with
    | none => none
    | some (path, rest) =>
      match valueWithin? fuel nesting rest with
      | none => none
      | some (value, rest) =>
        match skipGap false rest with
        | ',' :: rest =>
          (inlineAssignments? fuel nesting (skipGap false rest)).map fun (assignments, rest) =>
            ((path, value) :: assignments, rest)
        | '}' :: rest => some ([(path, value)], rest)
        | _ => none
termination_by structural fuel => fuel

end

def value? (text : List Char) : Option (Value × List Char) :=
  valueWithin? (2 * text.length + 2) maxNesting text

def statement? : List Char → Option (Statement × List Char)
  | '[' :: '[' :: rest =>
    match path? (skipBlanks rest) with
    | some (path, ']' :: ']' :: rest) => some (.addition path, rest)
    | _ => none
  | '[' :: rest =>
    match path? (skipBlanks rest) with
    | some (path, ']' :: rest) => some (.header path, rest)
    | _ => none
  | text =>
    match path? text with
    | some (path, '=' :: rest) =>
      (value? (skipBlanks rest)).map fun (value, rest) => (.assignment path value, rest)
    | _ => none

/-- Reads the statements of a text; `fuel` is at least the length of the text. -/
def statementsWithin? : (fuel : Nat) → List Char → Option (List Statement)
  | fuel, text =>
    match skipGap false text with
    | [] => some []
    | c :: rest =>
      match fuel with
      | 0 => none
      | fuel + 1 =>
        match statement? (c :: rest) with
        | none => none
        | some (statement, rest) =>
          match lineEnd? false rest with
          | none => none
          | some rest => (statementsWithin? fuel rest).map (statement :: ·)

/-- The text after a byte order mark, if it starts with one. -/
def skipMark : List Char → List Char
  | '\ufeff' :: rest => rest
  | text => text

/-- Reads the members of the table that a text describes. -/
def read? (text : List Char) : Option Members :=
  let text := skipMark text
  match statementsWithin? text.length text with
  | some statements => (Document.ofStatements? statements).map Document.members
  | none => none

end Playback.Toml
