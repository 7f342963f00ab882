import Playback.Source.Comment
import Playback.Text.Blank
import Playback.Word

/-!
# Scopes of source lines

A line is judged by itself: how far it is indented, whether it opens a block, and
whether that block is a function body or another control block.  The judgement
goes by the first word of the line and a closing colon.  A line without code, blank
or comment only, is a plain line at indent zero wherever it stands.  A scope table holds
the judgements of a whole source, by line number from one.
-/

namespace Playback

/-- What kind of block a line opens; `plain` if it opens none. -/
inductive ScopeKind
  | plain
  | function
  | control
  deriving DecidableEq, Repr

def ScopeKind.name : ScopeKind → String
  | .plain => "module"
  | .function => "function"
  | .control => "control"

/-- The judgement of one line. -/
structure Scope where
  indent : Nat := 0
  kind : ScopeKind := .plain
  opensBlock : Bool := false
  deriving DecidableEq, Repr

namespace Source

/-- First words of lines that open a function or class body. -/
def functionKeywords : List String :=
  ["def", "class"]

def controlKeywords : List String :=
  ["if", "elif", "else", "for", "while", "try", "except", "finally", "with", "match", "case"]

/-- The kind of block that a first word announces, if it is a keyword. -/
def blockKind? (word : String) : Option ScopeKind :=
  if functionKeywords.contains word then
    some .function
  else if controlKeywords.contains word then
    some .control
  else
    none

/-- Columns of the spaces and tabs that a line starts with; a tab counts `tabWidth` columns. -/
def indentation (tabWidth : Nat) : List Char → Nat
  | ' ' :: rest => Word.add 1 (indentation tabWidth rest)
  | '\t' :: rest => Word.add tabWidth (indentation tabWidth rest)
  | _ => 0

/-- The first word of a statement, which ends at a blank or a colon. -/
def firstWord (code : List Char) : List Char :=
  code.takeWhile fun c => !(Text.isBlank c || c = ':')

/-- The code of a line: its text before a comment, without blanks at either end. -/
def code (line : List Char) : List Char :=
  Text.trim (stripComment line)

end Source

def Scope.ofLine (tabWidth : Nat) (line : List Char) : Scope :=
  let statement := Source.code line
  if statement.isEmpty then
    {}
  else
    let indent := Source.indentation tabWidth line
    if statement.getLast? = some ':' then
      match Source.blockKind? (String.ofList (Source.firstWord statement)) with
      | some kind => { indent, kind, opensBlock := true }
      | none => { indent }
    else
      { indent }

def Scope.opensFunction (scope : Scope) : Bool :=
  scope.opensBlock && scope.kind = .function

/-- The judgements of the lines of a source, first line first. -/
structure ScopeTable where
  scopes : List Scope := []
  deriving DecidableEq, Repr

namespace ScopeTable

def ofLines (tabWidth : Nat) (lines : List String) : ScopeTable where
  scopes := lines.map fun line => Scope.ofLine tabWidth line.toList

def size (table : ScopeTable) : Nat :=
  table.scopes.length

/-- The judgement of a line, counted from one, if the source has that line. -/
def get? (table : ScopeTable) : (line : Nat) → Option Scope
  | 0 => none
  | line + 1 => table.scopes[line]?

/-- The judgement of a line; one that the source lacks counts as a plain line at indent zero. -/
def get (table : ScopeTable) (line : Nat) : Scope :=
  (table.get? line).getD {}

def entries (table : ScopeTable) : List (Nat × Scope) :=
  table.scopes.zipIdx.map fun (scope, index) => (index + 1, scope)

end ScopeTable

end Playback
