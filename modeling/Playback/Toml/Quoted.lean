import Playback.Text.Hexadecimal
import Playback.Toml.Layout

/-!
# Quoted texts

A text stands between double quotes, where a backslash starts an escape, or between single quotes,
where every character stands for itself.  Between three quotes it may run over several lines; a
line break right after the opening quotes is dropped, and up to two quotes may stand before the
closing three.  Between three double quotes a backslash at the end of a line drops that line's
break and all blanks and line breaks after it.
-/

namespace Playback.Toml

/-- Puts a character in front of a text that was read, if there are both. -/
def prepend? (c : Option Char) (read : Option (List Char × List Char)) :
    Option (List Char × List Char) :=
  match c, read with
  | some c, some (content, rest) => some (c :: content, rest)
  | _, _ => none

/-- The character that a backslash and one more character stand for. -/
def escaped? : Char → Option Char
  | 'b' => some '\x08'
  | 't' => some '\t'
  | 'n' => some '\n'
  | 'f' => some '\x0c'
  | 'r' => some '\r'
  | 'e' => some '\x1b'
  | '"' => some '"'
  | '\\' => some '\\'
  | _ => none

/-- The character whose code is written in two, four or eight hexadecimal digits. -/
def coded? (digits : List Char) : Option Char :=
  match Text.hexValue? digits with
  | some code => if code.isValidChar then some (Char.ofNat code) else none
  | none => none

/-- Reads a text with escapes up to its closing quote. -/
def basic? : List Char → Option (List Char × List Char)
  | '"' :: rest => some ([], rest)
  | '\\' :: 'x' :: a :: b :: rest => prepend? (coded? [a, b]) (basic? rest)
  | '\\' :: 'u' :: a :: b :: c :: d :: rest => prepend? (coded? [a, b, c, d]) (basic? rest)
  | '\\' :: 'U' :: a :: b :: c :: d :: e :: f :: g :: h :: rest =>
    prepend? (coded? [a, b, c, d, e, f, g, h]) (basic? rest)
  | '\\' :: c :: rest => prepend? (escaped? c) (basic? rest)
  | c :: rest => if isControl c then none else prepend? (some c) (basic? rest)
  | [] => none

/-- Reads a text without escapes up to its closing quote. -/
def literal? : List Char → Option (List Char × List Char)
  | '\'' :: rest => some ([], rest)
  | c :: rest => if isControl c then none else prepend? (some c) (literal? rest)
  | [] => none

def lineText? : List Char → Option (List Char × List Char)
  | '"' :: rest => basic? rest
  | '\'' :: rest => literal? rest
  | _ => none

/-- What becomes of blanks and line breaks. -/
inductive Trimming
  | off
  /-- A backslash ends the line: blanks are dropped up to the line break that is due. -/
  | due
  | running
  deriving DecidableEq, Repr

/-- The quotes of a text that stand right before its closing three, which were read. -/
def lastQuotes (quote : Char) : List Char → List Char × List Char
  | a :: b :: rest =>
    if a = quote then
      if b = quote then ([quote, quote], rest) else ([quote], b :: rest)
    else
      ([], a :: b :: rest)
  | [a] => if a = quote then ([quote], []) else ([], [a])
  | [] => ([], [])

/-- Reads a text with escapes up to its closing three quotes. -/
def basicLines? : Trimming → List Char → Option (List Char × List Char)
  | trimming, '\n' :: rest =>
    match trimming with
    | .off => prepend? (some '\n') (basicLines? .off rest)
    | _ => basicLines? .running rest
  | trimming, '\r' :: '\n' :: rest =>
    match trimming with
    | .off => prepend? (some '\n') (basicLines? .off rest)
    | _ => basicLines? .running rest
  | .due, c :: rest => if isBlank c then basicLines? .due rest else none
  | _, '"' :: '"' :: '"' :: rest => some (lastQuotes '"' rest)
  | _, '\\' :: 'x' :: a :: b :: rest => prepend? (coded? [a, b]) (basicLines? .off rest)
  | _, '\\' :: 'u' :: a :: b :: c :: d :: rest =>
    prepend? (coded? [a, b, c, d]) (basicLines? .off rest)
  | _, '\\' :: 'U' :: a :: b :: c :: d :: e :: f :: g :: h :: rest =>
    prepend? (coded? [a, b, c, d, e, f, g, h]) (basicLines? .off rest)
  | _, '\\' :: c :: rest =>
    match escaped? c with
    | some c => prepend? (some c) (basicLines? .off rest)
    | none => basicLines? .due (c :: rest)
  | trimming, c :: rest =>
    if trimming = .running && isBlank c then
      basicLines? .running rest
    else if isControl c then
      none
    else
      prepend? (some c) (basicLines? .off rest)
  | _, [] => none

/-- Reads a text without escapes up to its closing three quotes. -/
def literalLines? : List Char → Option (List Char × List Char)
  | '\'' :: '\'' :: '\'' :: rest => some (lastQuotes '\'' rest)
  | '\r' :: '\n' :: rest => prepend? (some '\n') (literalLines? rest)
  | c :: rest =>
    if isControl c && c != '\n' then none else prepend? (some c) (literalLines? rest)
  | [] => none

def text? : List Char → Option (List Char × List Char)
  | '"' :: '"' :: '"' :: rest => basicLines? .off (skipLineBreak rest)
  | '\'' :: '\'' :: '\'' :: rest => literalLines? (skipLineBreak rest)
  | text => lineText? text

end Playback.Toml
