import Playback.Text.CaseTables

/-!
# Lower-casing

The lower-case form of a text, by the full default mapping of the Unicode standard.
Every character maps by itself, with two exceptions to "one character to one": a
capital I with a dot above becomes two characters, and a capital sigma that ends a
cased word becomes the final small sigma.
-/

namespace Playback.Text

/-- Whether a code point lies in one of the inclusive ranges. -/
def inRanges (ranges : List (Nat × Nat)) (code : Nat) : Bool :=
  ranges.any fun range => range.1 ≤ code && code ≤ range.2

def isCased (c : Char) : Bool :=
  inRanges casedRanges c.toNat

def isCaseIgnorable (c : Char) : Bool :=
  inRanges caseIgnorableRanges c.toNat

/-- Whether a code point is one of the capitals of a run. -/
def CapitalRun.covers (run : CapitalRun) (code : Nat) : Bool :=
  run.first ≤ code && code ≤ run.last && (code - run.first) % run.stride == 0

def lowerChar (c : Char) : List Char :=
  if c.toNat < 0x80 then
    [c.toLower]
  else if c = 'İ' then
    ['i', '\u0307']
  else
    match capitalRuns.find? (·.covers c.toNat) with
    | some run => [Char.ofNat (run.small + (c.toNat - run.first))]
    | none => [c]

/-- Whether the first character that counts, if any, is cased. -/
def meetsCased (text : List Char) : Bool :=
  match text.dropWhile isCaseIgnorable with
  | [] => false
  | c :: _ => isCased c

/-- The small forms of `text`, which follows the characters `before`, nearest first. -/
def lowerFrom (before : List Char) : List Char → List Char
  | [] => []
  | c :: rest =>
    let small :=
      if c = 'Σ' then
        [if meetsCased before && !meetsCased rest then 'ς' else 'σ']
      else
        lowerChar c
    small ++ lowerFrom (c :: before) rest

def lower (text : List Char) : List Char :=
  lowerFrom [] text

end Playback.Text
