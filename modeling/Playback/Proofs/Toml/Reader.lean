import Playback.Proofs.Toml.Document
import Playback.Proofs.Toml.Scalar
import Playback.Toml.Reader

/-!
# Plain lines

A heading of one bare key, and an assignment of a value without parts to one bare key, are read as
the statements that they look like, each up to the end of its line.  A text of such lines, with
empty lines between them, is read as the list of these statements.
-/

namespace Playback.Toml

variable {key name line text rest later : List Char} {value : Value} {statement : Statement}
  {statements : List Statement}

/-- A key that needs no quotes. -/
structure IsBareKey (key : Key) : Prop where
  nonempty : key ≠ []
  bare : ∀ c ∈ key, isBare c = true

instance (key : Key) : Decidable (IsBareKey key) :=
  decidable_of_iff (key ≠ [] ∧ key.all isBare = true)
    ⟨fun parts => ⟨parts.1, List.all_eq_true.mp parts.2⟩,
      fun bare => ⟨bare.nonempty, List.all_eq_true.mpr bare.bare⟩⟩

/-- A bare key begins with a character that begins nothing else. -/
theorem IsBareKey.exists_cons (bare : IsBareKey key) :
    ∃ c others, key = c :: others ∧ isBare c = true := by
  obtain ⟨c, others, rfl⟩ := List.exists_cons_of_ne_nil bare.nonempty
  exact ⟨c, others, rfl, bare.bare c List.mem_cons_self⟩

theorem ne_of_isBare {c d : Char} (bare : isBare c = true) (foreign : isBare d = false) :
    c ≠ d := by
  rintro rfl
  rw [bare] at foreign
  cases foreign

theorem isBlank_of_isBare {c : Char} (bare : isBare c = true) : isBlank c = false := by
  have noSpace := ne_of_isBare bare (by decide : isBare ' ' = false)
  have noTab := ne_of_isBare bare (by decide : isBare '\t' = false)
  simp [isBlank, noSpace, noTab]

theorem skipBlanks_append (bare : IsBareKey key) (rest : List Char) :
    skipBlanks (key ++ rest) = key ++ rest := by
  obtain ⟨c, others, rfl, first⟩ := bare.exists_cons
  exact List.dropWhile_cons_of_neg (by simp [isBlank_of_isBare first])

theorem key?_append (bare : IsBareKey key) {c : Char} (ends : isBare c = false) :
    key? (key ++ c :: rest) = some (key, c :: rest) := by
  have taken : (key ++ c :: rest).takeWhile isBare = key := by
    rw [List.takeWhile_append_of_pos bare.bare, List.takeWhile_cons_of_neg (by simp [ends]),
      List.append_nil]
  have dropped : (key ++ c :: rest).dropWhile isBare = c :: rest := by
    rw [List.dropWhile_append_of_pos bare.bare, List.dropWhile_cons_of_neg (by simp [ends])]
  rw [key?, taken, dropped]
  split
  case h_1 => exact (bare.nonempty rfl).elim
  case h_2 => rfl

theorem path?_append (bare : IsBareKey key) {c d : Char} (ends : isBare c = false)
    (blanks : skipBlanks (c :: rest) = d :: later) (noPoint : d ≠ '.') :
    path? (key ++ c :: rest) = some (.ofKey key, d :: later) := by
  rw [path?, maxKeys, pathUpTo?, key?_append bare ends]
  dsimp only
  rw [blanks]
  split
  case h_1 same => exact (noPoint (List.cons.inj same).1).elim
  case h_2 => rfl

/-- A value that begins neither an array nor a table is one without parts. -/
theorem value?_eq_scalar? (noArray : text.head? ≠ some '[') (noTable : text.head? ≠ some '{') :
    value? text = scalar? text := by
  rw [value?, maxNesting, valueWithin?]
  · rintro nesting others _ rfl
    exact noArray rfl
  · rintro nesting others _ rfl
    exact noTable rfl

theorem statement?_heading (bare : IsBareKey name) (rest : List Char) :
    statement? ('[' :: name ++ ']' :: rest) = some (.header (.ofKey name), rest) := by
  have path := path?_append bare (by decide : isBare ']' = false)
    (rfl : skipBlanks (']' :: rest) = ']' :: rest) (by decide)
  obtain ⟨c, others, same, first⟩ := bare.exists_cons
  rw [List.cons_append, statement?.eq_def]
  split
  case h_1 more opened =>
    rw [same] at opened
    have bracket : c = '[' := (List.cons.inj (List.cons.inj opened).2).1
    exact (ne_of_isBare first (by decide) bracket).elim
  case h_2 more opened =>
    obtain rfl := (List.cons.inj opened).2
    rw [skipBlanks_append bare, path]
    rfl
  case h_3 _ noHeading => exact (noHeading _ rfl).elim

theorem statement?_assignment (bare : IsBareKey key) (starts : skipBlanks text = text)
    (read : value? text = some (value, rest)) :
    statement? (key ++ ' ' :: '=' :: ' ' :: text) =
      some (.assignment (.ofKey key) value, rest) := by
  have path := path?_append bare (by decide : isBare ' ' = false)
    (rfl : skipBlanks (' ' :: '=' :: ' ' :: text) = '=' :: ' ' :: text) (by decide)
  have blank : skipBlanks (' ' :: text) = text := starts
  obtain ⟨c, others, same, first⟩ := bare.exists_cons
  have noBracket : c ≠ '[' := ne_of_isBare first (by decide)
  rw [statement?.eq_def]
  split
  case h_1 opened =>
    rw [same] at opened
    exact (noBracket (List.cons.inj opened).1).elim
  case h_2 opened =>
    rw [same] at opened
    exact (noBracket (List.cons.inj opened).1).elim
  case h_3 =>
    rw [path]
    change Option.map _ (value? (skipBlanks (' ' :: text))) = _
    rw [blank, read]
    rfl

/-- A text and its statements, as every attempt with enough fuel finds them. -/
def Reads (text : List Char) (statements : List Statement) : Prop :=
  ∀ fuel, text.length ≤ fuel → statementsWithin? fuel text = some statements

/-- A line that is read as a statement, whatever lines follow. -/
structure Spells (line : List Char) (statement : Statement) : Prop where
  starts : ∀ rest, skipGap false (line ++ rest) = line ++ rest
  nonempty : line ≠ []
  read : ∀ rest, statement? (line ++ '\n' :: rest) = some (statement, '\n' :: rest)

theorem reads_nil : Reads [] [] := by
  intro fuel _
  rw [statementsWithin?, skipGap]

/-- An empty line is passed over. -/
theorem Reads.emptyLine (reads : Reads text statements) : Reads ('\n' :: text) statements := by
  intro fuel enough
  have passed := reads fuel (Nat.le_of_succ_le enough)
  rw [statementsWithin?] at passed ⊢
  exact passed

/-- A line before a text that is read. -/
theorem Reads.cons (reads : Reads text statements) (spells : Spells line statement) :
    Reads (line ++ '\n' :: text) (statement :: statements) := by
  intro fuel enough
  rw [List.length_append, List.length_cons] at enough
  obtain ⟨c, others, same⟩ := List.exists_cons_of_ne_nil spells.nonempty
  have starts := spells.starts ('\n' :: text)
  have read := spells.read text
  cases fuel with
  | zero => omega
  | succ fuel =>
      have later := reads fuel (by omega)
      rw [same, List.cons_append] at starts read ⊢
      rw [statementsWithin?, starts]
      dsimp only
      rw [read]
      dsimp only
      rw [lineEnd?]
      dsimp only
      rw [later, Option.map_some]

theorem skipGap_of_isBare {c : Char} (bare : isBare c = true) (rest : List Char) :
    skipGap false (c :: rest) = c :: rest := by
  have noSign := ne_of_isBare bare (by decide : isBare '#' = false)
  have noBreak := ne_of_isBare bare (by decide : isBare '\n' = false)
  have noReturn := ne_of_isBare bare (by decide : isBare '\r' = false)
  rw [skipGap, if_neg noSign, if_neg (by simp [isBlank_of_isBare bare])]
  · exact noBreak
  · intro others same
    exact (noReturn same).elim

theorem spells_heading (bare : IsBareKey name) :
    Spells ('[' :: name ++ [']']) (.header (.ofKey name)) where
  starts rest := rfl
  nonempty := List.cons_ne_nil _ _
  read rest := by
    rw [List.append_assoc]
    exact statement?_heading bare ('\n' :: rest)

/-- An assignment whose value is read up to the end of its line. -/
theorem spells_assignment (bare : IsBareKey key)
    (starts : ∀ rest, skipBlanks (text ++ '\n' :: rest) = text ++ '\n' :: rest)
    (read : ∀ rest, value? (text ++ '\n' :: rest) = some (value, '\n' :: rest)) :
    Spells (key ++ ' ' :: '=' :: ' ' :: text) (.assignment (.ofKey key) value) where
  starts rest := by
    obtain ⟨c, others, rfl, first⟩ := bare.exists_cons
    exact skipGap_of_isBare first _
  nonempty := by
    obtain ⟨c, others, rfl, _⟩ := bare.exists_cons
    exact List.cons_ne_nil _ _
  read rest := by
    rw [List.append_assoc]
    exact statement?_assignment bare (starts rest) (read rest)

/-- A text that is no byte order mark is read as the table that its statements build. -/
theorem read?_of_reads (reads : Reads text statements) (noMark : skipMark text = text) :
    read? text = (Document.ofStatements? statements).map Document.members := by
  rw [read?, noMark, reads text.length (Nat.le_refl _)]

end Playback.Toml
