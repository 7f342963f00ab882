import Mathlib.Data.List.Basic
import Playback.Proofs.Source.Comment
import Playback.Proofs.Text.Blank
import Playback.Proofs.Word
import Playback.Source.Scope

/-!
# What the judgement of a line depends on

A line is judged by its code, which is what is left of it without its comment and the blanks around,
and by the spaces and tabs that it begins with.  So whatever changes a line without touching its
code changes the indent at most, and not even that if it happens behind the first character of
the code.  A comment and blanks at the end are of no account, and a margin of spaces and tabs in
front of a line with code moves it by its own width.  Columns are 64-bit numbers, so a line that is
moved further than they reach is found at the other end of them.
-/

namespace Playback

namespace Source

variable {tabWidth : Nat} {c : Char} {line text margin blanks : List Char}

/-- A text of spaces and tabs, possibly of none. -/
def IsMargin (margin : List Char) : Prop :=
  ∀ c ∈ margin, c = ' ' ∨ c = '\t'

instance (margin : List Char) : Decidable (IsMargin margin) :=
  List.decidableBAll (fun c => c = ' ' ∨ c = '\t') margin

/-- Columns of a margin. -/
def marginWidth (tabWidth : Nat) (margin : List Char) : Nat :=
  margin.count ' ' + tabWidth * margin.count '\t'

theorem indentation_le (tabWidth : Nat) (line : List Char) :
    indentation tabWidth line ≤ Text.maxWord := by
  fun_cases indentation tabWidth line
  · exact Word.add_le _ _
  · exact Word.add_le _ _
  · exact Nat.zero_le _

/-- A margin in front of a line indents it further by its own width. -/
theorem indentation_margin_append (isMargin : IsMargin margin) (line : List Char) :
    indentation tabWidth (margin ++ line) =
      Word.add (marginWidth tabWidth margin) (indentation tabWidth line) := by
  induction margin with
  | nil =>
      have fits : marginWidth tabWidth [] + indentation tabWidth line ≤ Text.maxWord := by
        simpa [marginWidth] using indentation_le tabWidth line
      rw [Word.add_eq_of_le fits]
      simp [marginWidth]
  | cons c margin induction =>
      obtain ⟨first, others⟩ := List.forall_mem_cons.mp isMargin
      rcases first with rfl | rfl
      · have width : marginWidth tabWidth (' ' :: margin) = 1 + marginWidth tabWidth margin := by
          simp [marginWidth]
          omega
        rw [List.cons_append, indentation, induction others, Word.add_add, width]
      · have width :
            marginWidth tabWidth ('\t' :: margin) = tabWidth + marginWidth tabWidth margin := by
          simp [marginWidth, Nat.mul_add]
          omega
        rw [List.cons_append, indentation, induction others, Word.add_add, width]

/-- Nothing behind a character that is not blank indents a line. -/
theorem indentation_append (found : ∃ c ∈ line, Text.isBlank c = false) (text : List Char) :
    indentation tabWidth (line ++ text) = indentation tabWidth line := by
  have later : ∀ c rest, Text.isBlank c = true →
      (∃ d ∈ c :: rest, Text.isBlank d = false) → ∃ d ∈ rest, Text.isBlank d = false := by
    rintro c rest blank ⟨d, member, notBlank⟩
    rcases List.mem_cons.mp member with rfl | behind
    · cases blank.symm.trans notBlank
    · exact ⟨d, behind, notBlank⟩
  fun_induction indentation tabWidth line with
  | case1 rest induction =>
      rw [List.cons_append, indentation, induction (later ' ' rest (by decide) found)]
  | case2 rest induction =>
      rw [List.cons_append, indentation, induction (later '\t' rest (by decide) found)]
  | case3 line notSpace notTab =>
      cases line with
      | nil => simp at found
      | cons c rest =>
          rw [List.cons_append, indentation.eq_3]
          · rintro _ ⟨⟩
            exact notSpace rest rfl
          · rintro _ ⟨⟩
            exact notTab rest rfl

/-- A line with code has a character in front of its comment that is not blank. -/
theorem exists_of_code_ne_nil (found : code line ≠ []) :
    ∃ c ∈ stripComment line, Text.isBlank c = false := by
  by_contra none
  apply found
  rw [code, Text.trim_eq_nil_iff]
  intro c member
  by_contra notBlank
  exact none ⟨c, member, Bool.eq_false_iff.mpr notBlank⟩

/-- The indent of a line with code comes from what is in front of its comment. -/
theorem indentation_stripComment (found : code line ≠ []) :
    indentation tabWidth (stripComment line) = indentation tabWidth line := by
  obtain ⟨comment, same⟩ := stripComment_leads line
  calc
    indentation tabWidth (stripComment line)
      = indentation tabWidth (stripComment line ++ comment) :=
        (indentation_append (exists_of_code_ne_nil found) comment).symm
    _ = indentation tabWidth line := by rw [same]

theorem code_stripComment (line : List Char) : code (stripComment line) = code line := by
  rw [code, stripComment_stripComment, code]

/-- A comment behind items is no code. -/
theorem code_append_comment (items : Items line) (text : List Char) :
    code (line ++ '#' :: text) = code line := by
  have commented : CommentAfter line (line ++ '#' :: text) := ⟨items, text, rfl⟩
  rw [code, commented.stripComment, code, items.stripComment]

theorem IsMargin.allBlank (isMargin : IsMargin margin) : Text.AllBlank margin := by
  intro c member
  rcases isMargin c member with rfl | rfl <;> decide

theorem IsMargin.items (isMargin : IsMargin margin) : Items margin := by
  apply items_of_plain
  intro c member
  rcases isMargin c member with rfl | rfl <;> decide

/-- A margin in front of a line is no code. -/
theorem code_margin_append (isMargin : IsMargin margin) (line : List Char) :
    code (margin ++ line) = code line := by
  rw [code, stripComment, codeFrom_items isMargin.items,
    Text.trim_blanks_append isMargin.allBlank, code, stripComment]

/-- Blanks at the end of a line are no code. -/
theorem code_append_blanks (blank : Text.AllBlank blanks) (line : List Char) :
    code (line ++ blanks) = code line := by
  have unsigned : '#' ∉ blanks := by
    intro member
    cases blank '#' member
  rcases stripComment_append unsigned line with cut | kept
  · rw [code, cut, code]
  · rw [code, kept, Text.trim_append_blanks blank, code]

end Source

namespace Scope

open Source

variable {tabWidth : Nat} {left right line margin blanks : List Char}

/-- The judgement of a line that stands further right. -/
def indentedBy (scope : Scope) (width : Nat) : Scope :=
  { scope with indent := scope.indent + width }

/-- A line without code is a plain line at indent zero. -/
theorem ofLine_of_code_eq_nil (codeless : code line = []) : ofLine tabWidth line = {} := by
  rw [ofLine, codeless]
  rfl

/-- Lines of the same code differ in their indent at most. -/
theorem ofLine_of_code_eq (same : code left = code right) (found : code right ≠ []) :
    ofLine tabWidth left = { ofLine tabWidth right with indent := indentation tabWidth left } := by
  have nonempty : ¬(code right).isEmpty = true := fun empty => found (List.isEmpty_iff.mp empty)
  rw [ofLine, ofLine, same]
  simp only [if_neg nonempty]
  split
  · split <;> rfl
  · rfl

theorem indent_ofLine (found : code line ≠ []) :
    (ofLine tabWidth line).indent = indentation tabWidth line := by
  rw [ofLine_of_code_eq rfl found]

theorem indent_ofLine_le (tabWidth : Nat) (line : List Char) :
    (ofLine tabWidth line).indent ≤ Text.maxWord := by
  by_cases codeless : code line = []
  · rw [ofLine_of_code_eq_nil codeless]
    exact Nat.zero_le _
  · rw [indent_ofLine codeless]
    exact indentation_le tabWidth line

/-- Lines of the same code and, where there is code, the same indent are judged alike. -/
theorem ofLine_congr (same : code left = code right)
    (indented : code right ≠ [] → indentation tabWidth left = indentation tabWidth right) :
    ofLine tabWidth left = ofLine tabWidth right := by
  by_cases codeless : code right = []
  · rw [ofLine_of_code_eq_nil codeless, ofLine_of_code_eq_nil (same.trans codeless)]
  · rw [ofLine_of_code_eq same codeless, indented codeless, ← indent_ofLine codeless]

/-- A margin in front of a line with code moves it by its width and leaves its kind alone. -/
theorem ofLine_margin_append (isMargin : IsMargin margin) (found : code line ≠ []) :
    ofLine tabWidth (margin ++ line) =
      { ofLine tabWidth line with
        indent := Word.add (marginWidth tabWidth margin) (ofLine tabWidth line).indent } := by
  rw [ofLine_of_code_eq (code_margin_append isMargin line) found,
    indentation_margin_append isMargin, ← indent_ofLine found]

/-- As far as columns reach, a margin in front of a line with code moves it to the right. -/
theorem ofLine_margin_append_of_le (isMargin : IsMargin margin) (found : code line ≠ [])
    (fits : (ofLine tabWidth line).indent + marginWidth tabWidth margin ≤ Text.maxWord) :
    ofLine tabWidth (margin ++ line) =
      (ofLine tabWidth line).indentedBy (marginWidth tabWidth margin) := by
  rw [Nat.add_comm] at fits
  rw [ofLine_margin_append isMargin found, Word.add_eq_of_le fits, Nat.add_comm, indentedBy]

/-- Blanks at the end of a line do not change its judgement. -/
theorem ofLine_append_blanks (blank : Text.AllBlank blanks) (line : List Char) :
    ofLine tabWidth (line ++ blanks) = ofLine tabWidth line := by
  apply ofLine_congr (code_append_blanks blank line)
  intro found
  obtain ⟨c, member, notBlank⟩ := exists_of_code_ne_nil found
  exact indentation_append ⟨c, (stripComment_leads line).subset member, notBlank⟩ blanks

/--
The code of a line ends at the number sign that is reached between items, and where none is
reached, in particular where a literal is left open, the whole line is code.  Hence a line
without its comment has no further comment, and it is judged as it was; and a comment put at
the end of a line that consists of items does not change its judgement.
-/
theorem comment_begins_between_items (tabWidth : Nat) (line : List Char) :
    (∀ before, CommentAfter before line → stripComment line = before) ∧
    ((∀ before, ¬CommentAfter before line) → stripComment line = line) ∧
    (∀ before quote text, Items before → quote = '\'' ∨ quote = '"' → LeavesOpen quote text →
      line = before ++ quote :: text → stripComment line = line) ∧
    stripComment (stripComment line) = stripComment line ∧
    ofLine tabWidth (stripComment line) = ofLine tabWidth line ∧
    (Items line → ∀ text, ofLine tabWidth (line ++ '#' :: text) = ofLine tabWidth line) := by
  refine ⟨fun before commented => commented.stripComment, fun uncommented => ?_, ?_,
    stripComment_stripComment line, ?_, fun items text => ?_⟩
  · exact (stripComment_eq_self_or line).resolve_right (uncommented _)
  · rintro before quote text items quoted leftOpen rfl
    exact stripComment_of_leavesOpen items quoted leftOpen
  · exact ofLine_congr (code_stripComment line) indentation_stripComment
  · apply ofLine_congr (code_append_comment items text)
    intro found
    have inFront := exists_of_code_ne_nil found
    rw [items.stripComment] at inFront
    exact indentation_append inFront _

/-- A number sign in a literal begins no comment, and an escaped quote does not end the literal. -/
example :
    stripComment "s = 'it\\'s #1'  # text".toList = "s = 'it\\'s #1'  ".toList := by
  decide

end Scope

/-- A table tells of a line of its source what the line is judged to be. -/
theorem ScopeTable.get_ofLines (tabWidth : Nat) (source : List String) (line : Nat) :
    (ScopeTable.ofLines tabWidth source).get (line + 1) =
      (source[line]?.map fun text => Scope.ofLine tabWidth text.toList).getD {} := by
  rw [get, get?, ofLines, List.getElem?_map]

theorem ScopeTable.indent_get_le {table : ScopeTable} {bound : Nat}
    (narrow : ∀ scope ∈ table.scopes, scope.indent ≤ bound) (line : Nat) :
    (table.get line).indent ≤ bound := by
  cases line with
  | zero => exact Nat.zero_le _
  | succ line =>
      rw [get, get?]
      cases held : table.scopes[line]? with
      | none => exact Nat.zero_le _
      | some scope => exact narrow scope (List.mem_of_getElem? held)

end Playback
