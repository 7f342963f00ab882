import Playback.Source.Comment

/-!
# Where the comment of a line begins

From the left, a line is a sequence of items: plain characters, and string literals from a quote
to the quote that closes it.  The comment begins at the number sign that is reached between two
items, and there is at most one, since no item begins with a number sign.  If none is reached, the
line has no comment.  Either it consists of items, or after some items comes a literal that the
line leaves open, which hides every number sign behind its quote.

The reader of comments knows nothing of items: it goes character by character and remembers the
quote of the literal it is in.  The statements about whole lines come from one statement for each
of the two situations, inside of a literal and outside.
-/

namespace Playback.Source

/-- What stands between the quotes of a literal: plain characters, and escaped ones of any kind. -/
inductive LiteralBody (quote : Char) : List Char → Prop
  | nil : LiteralBody quote []
  | plain {c : Char} {rest : List Char} (notQuote : c ≠ quote) (notEscape : c ≠ '\\')
      (more : LiteralBody quote rest) : LiteralBody quote (c :: rest)
  | escaped {c : Char} {rest : List Char} (more : LiteralBody quote rest) :
      LiteralBody quote ('\\' :: c :: rest)

/-- One item of a line: a plain character, or a literal with both quotes. -/
inductive Item : List Char → Prop
  | character {c : Char} (notSingle : c ≠ '\'') (notDouble : c ≠ '"') (notSign : c ≠ '#') : Item [c]
  | literal {quote : Char} {body : List Char} (quoted : quote = '\'' ∨ quote = '"')
      (closed : LiteralBody quote body) : Item (quote :: body ++ [quote])

/-- Items one after the other. -/
inductive Items : List Char → Prop
  | nil : Items []
  | cons {item rest : List Char} (first : Item item) (more : Items rest) : Items (item ++ rest)

/-- A line in which items are followed by a number sign, where the comment begins. -/
def CommentAfter (before line : List Char) : Prop :=
  Items before ∧ ∃ comment, line = before ++ '#' :: comment

/-- Behind a quote, the text never comes to the quote that would close the literal. -/
def LeavesOpen (quote : Char) (text : List Char) : Prop :=
  ∀ body rest, LiteralBody quote body → text ≠ body ++ quote :: rest

variable {quote c : Char} {line text body before rest : List Char}

theorem isQuote_iff : isQuote c = true ↔ c = '\'' ∨ c = '"' := by
  rw [isQuote, Bool.or_eq_true, decide_eq_true_eq, decide_eq_true_eq, or_comm]

theorem Items.cons_character (notSingle : c ≠ '\'') (notDouble : c ≠ '"') (notSign : c ≠ '#')
    (more : Items rest) : Items (c :: rest) :=
  .cons (.character notSingle notDouble notSign) more

theorem Items.cons_literal (quoted : quote = '\'' ∨ quote = '"')
    (closed : LiteralBody quote body) (more : Items rest) :
    Items (quote :: (body ++ quote :: rest)) := by
  have items := Items.cons (.literal quoted closed) more
  rw [List.append_assoc] at items
  exact items

/-- A text without quotes and number signs consists of items. -/
theorem items_of_plain (plain : ∀ c ∈ text, c ≠ '\'' ∧ c ≠ '"' ∧ c ≠ '#') : Items text := by
  induction text with
  | nil => exact .nil
  | cons c rest induction =>
      obtain ⟨⟨notSingle, notDouble, notSign⟩, others⟩ := List.forall_mem_cons.mp plain
      exact .cons_character notSingle notDouble notSign (induction others)

/-- A closed literal is read to its end. -/
theorem codeFrom_body (notEscape : quote ≠ '\\') (closed : LiteralBody quote body) :
    codeFrom (some quote) (body ++ quote :: rest) = body ++ quote :: codeFrom none rest := by
  induction closed with
  | nil =>
      rw [List.nil_append, codeFrom.eq_3 quote quote rest fun _ _ escape => absurd escape notEscape,
        if_pos rfl, List.nil_append]
  | @plain c tail notQuote plain _ induction =>
      rw [List.cons_append, codeFrom.eq_3 quote c _ fun _ _ escape => absurd escape plain,
        if_neg notQuote, induction, List.cons_append]
  | escaped _ induction =>
      rw [List.cons_append, List.cons_append, codeFrom, induction, List.cons_append,
        List.cons_append]

theorem codeFrom_item {item : List Char} (read : Item item) :
    codeFrom none (item ++ rest) = item ++ codeFrom none rest := by
  cases read with
  | @character c notSingle notDouble notSign =>
      have plain : ¬isQuote c = true := by simp [isQuote_iff, notSingle, notDouble]
      rw [List.singleton_append, codeFrom, if_neg notSign, if_neg plain, List.singleton_append]
  | @literal quote body quoted closed =>
      have notSign : quote ≠ '#' := by rcases quoted with rfl | rfl <;> decide
      have notEscape : quote ≠ '\\' := by rcases quoted with rfl | rfl <;> decide
      simp only [List.cons_append, List.append_assoc, List.nil_append]
      rw [codeFrom, if_neg notSign, if_pos (isQuote_iff.mpr quoted), codeFrom_body notEscape closed]

/-- Items are read to their end, whatever comes after them. -/
theorem codeFrom_items (items : Items text) :
    codeFrom none (text ++ rest) = text ++ codeFrom none rest := by
  induction items with
  | nil => rfl
  | cons first _ induction =>
      rw [List.append_assoc, codeFrom_item first, induction, List.append_assoc]

/-- What comes before the number sign that is reached between items is kept. -/
theorem CommentAfter.stripComment (commented : CommentAfter before line) :
    stripComment line = before := by
  obtain ⟨items, comment, rfl⟩ := commented
  rw [Source.stripComment, codeFrom_items items, codeFrom, if_pos rfl, List.append_nil]

theorem Items.stripComment (items : Items line) : stripComment line = line := by
  have read : codeFrom none (line ++ []) = line ++ codeFrom none [] := codeFrom_items items
  rw [List.append_nil, codeFrom, List.append_nil] at read
  exact read

/-! ## Reading any line -/

/-- A text that leads to a point between items, from within the literal `literal` if there is
one. -/
def LeadsOut : (literal : Option Char) → List Char → Prop
  | none, text => Items text
  | some quote, text =>
    ∃ body rest, LiteralBody quote body ∧ Items rest ∧ text = body ++ quote :: rest

/-- A text is kept whole, or up to a number sign between items. -/
def KeptUpToSign (literal : Option Char) (text code : List Char) : Prop :=
  code = text ∨ LeadsOut literal code ∧ ∃ comment, text = code ++ '#' :: comment

/-- What was read before belongs to what is kept. -/
theorem KeptUpToSign.append {literal next : Option Char} {code : List Char}
    (kept : KeptUpToSign next rest code) (front : List Char)
    (leads : ∀ code, LeadsOut next code → LeadsOut literal (front ++ code)) :
    KeptUpToSign literal (front ++ rest) (front ++ code) := by
  rcases kept with rfl | ⟨out, comment, rfl⟩
  · exact Or.inl rfl
  · exact Or.inr ⟨leads code out, comment, by rw [List.append_assoc]⟩

theorem keptUpToSign_codeFrom (literal : Option Char) (text : List Char) :
    KeptUpToSign literal text (codeFrom literal text) := by
  fun_induction codeFrom literal text with
  | case1 => exact Or.inl rfl
  | case2 quote c rest induction =>
      refine induction.append ['\\', c] ?_
      rintro _ ⟨body, after, closed, items, rfl⟩
      exact ⟨_, after, .escaped closed, items, rfl⟩
  | case3 quote c rest unescaped induction =>
      by_cases closes : c = quote
      · rw [if_pos closes] at induction ⊢
        subst closes
        exact induction.append [c] fun code items => ⟨[], code, .nil, items, rfl⟩
      · rw [if_neg closes] at induction ⊢
        by_cases escape : c = '\\'
        · -- A backslash at the very end of the line has nothing to take along.
          cases rest with
          | nil => exact Or.inl rfl
          | cons d rest => exact (unescaped d rest escape rfl).elim
        · refine induction.append [c] ?_
          rintro _ ⟨body, after, closed, items, rfl⟩
          exact ⟨_, after, .plain closes escape closed, items, rfl⟩
  | case4 rest => exact Or.inr ⟨.nil, rest, rfl⟩
  | case5 c rest notSign induction =>
      by_cases quoted : isQuote c = true
      · rw [if_pos quoted] at induction ⊢
        refine induction.append [c] ?_
        rintro _ ⟨body, after, closed, items, rfl⟩
        exact items.cons_literal (isQuote_iff.mp quoted) closed
      · rw [if_neg quoted] at induction ⊢
        have plain : c ≠ '\'' ∧ c ≠ '"' := not_or.mp fun mark => quoted (isQuote_iff.mpr mark)
        exact induction.append [c] fun code items =>
          items.cons_character plain.1 plain.2 notSign

/-- A line is kept whole, or up to the number sign that is reached between items. -/
theorem stripComment_eq_self_or (line : List Char) :
    stripComment line = line ∨ CommentAfter (stripComment line) line :=
  keptUpToSign_codeFrom none line

/-- What is kept of a line stands at its front. -/
theorem stripComment_leads (line : List Char) : stripComment line <+: line := by
  rcases stripComment_eq_self_or line with whole | ⟨_, comment, same⟩
  · exact ⟨[], (List.append_nil _).trans whole⟩
  · exact ⟨'#' :: comment, same.symm⟩

/-- A literal that the line leaves open hides the number signs in it. -/
theorem stripComment_of_leavesOpen (items : Items before)
    (quoted : quote = '\'' ∨ quote = '"') (leftOpen : LeavesOpen quote text) :
    stripComment (before ++ quote :: text) = before ++ quote :: text := by
  have notSign : quote ≠ '#' := by rcases quoted with rfl | rfl <;> decide
  have kept : codeFrom (some quote) text = text := by
    rcases keptUpToSign_codeFrom (some quote) text with whole | ⟨⟨body, rest, closed, _, same⟩, cut⟩
    · exact whole
    · obtain ⟨comment, split⟩ := cut
      rw [same, List.append_assoc] at split
      exact (leftOpen body _ closed split).elim
  rw [stripComment, codeFrom_items items, codeFrom, if_neg notSign,
    if_pos (isQuote_iff.mpr quoted), kept]

theorem stripComment_stripComment (line : List Char) :
    stripComment (stripComment line) = stripComment line := by
  rcases stripComment_eq_self_or line with whole | ⟨items, _⟩
  · rw [whole, whole]
  · exact items.stripComment

/-- A comment that a line has is not moved by what is put at its end. -/
theorem CommentAfter.append (commented : CommentAfter before line) (text : List Char) :
    CommentAfter before (line ++ text) := by
  obtain ⟨items, comment, rfl⟩ := commented
  exact ⟨items, comment ++ text, List.append_assoc _ _ _⟩

/-- Text without a number sign, put at the end of a line, begins no comment. -/
theorem CommentAfter.of_append (unsigned : '#' ∉ text)
    (commented : CommentAfter before (line ++ text)) : CommentAfter before line := by
  obtain ⟨items, comment, split⟩ := commented
  rcases List.append_eq_append_iff.mp split with ⟨middle, _, later⟩ | ⟨middle, same, later⟩
  · exact (unsigned (by simp [later])).elim
  · cases middle with
    | nil =>
        rw [List.nil_append] at later
        exact (unsigned (later ▸ List.mem_cons_self)).elim
    | cons sign comment =>
        obtain ⟨rfl, _⟩ := List.cons.inj later
        exact ⟨items, comment, same⟩

/-- Text without a number sign, put at the end of a line, is kept unless the line has a comment. -/
theorem stripComment_append (unsigned : '#' ∉ text) (line : List Char) :
    stripComment (line ++ text) = stripComment line ∨
      stripComment (line ++ text) = stripComment line ++ text := by
  rcases stripComment_eq_self_or line with whole | commented
  · rcases stripComment_eq_self_or (line ++ text) with wholeLonger | commented
    · exact Or.inr (by rw [wholeLonger, whole])
    · exact Or.inl (commented.of_append unsigned).stripComment.symm
  · exact Or.inl (commented.append text).stripComment

end Playback.Source
