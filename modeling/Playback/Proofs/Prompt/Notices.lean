import Playback.Proofs.Session.Account
import Playback.Proofs.Text.Lines
import Playback.Proofs.Text.Numeral
import Playback.Prompt.Basic

/-!
# Notices

Whatever the prompt shows besides a hit is a notice: a single line that does not begin like a hit.
What comes from elsewhere cannot break a line, as the source was cut at line feeds, a word has no
blanks and everything else is numbers; and before it always stands some text of the prompt itself.
-/

namespace Playback

namespace Session

variable {session changed : Session} {event : Option Event}

/-- Whether no line of the source is broken by a line feed. -/
def InLines (session : Session) : Prop :=
  ∀ text ∈ session.source, '\n' ∉ text.toList

/-- Only a start changes the source. -/
theorem Change.source_eq (change : session.Change event changed)
    (moves : ∀ told ∈ event, told.kind ≠ .start) : changed.source = session.source := by
  cases change with
  | started => exact (moves _ rfl rfl).elim
  | _ => rfl

theorem InLines.run (inLines : session.InLines) (command : Command) :
    (command.run session).session.InLines := by
  cases start : command.isStart with
  | false =>
      have same := (session.run_change command).source_eq fun told announced =>
        kind_run_ne_start start announced
      rw [InLines, same]
      exact inLines
  | true =>
      cases command with
      | start source trace breakpoints depths =>
          rcases session.restart_cases source { lines := trace, depths } breakpoints with
            ⟨refused, same⟩ | ⟨frames, _, _, _, same⟩
          · rw [Command.run, same]
            exact inLines
          · rw [Command.run, same]
            intro text member
            obtain ⟨line, known, rfl⟩ := List.mem_map.mp member
            rw [String.toList_ofList]
            exact Text.not_mem_of_mem_lines known
      | _ => cases start

theorem InLines.after (inLines : session.InLines) (commands : List Command) :
    (session.after commands).InLines := by
  induction commands generalizing session with
  | nil => exact inLines
  | cons command rest induction => exact induction (inLines.run command)

end Session

namespace Prompt

/-- A shown line that is a single line and does not begin like a hit. -/
structure IsNotice (text : String) : Prop where
  unbroken : '\n' ∉ text.toList
  noHit : ¬"Breakpoint hit at line ".toList <+: text.toList

/-- A fixed text is judged by its characters. -/
theorem isNotice_ofList {text : List Char} (unbroken : '\n' ∉ text)
    (begins : text.head? ≠ some 'B') : IsNotice (String.ofList text) := by
  constructor
  · rw [String.toList_ofList]
    exact unbroken
  · rw [String.toList_ofList, String.toList_ofList]
    rintro ⟨rest, rfl⟩
    exact begins rfl

theorem not_mem_toDigits (number : Nat) : '\n' ∉ Nat.toDigits 10 number :=
  Text.not_mem_numeral (by decide) number

theorem toString_eq_self (text : String) : toString text = text :=
  rfl

theorem not_mem_column (number : Nat) : '\n' ∉ (column number).toList := by
  have noPadding : ∀ count, '\n' ∉ List.replicate count ' ' := by
    intro count member
    cases List.eq_of_mem_replicate member
  simp [column, noPadding, not_mem_toDigits]

theorem not_mem_lineText {session : Session} (inLines : session.InLines) (line : Nat) :
    '\n' ∉ (lineText session line).toList := by
  rw [lineText]
  cases known : session.sourceLine? line with
  | none => exact List.not_mem_nil
  | some text =>
      cases line with
      | zero => cases known
      | succ line => exact inLines text (List.mem_of_getElem? known)

/-- Numbers between commas or arrows are on one line. -/
theorem not_mem_intercalate {separator : List Char} (unbroken : '\n' ∉ separator)
    (numbers : List Nat) :
    '\n' ∉ separator.intercalate (numbers.map (String.toList ∘ toString)) := by
  intro member
  rcases Text.mem_intercalate member with between | ⟨piece, known, holds⟩
  · exact unbroken between
  · obtain ⟨number, _, rfl⟩ := List.mem_map.mp known
    exact not_mem_toDigits number (by simpa using holds)

/-! ## What is displayed -/

theorem position_of_line {session : Session} {line : Nat}
    (here : session.snapshot.line = some line) :
    let now := session.snapshot
    position session =
      [s!"=> {column line} | {lineText session line}    " ++
        s!"[depth {now.depth}, step {now.index + 1}/{now.totalSteps}]"] := by
  rw [position.eq_def]
  dsimp only
  rw [here]

theorem isNotice_position {session : Session} (inLines : session.InLines) :
    ∀ text ∈ position session, IsNotice text := by
  intro text member
  rw [position.eq_def] at member
  dsimp only at member
  split at member
  case h_1 => cases member
  case h_2 line _ =>
    rw [List.mem_singleton.mp member]
    constructor
    · simp [toString_eq_self, not_mem_column, not_mem_lineText inLines, not_mem_toDigits]
    · simp [toString_eq_self]

theorem isNotice_state (session : Session) : ∀ text ∈ state session, IsNotice text := by
  have unbrokenStatus : '\n' ∉ session.snapshot.status.name.toList := by
    cases session.snapshot.status <;> simp [Status.name]
  have unbrokenKind : '\n' ∉ session.snapshot.kind.name.toList := by
    cases session.snapshot.kind <;> simp [ScopeKind.name]
  have unbrokenList := not_mem_intercalate (by simp : '\n' ∉ [',', ' '])
    session.snapshot.breakpoints
  intro text member
  simp only [state, List.mem_cons, List.not_mem_nil, or_false] at member
  rcases member with rfl | rfl | rfl | rfl | rfl | rfl | rfl
  case inr.inl =>
    constructor
    · cases session.snapshot.line <;> simp [toString_eq_self, not_mem_toDigits]
    · simp [toString_eq_self]
  case inr.inr.inr.inr.inr.inr =>
    constructor
    · cases session.snapshot.canStepBack <;> simp
    · simp
  all_goals
    constructor
    · simp [toString_eq_self, not_mem_toDigits, unbrokenStatus, unbrokenKind, unbrokenList]
    · simp [toString_eq_self]

theorem isNotice_scope (session : Session) (line : Nat) :
    ∀ text ∈ scope session line, IsNotice text := by
  intro text member
  rw [scope, List.mem_singleton] at member
  rw [member]
  constructor
  · cases (session.scopeOf line).kind <;> cases (session.scopeOf line).opensBlock <;>
      simp [toString_eq_self, not_mem_toDigits, ScopeKind.name]
  · simp [toString_eq_self]

theorem isNotice_history (session : Session) : ∀ text ∈ history session, IsNotice text := by
  have unbroken := not_mem_intercalate (by simp : '\n' ∉ [' ', '-', '>', ' '])
    session.snapshot.history
  intro text member
  rw [history, List.mem_singleton] at member
  rw [member]
  constructor
  · simp [unbroken]
  · simp

theorem isNotice_listing {session : Session} (inLines : session.InLines) :
    ∀ text ∈ listing session, IsNotice text := by
  intro text member
  obtain ⟨line, _, rfl⟩ := List.mem_map.mp member
  rw [listedLine]
  constructor
  · split <;> split <;>
      simp [toString_eq_self, not_mem_column, not_mem_lineText inLines]
  · split <;> split <;> simp

/-- What came of a request about a breakpoint. -/
theorem isNotice_note (line : Nat) : ∀ note ∈ ["set", "already set", "removed", "not set"],
    IsNotice s!"Breakpoint {note} at line {line}" := by
  intro note member
  simp only [List.mem_cons, List.not_mem_nil, or_false] at member
  rcases member with rfl | rfl | rfl | rfl <;> constructor <;>
    simp [toString_eq_self, not_mem_toDigits]

theorem isNotice_help : ∀ text ∈ help, IsNotice text := by
  intro text member
  simp only [help, List.mem_cons, List.not_mem_nil, or_false] at member
  rcases member with rfl | rfl | rfl | rfl | rfl | rfl | rfl | rfl | rfl | rfl | rfl | rfl | rfl |
    rfl | rfl | rfl | rfl | rfl <;> exact isNotice_ofList (by decide) (by decide)

theorem isNotice_outcomeLines {session : Session} (inLines : session.InLines) (outcome : Outcome) :
    ∀ text ∈ outcomeLines session outcome, IsNotice text := by
  have unbrokenStatus : '\n' ∉ session.status.name.toList := by
    cases session.status <;> simp [Status.name]
  intro text member
  cases outcome with
  | active => exact isNotice_position inLines text member
  | complete =>
      rw [List.mem_singleton.mp member]
      exact isNotice_ofList (by decide) (by decide)
  | inactive =>
      rw [List.mem_singleton.mp member]
      constructor
      · simp [toString_eq_self, unbrokenStatus]
      · simp [toString_eq_self]
  | error =>
      rw [List.mem_singleton.mp member]
      exact isNotice_ofList (by decide) (by decide)

theorem isNotice_errorLine {message : String} (unbroken : '\n' ∉ message.toList) :
    IsNotice (errorLine message) := by
  constructor
  · simp [errorLine, unbroken]
  · simp [errorLine]

theorem message_invalidLine (line sourceLines : Nat) :
    (SessionError.invalidLine line sourceLines).message =
      s!"invalid line number {line}: source has {sourceLines} lines" :=
  rfl

theorem message_indexNotFound (missing : MissingLine) :
    (SessionError.indexNotFound missing).message =
      s!"line {missing.line} does not occur in the trace at or after index {missing.start}" :=
  rfl

theorem message_depthMismatch (mismatch : DepthMismatch) :
    (SessionError.depthMismatch mismatch).message =
      s!"recorded depths cover {mismatch.found} trace entries, expected {mismatch.expected}" :=
  rfl

theorem not_mem_refusal (refused : SessionError) : '\n' ∉ refused.message.toList := by
  cases refused with
  | emptyTrace =>
      change '\n' ∉ "cannot start a session with an empty trace".toList
      simp
  | invalidLine line sourceLines =>
      rw [message_invalidLine]
      simp [toString_eq_self, not_mem_toDigits]
  | indexNotFound missing =>
      rw [message_indexNotFound]
      simp [toString_eq_self, not_mem_toDigits]
  | inactive =>
      change '\n' ∉ "session is not active".toList
      simp
  | depthMismatch mismatch =>
      rw [message_depthMismatch]
      simp [toString_eq_self, not_mem_toDigits]

theorem mem_of_mem_dropAt {c : Char} {text : List Char} (member : c ∈ Breakpoint.dropAt text) :
    c ∈ text := by
  rw [Breakpoint.dropAt.eq_def] at member
  split at member
  case h_1 => exact List.mem_cons_of_mem _ member
  case h_2 => exact member

theorem not_mem_badNumber {text : List Char} (unbroken : '\n' ∉ text)
    (reason : Text.NumeralError) :
    '\n' ∉ (BreakpointError.badNumber (String.ofList text) reason).message.toList := by
  change '\n' ∉ ("Invalid line number '" ++ String.ofList text ++ "': " ++ reason.message).toList
  cases reason <;> simp [Text.NumeralError.message, unbroken]

/-- What is wrong with an argument is told on one line if the argument is on one. -/
theorem not_mem_unread {argument : List Char} (unbroken : '\n' ∉ argument)
    {error : BreakpointError} (unread : Breakpoint.read argument = .error error) :
    '\n' ∉ error.message.toList := by
  rw [Breakpoint.read] at unread
  dsimp only at unread
  split at unread
  case isTrue =>
    cases unread
    change '\n' ∉ "Empty breakpoint location".toList
    simp
  case isFalse =>
    split at unread
    case h_1 reason _ =>
      cases unread
      apply not_mem_badNumber
      intro member
      have inside := mem_of_mem_dropAt (Text.mem_of_mem_trim member)
      exact unbroken (Text.mem_of_mem_trim inside)
    case h_2 =>
      cases unread
      change '\n' ∉ "Line numbers are 1-based, got 0".toList
      simp
    case h_3 => cases unread

end Prompt

end Playback
