import Playback.Proofs.Conversation
import Playback.Proofs.Json.Printer
import Playback.Proofs.Session.Words

/-!
# One line for each command

A client of a conversation tells the replies apart by counting lines.  The main statement is that it
can: there is one line for each line of the input that is not blank, in order, none holds a line
break whatever the source and the input hold, and each is read as an object with the reply to
its command under its only key.

What is said of a line that is no command comes from the reader of that line.  It is taken as a
parameter here, so nothing depends on its wording.
-/

namespace Playback

open Json (IsLine Number Value)

section

variable {allowed : Number → Prop} {nesting : Nat}

theorem Report.holds_toJson {report : Report}
    (allAllowed : ∀ number ∈ report.numbers, allowed (.whole number)) :
    report.toJson.Holds allowed (nesting + 1) := by
  simp only [Report.numbers, List.forall_mem_append, Option.mem_toList,
    List.forall_mem_singleton] at allAllowed
  obtain ⟨⟨⟨line, depth⟩, indent⟩, index⟩ := allAllowed
  refine .object ?_
  simp only [List.forall_mem_cons, List.not_mem_nil, false_implies, implies_true, and_true]
  exact
    ⟨.optional fun content _ => .text content,
      .optional fun number known => .natural (depth number known),
      .optional fun number known => .natural (indent number known),
      .natural index,
      .optional fun number known => .natural (line number known),
      .optional fun kind _ => .text kind.name,
      .text report.outcome.name⟩

theorem Snapshot.holds_toJson {snapshot : Snapshot}
    (allAllowed : ∀ number ∈ snapshot.numbers, allowed (.whole number)) :
    snapshot.toJson.Holds allowed (nesting + 2) := by
  simp only [Snapshot.numbers, List.forall_mem_append, Option.mem_toList, List.forall_mem_cons,
    List.not_mem_nil, false_implies, implies_true, and_true] at allAllowed
  obtain ⟨⟨⟨line, breakpoints⟩, history⟩, index, totalSteps, depth, indent⟩ := allAllowed
  refine .object ?_
  simp only [List.forall_mem_cons, List.not_mem_nil, false_implies, implies_true, and_true]
  exact
    ⟨.naturals breakpoints, .boolean _, .natural depth, .natural indent, .natural index,
      .optional fun number known => .natural (line number known), .text _, .naturals history,
      .boolean _, .text _, .natural totalSteps⟩

theorem Reply.holds_toJson {reply : Reply}
    (allAllowed : ∀ number ∈ reply.numbers, allowed (.whole number)) :
    reply.toJson.Holds allowed (nesting + 2) := by
  have pair : ∀ {first second : Value} {key other : String},
      first.Holds allowed (nesting + 1) → second.Holds allowed (nesting + 1) →
        (Value.object [(key, first), (other, second)]).Holds allowed (nesting + 2) :=
    fun holds holdsSecond =>
      .object (List.forall_mem_cons.mpr ⟨holds, List.forall_mem_singleton.mpr holdsSecond⟩)
  cases reply with
  | report shown => exact Report.holds_toJson allAllowed
  | added isNew breakpoints => exact pair (.boolean isNew) (.naturals allAllowed)
  | removed wasSet breakpoints => exact pair (.naturals allAllowed) (.boolean wasSet)
  | toggled isSet breakpoints => exact pair (.naturals allAllowed) (.boolean isSet)
  | cleared count breakpoints =>
      obtain ⟨counted, listed⟩ := List.forall_mem_cons.mp allAllowed
      exact pair (.naturals listed) (.natural counted)
  | state shown => exact Snapshot.holds_toJson allAllowed
  | scope judgement =>
      refine .object ?_
      simp only [List.forall_mem_cons, List.not_mem_nil, false_implies, implies_true, and_true]
      exact ⟨.natural (allAllowed _ List.mem_cons_self), .boolean _, .text _⟩

end

namespace Conversation

/-- An answer as JSON, where more is said of a line that is no command. -/
def Answer.toJsonWith (detail : String) : Answer → Value
  | .unreadable => .object [("error", .text ("Invalid command" ++ detail))]
  | answer => answer.toJson

/-- The numbers that an answer shows. -/
def Answer.numbers : Answer → List Nat
  | .ok reply => reply.numbers
  | .refused _ | .unreadable => []

variable {answered : Answer}

theorem Answer.holds_toJsonWith {allowed : Number → Prop} {nesting : Nat} (detail : String)
    (allAllowed : ∀ number ∈ answered.numbers, allowed (.whole number)) :
    (answered.toJsonWith detail).Holds allowed (nesting + 3) := by
  cases answered with
  | ok reply => exact .object (List.forall_mem_singleton.mpr (Reply.holds_toJson allAllowed))
  | refused error => exact .object (List.forall_mem_singleton.mpr (.text _))
  | unreadable => exact .object (List.forall_mem_singleton.mpr (.text _))

/-- An answer is printed on one line. -/
theorem Answer.isLine (answered : Answer) (detail : String) :
    IsLine (answered.toJsonWith detail).spelling := by
  have holds :
      (answered.toJsonWith detail).Holds (fun number => ∃ count, number = .whole count) 3 :=
    answered.holds_toJsonWith detail fun count _ => ⟨count, rfl⟩
  refine holds.isLine ?_
  rintro number ⟨count, rfl⟩
  exact Json.isLine_numeral count

/-- An answer is an object with one member, for a reply or for an error. -/
theorem Answer.exists_toJsonWith_eq (answered : Answer) (detail : String) :
    ∃ content, answered.toJsonWith detail = .object [("ok", content)] ∨
      answered.toJsonWith detail = .object [("error", content)] := by
  cases answered with
  | ok reply => exact ⟨_, Or.inl rfl⟩
  | refused error => exact ⟨_, Or.inr rfl⟩
  | unreadable => exact ⟨_, Or.inr rfl⟩

/-- An answer whose numbers fit 64 bits is read from its line. -/
theorem Answer.read?_spelling (detail : String)
    (fits : ∀ number ∈ answered.numbers, number ≤ Text.maxWord) :
    Json.read? (answered.toJsonWith detail).spelling = some (answered.toJsonWith detail) := by
  have holds : (answered.toJsonWith detail).Holds Number.FitsWord (124 + 3) :=
    answered.holds_toJsonWith detail fits
  exact holds.readable.read?

/-! ## Runs -/

/-- The lines that are not blank, without the blanks around them. -/
def asked (lines : List (List Char)) : List (List Char) :=
  (lines.map Text.trim).filter (!·.isEmpty)

/-- What a conversation prints when it says more of lines that are no commands. -/
def printWith (detail : List Char → String) (session : Session) (input : List Char) : List Char :=
  Text.unlines ((exchanges session (Text.lines input)).map fun exchange =>
    (exchange.turn.answer.toJsonWith (detail (Text.trim exchange.line))).spelling)

/-- A conversation that says nothing more prints what it prints. -/
theorem printWith_nothing (session : Session) (input : List Char) :
    printWith (fun _ => "") session input = print session input := by
  have same : ∀ answered : Answer, answered.toJsonWith "" = answered.toJson := by
    intro answered
    cases answered <;> rfl
  rw [printWith, Text.unlines, List.flatMap_map, print, ← map_turn_exchanges, List.flatMap_map]
  simp only [same]

/-- A first line is blank and passed over, or it is asked and answered. -/
theorem asked_cons (session : Session) (line : List Char) (rest : List (List Char)) :
    (asked (line :: rest) = asked rest ∧
        exchanges session (line :: rest) = exchanges session rest) ∨
      ¬(Text.trim line).isEmpty = true ∧
        asked (line :: rest) = Text.trim line :: asked rest ∧
          exchanges session (line :: rest) =
            { line, turn := answer session (Text.trim line) } ::
              exchanges (answer session (Text.trim line)).session rest := by
  rw [asked, List.map_cons, List.filter_cons, exchanges]
  by_cases blank : (Text.trim line).isEmpty = true
  · rw [if_neg (by simp [List.isEmpty_iff.mp blank])]
    exact Or.inl ⟨rfl, if_pos blank⟩
  · rw [if_pos (by rw [Bool.eq_false_iff.mpr blank]; rfl)]
    exact Or.inr ⟨blank, rfl, if_neg blank⟩

theorem length_exchanges (session : Session) (lines : List (List Char)) :
    (exchanges session lines).length = (asked lines).length := by
  induction lines generalizing session with
  | nil => rfl
  | cons line rest induction =>
      rcases asked_cons session line rest with ⟨passed, same⟩ | ⟨_, spoken, answered⟩
      · rw [passed, same, induction]
      · rw [spoken, answered, List.length_cons, List.length_cons, induction]

/-- The lines that are asked are answered one by one, each from where the earlier ones lead. -/
theorem getElem?_exchanges {lines before later : List (List Char)} {command : List Char}
    (session : Session) (split : asked lines = before ++ command :: later) :
    ∃ line, Text.trim line = command ∧
      (exchanges session lines)[before.length]? =
        some { line, turn := answer (sessionAfter session (turns session before)) command } := by
  induction lines generalizing session before with
  | nil => exact (List.append_ne_nil_of_right_ne_nil before (List.cons_ne_nil _ _) split.symm).elim
  | cons line rest induction =>
      rcases asked_cons session line rest with ⟨passed, same⟩ | ⟨notBlank, spoken, answered⟩
      · rw [same]
        exact induction session (passed ▸ split)
      · rw [spoken] at split
        rw [answered]
        cases before with
        | nil =>
            obtain ⟨rfl, _⟩ := List.cons.inj split
            exact ⟨line, rfl, rfl⟩
        | cons earlier before =>
            obtain ⟨rfl, splitRest⟩ := List.cons.inj split
            obtain ⟨found, trimmed, held⟩ := induction _ splitRest
            refine ⟨found, trimmed, ?_⟩
            rw [List.length_cons, List.getElem?_cons_succ, held, turns]
            dsimp only
            rw [Text.trim_trim, if_neg notBlank, sessionAfter_cons]

variable {session : Session}

theorem fitsWords_answer (fits : session.FitsWords) {line : List Char}
    (short : line.length ≤ Text.maxWord) : (answer session line).session.FitsWords := by
  unfold answer
  split
  case h_1 command read =>
    exact fits.run (Command.fitsWords_of_read? read) (Command.countable_of_read? read short)
  case h_2 => exact fits

theorem fitsWords_sessionAfter (fits : session.FitsWords) {lines : List (List Char)}
    (short : ∀ line ∈ lines, (Text.trim line).length ≤ Text.maxWord) :
    (sessionAfter session (turns session lines)).FitsWords := by
  induction lines generalizing session with
  | nil => exact fits
  | cons line rest induction =>
      obtain ⟨shortFirst, shortRest⟩ := List.forall_mem_cons.mp short
      rw [turns]
      dsimp only
      split
      case isTrue => exact induction fits shortRest
      case isFalse =>
        rw [sessionAfter_cons]
        exact induction (fitsWords_answer fits shortFirst) shortRest

/-- The numbers of an answer fit when those of the session do. -/
theorem fits_numbers_answer (fits : session.FitsWords) {line : List Char}
    (short : line.length ≤ Text.maxWord) :
    ∀ number ∈ (answer session line).answer.numbers, number ≤ Text.maxWord := by
  have fitsAfter := fitsWords_answer fits short
  unfold answer at fitsAfter ⊢
  split
  case h_1 command read =>
    rw [read] at fitsAfter
    rw [Turn.map]
    cases reply : (command.run session).answer with
    | ok reply' => exact fits.numbers_reply fitsAfter reply
    | error refused => exact List.forall_mem_nil _
  case h_2 => exact List.forall_mem_nil _

/--
What a conversation prints are as many lines as it is asked, without control characters.  Each is
the text of an object with one member, the answer to the line at its place from where the
earlier ones lead, and it is read as this object if the numbers of the session and the lengths of
the lines are 64-bit numbers.
-/
theorem one_line_for_each_command (session : Session) (detail : List Char → String)
    (input : List Char) :
    let asked := asked (Text.lines input)
    let printed := printWith detail session input
    let replies := Text.lines printed
    printed = Text.unlines replies ∧
      (∀ reply ∈ replies, ∀ c ∈ reply, 0x20 ≤ c.toNat) ∧
      replies.length = asked.length ∧
      ∀ before command later, asked = before ++ command :: later →
        let reached := sessionAfter session (turns session before)
        let value := (answer reached command).answer.toJsonWith (detail command)
        replies[before.length]? = some value.spelling ∧
          (∃ content, value = .object [("ok", content)] ∨ value = .object [("error", content)]) ∧
          (session.FitsWords → (∀ line ∈ asked, line.length ≤ Text.maxWord) →
            Json.read? value.spelling = some value) := by
  intro asked printed replies
  let written := (exchanges session (Text.lines input)).map fun exchange =>
    (exchange.turn.answer.toJsonWith (detail (Text.trim exchange.line))).spelling
  have isLine : ∀ reply ∈ written, IsLine reply := by
    intro reply member
    obtain ⟨exchange, _, rfl⟩ := List.mem_map.mp member
    exact exchange.turn.answer.isLine _
  have same : replies = written := by
    have unbroken : ∀ reply ∈ written, '\n' ∉ reply := fun reply member =>
      (isLine reply member).not_mem (by decide)
    have unchanged : ∀ reply ∈ written, Text.reread reply = id reply := fun reply member =>
      Text.reread_eq_self ((isLine reply member).not_mem (by decide))
    calc
      replies = written.map Text.reread := Text.lines_unlines unbroken
      _ = written.map id := List.map_congr_left unchanged
      _ = written := List.map_id written
  rw [same]
  refine ⟨rfl, isLine, ?_, ?_⟩
  · rw [List.length_map]
    exact length_exchanges session _
  · intro before command later split reached value
    obtain ⟨line, trimmed, held⟩ := getElem?_exchanges session split
    refine ⟨?_, Answer.exists_toJsonWith_eq _ _, fun fits short => ?_⟩
    · rw [List.getElem?_map, held, Option.map_some, trimmed]
    · have shortBefore : ∀ line ∈ before, (Text.trim line).length ≤ Text.maxWord := by
        intro line member
        exact (Text.length_trim_le line).trans (short line (split ▸ List.mem_append_left _ member))
      have fitsReached := fitsWords_sessionAfter fits shortBefore
      have commandAsked : command ∈ asked :=
        split ▸ List.mem_append_right before List.mem_cons_self
      exact Answer.read?_spelling _ (fits_numbers_answer fitsReached (short command commandAsked))

/-- A source with a line separator, a blank line, and a refusal that quotes a carriage return. -/
theorem one_line_for_each_command_with_breaks :
    let start :=
      "\x7b\"command\": \"start\", \"source\": \"a\\u2028\\r\\n\", \"trace\": [1]\x7d".toList
    let refused := "no\rway".toList
    let input := start ++ "\r\n\u3000\n".toList ++ refused
    let session := Session.new {}
    let reached := sessionAfter session (turns session [start])
    let value := (answer reached refused).answer.toJsonWith "no\rway"
    session.FitsWords ∧ (∀ line ∈ asked (Text.lines input), line.length ≤ Text.maxWord) ∧
      (Text.lines (printWith String.ofList session input))[1]? = some value.spelling ∧
      Json.read? value.spelling = some value := by
  intro start refused input session reached value
  have fits := Session.fitsWords_new {}
  have split : asked (Text.lines input) = [start] ++ refused :: [] := by decide +kernel
  have short : ∀ line ∈ asked (Text.lines input), line.length ≤ Text.maxWord := by decide +kernel
  obtain ⟨-, -, -, replies⟩ := one_line_for_each_command session String.ofList input
  obtain ⟨held, -, read⟩ := replies [start] refused [] split
  exact ⟨fits, short, held, read fits short⟩

end Conversation

end Playback
