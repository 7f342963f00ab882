import Playback.Conversation
import Playback.Proofs.Session.Refusal
import Playback.Proofs.Text.Lines

/-!
# A conversation without its idle lines

Many lines of a conversation come to nothing: blank ones, those that are no command, commands that
the session refuses, and queries.  Deleting all of them from the input gives a shorter
conversation.  The main statement is that nothing else of the conversation changes: every
line that is left is answered as before, from the same session to the same session, with
the same event.

Each deleted line leaves the session that the later lines are given to as it was.  The proof is an
induction over the lines with just this for its step.
-/

namespace Playback.Conversation

/-- A line of the input together with the turn that it is. -/
structure Exchange where
  line : List Char
  turn : Turn Answer

/-- The lines that are not blank with their turns, in order. -/
def exchanges (session : Session) : List (List Char) → List Exchange
  | [] => []
  | line :: rest =>
    let command := Text.trim line
    if command.isEmpty then
      exchanges session rest
    else
      let turn := answer session command
      { line, turn } :: exchanges turn.session rest

/-- Whether a line spells out a command that only shows something. -/
def isQuery (line : List Char) : Bool :=
  (Command.read? (Text.trim line)).any (·.isQuery)

/-- Whether an answer is the reply to a command that the session accepts. -/
def Answer.isReply : Answer → Bool
  | .ok _ => true
  | .refused _ | .unreadable => false

/-- An exchange by which the session may change: an accepted command that is no query. -/
def Exchange.counts (exchange : Exchange) : Bool :=
  exchange.turn.answer.isReply && !isQuery exchange.line

/-- The exchanges of a conversation that count. -/
def counted (session : Session) (lines : List (List Char)) : List Exchange :=
  (exchanges session lines).filter (·.counts)

/-- What a conversation prints for an exchange. -/
def Exchange.printed (exchange : Exchange) : List Char :=
  exchange.turn.answer.toJson.spelling ++ ['\n']

/-- The exchanges of a conversation are its turns, each with the line it answers. -/
theorem map_turn_exchanges (session : Session) (lines : List (List Char)) :
    (exchanges session lines).map (·.turn) = turns session lines := by
  induction lines generalizing session with
  | nil => rfl
  | cons line rest induction =>
      rw [exchanges, turns]
      split
      · exact induction session
      · rw [List.map_cons, induction]

/-- The lines of a conversation matter only as far as trimming leaves them. -/
theorem turns_map_of_trim {change : List Char → List Char}
    (same : ∀ line, Text.trim (change line) = Text.trim line) (session : Session)
    (lines : List (List Char)) : turns session (lines.map change) = turns session lines := by
  induction lines generalizing session with
  | nil => rfl
  | cons line rest induction =>
      rw [List.map_cons, turns, turns, same]
      split
      · exact induction session
      · exact congrArg _ (induction _)

theorem sessionAfter_cons {α : Type} (session : Session) (turn : Turn α)
    (rest : List (Turn α)) :
    sessionAfter session (turn :: rest) = sessionAfter turn.session rest := by
  cases rest with
  | nil => rfl
  | cons next later =>
      rw [sessionAfter, sessionAfter, List.getLast?_cons_cons,
        List.getLast?_eq_some_getLast (List.cons_ne_nil next later)]

/-- A conversation on lines without line feeds prints the answers to these lines. -/
theorem print_unlines {lines : List (List Char)} (session : Session)
    (unbroken : ∀ line ∈ lines, '\n' ∉ line) :
    print session (Text.unlines lines) = (exchanges session lines).flatMap (·.printed) := by
  rw [print, Text.lines_unlines unbroken, turns_map_of_trim Text.trim_reread,
    ← map_turn_exchanges, List.flatMap_map]
  rfl

/-! ## Lines that do not count -/

/-- A line that does not count leaves the session as it was and announces nothing. -/
theorem answer_of_not_counts {session : Session} {line : List Char}
    (idle : ({ line, turn := answer session (Text.trim line) } : Exchange).counts = false) :
    (answer session (Text.trim line)).session = session ∧
      (answer session (Text.trim line)).event = none := by
  cases read : Command.read? (Text.trim line) with
  | none =>
      rw [answer, read]
      exact ⟨rfl, rfl⟩
  | some command =>
      have turn : answer session (Text.trim line) = (command.run session).map .ofReply := by
        rw [answer, read]
      rw [turn]
      cases reply : (command.run session).answer with
      | error refused =>
          rw [(session.refusesCleanly_run command).same reply]
          exact ⟨rfl, rfl⟩
      | ok reply' =>
          have query : command.isQuery = true := by
            simpa [Exchange.counts, turn, Turn.map, reply, Answer.ofReply, Answer.isReply,
              isQuery, read] using idle
          exact Session.run_of_isQuery query

/--
A first line is blank, or it counts, or it does not and leaves the session as it was and announces
nothing.
-/
theorem counted_cons (session : Session) (line : List Char) (rest : List (List Char)) :
    (turns session (line :: rest) = turns session rest ∧
        counted session (line :: rest) = counted session rest) ∨
      ¬(Text.trim line).isEmpty = true ∧ ∃ turn, answer session (Text.trim line) = turn ∧
        turns session (line :: rest) = turn :: turns turn.session rest ∧
        (counted session (line :: rest) = { line, turn } :: counted turn.session rest ∨
          turn.session = session ∧ turn.event = none ∧
            counted session (line :: rest) = counted session rest) := by
  rw [turns, counted, exchanges]
  split
  case isTrue => exact Or.inl ⟨rfl, rfl⟩
  case isFalse spoken =>
    refine Or.inr ⟨spoken, _, rfl, rfl, ?_⟩
    rw [List.filter_cons]
    split
    case isTrue => exact Or.inl rfl
    case isFalse idle =>
      obtain ⟨same, silent⟩ := answer_of_not_counts (Bool.eq_false_iff.mpr idle)
      rw [same]
      exact Or.inr ⟨rfl, silent, rfl⟩

/-- Without the lines that do not count, a conversation consists of the exchanges that count. -/
theorem exchanges_counted (session : Session) (lines : List (List Char)) :
    exchanges session ((counted session lines).map (·.line)) = counted session lines := by
  induction lines generalizing session with
  | nil => rfl
  | cons line rest induction =>
      rcases counted_cons session line rest with
        ⟨_, blank⟩ | ⟨spoken, turn, answered, _, counts | ⟨_, _, idle⟩⟩
      · rw [blank, induction]
      · rw [counts, List.map_cons, exchanges, if_neg spoken, answered]
        exact congrArg _ (induction turn.session)
      · rw [idle, induction]

/-- The lines that do not count have no part in where a conversation ends. -/
theorem sessionAfter_counted (session : Session) (lines : List (List Char)) :
    sessionAfter session ((counted session lines).map (·.turn)) =
      sessionAfter session (turns session lines) := by
  induction lines generalizing session with
  | nil => rfl
  | cons line rest induction =>
      rcases counted_cons session line rest with
        ⟨all, blank⟩ | ⟨_, turn, _, all, counts | ⟨same, _, idle⟩⟩
      · rw [all, blank, induction]
      · rw [all, counts, List.map_cons, sessionAfter_cons, sessionAfter_cons, induction]
      · rw [all, idle, sessionAfter_cons, same, induction]

/-- The lines that do not count announce nothing. -/
theorem events_counted (session : Session) (lines : List (List Char)) :
    (counted session lines).filterMap (·.turn.event) =
      (turns session lines).filterMap (·.event) := by
  induction lines generalizing session with
  | nil => rfl
  | cons line rest induction =>
      rcases counted_cons session line rest with
        ⟨all, blank⟩ | ⟨_, turn, _, all, counts | ⟨same, silent, idle⟩⟩
      · rw [all, blank, induction]
      · rw [all, counts, List.filterMap_cons, List.filterMap_cons, induction]
      · rw [all, idle, List.filterMap_cons_none silent, same, induction]

/-- A line that counts is one of the lines of the conversation. -/
theorem mem_of_mem_counted {session : Session} {lines : List (List Char)}
    {exchange : Exchange} (member : exchange ∈ counted session lines) :
    exchange.line ∈ lines := by
  induction lines generalizing session with
  | nil => cases member
  | cons line rest induction =>
      rcases counted_cons session line rest with
        ⟨_, blank⟩ | ⟨_, turn, _, _, counts | ⟨_, _, idle⟩⟩
      · exact List.mem_cons_of_mem line (induction (blank ▸ member))
      · rw [counts] at member
        rcases List.mem_cons.mp member with rfl | later
        · exact List.mem_cons_self
        · exact List.mem_cons_of_mem line (induction later)
      · exact List.mem_cons_of_mem line (induction (idle ▸ member))

/--
Deleting the lines that are blank, refused, unreadable or queries from the input of a conversation
leaves every other line with its whole turn, and the conversation with the session it ends in
and the events it announces.  What is printed are exactly the answers that are left.
-/
theorem counted_conversation (settings : EngineSettings) (lines : List (List Char)) :
    let fresh := Session.new settings
    let left := (exchanges fresh lines).filter (·.counts)
    let shortened := left.map (·.line)
    (exchanges fresh lines).map (·.turn) = turns fresh lines ∧
      turns fresh shortened = left.map (·.turn) ∧
      sessionAfter fresh (turns fresh shortened) = sessionAfter fresh (turns fresh lines) ∧
      (turns fresh shortened).filterMap (·.event) = (turns fresh lines).filterMap (·.event) ∧
      ((∀ line ∈ lines, '\n' ∉ line) →
        print fresh (Text.unlines shortened) = left.flatMap (·.printed)) := by
  intro fresh left shortened
  have consists : exchanges fresh shortened = left := exchanges_counted fresh lines
  have turned : turns fresh shortened = left.map (·.turn) := by
    rw [← map_turn_exchanges, consists]
  refine ⟨map_turn_exchanges fresh lines, turned, ?_, ?_, ?_⟩
  · rw [turned]
    exact sessionAfter_counted fresh lines
  · rw [turned, List.filterMap_map]
    exact events_counted fresh lines
  · intro unbroken
    have unbrokenLeft : ∀ line ∈ shortened, '\n' ∉ line := by
      intro line member
      obtain ⟨exchange, counts, rfl⟩ := List.mem_map.mp member
      exact unbroken _ (mem_of_mem_counted counts)
    rw [print_unlines fresh unbrokenLeft, consists]

end Playback.Conversation
