import Playback.Prompt.Basic
import Playback.Proofs.Session.Refusal
import Playback.Proofs.Session.Run

/-!
# A dialogue is a run

The prompt reads words, shows lines and keeps events; what it does to its session is nothing but
a run of commands.  Here the command that a line spells out is read off its first two words,
without the requests that the prompt sorts lines into.  The main statement follows any script:
the prompt takes its lines up to the first that quits, each of them leaves the session where
the commands spelled so far lead it, and a command that is refused shows its refusal and nothing
else.

Quitting is a matter of which lines are taken, so the proof first separates it from the answers;
after that a dialogue is one prompt after the other, and every statement about it is an induction
over the lines with one request for its step.
-/

namespace Playback.Prompt

/-- A command about a source line, if an argument names one. -/
def lineCommand? (command : Nat → Command) (argument : Option (List Char)) : Option Command :=
  argument.bind fun text => (Breakpoint.read text).toOption.map command

/-- The command that a first word other than an action spells out. -/
def wordCommand? (word : String) (argument : Option (List Char)) : Option Command :=
  match word with
  | "back" | "b" => some .stepBack
  | "break" | "bp" => lineCommand? .addBreakpoint argument
  | "delete" | "d" => lineCommand? .removeBreakpoint argument
  | "toggle" | "t" => lineCommand? .toggleBreakpoint argument
  | "until" | "u" => lineCommand? .runToLine argument
  | "clear" => some .clearBreakpoints
  | _ => none

/-- The command that a line spells out. -/
def commandOf? (line : List Char) : Option Command :=
  match Text.words line with
  | [] => none
  | word :: arguments =>
    match Action.ofText (String.ofList word) with
    | .ok action => some (.forward action)
    | .error _ => wordCommand? (String.ofList word) arguments.head?

/-- Whether a line asks to quit. -/
def quits (line : List Char) : Bool :=
  (Text.words line).head?.any fun word => ["quit", "q", "exit"].contains (String.ofList word)

/-- The lines up to the first that quits, that one included. -/
def taken : List (List Char) → List (List Char)
  | [] => []
  | line :: rest => if quits line then [line] else line :: taken rest

/-- The command that a task about a source line comes down to, as far as it is one. -/
def LineTask.command? : LineTask → Option (Nat → Command)
  | .setBreakpoint => some .addBreakpoint
  | .clearBreakpoint => some .removeBreakpoint
  | .toggleBreakpoint => some .toggleBreakpoint
  | .runUntil => some .runToLine
  | .showScope => none

/-- The command that a request comes down to. -/
def Request.command? : Request → Option Command
  | .move action => some (.forward action)
  | .back => some .stepBack
  | .atLine task argument => task.command?.bind fun command => lineCommand? command argument
  | .clear => some .clearBreakpoints
  | _ => none

theorem Request.command?_ofWord (word : List Char) (argument : Option (List Char)) :
    (Request.ofWord word argument).command? = wordCommand? (String.ofList word) argument := by
  unfold Request.ofWord wordCommand?
  generalize String.ofList word = spelling
  split
  case h_14 =>
    -- The scope is asked for, of the current line or of another one.
    cases argument <;> rfl
  case h_24 =>
    -- The word is unknown, so it is none of those that spell a command.
    split <;> first | contradiction | rfl
  all_goals rfl

theorem Request.command?_ofLine (line : List Char) :
    (Request.ofLine line).command? = commandOf? line := by
  unfold Request.ofLine commandOf?
  cases Text.words line with
  | nil => rfl
  | cons word arguments =>
      dsimp only
      cases Action.ofText (String.ofList word) with
      | ok action => rfl
      | error unknown => exact Request.command?_ofWord word arguments.head?

theorem Request.ofWord_eq_quit_iff {word : List Char} {argument : Option (List Char)} :
    Request.ofWord word argument = .quit ↔
      ["quit", "q", "exit"].contains (String.ofList word) = true := by
  unfold Request.ofWord
  generalize String.ofList word = spelling
  split
  case h_14 => cases argument <;> simp
  all_goals simp_all

/-- A word that quits is no action. -/
theorem exists_ofText_eq_error {word : String}
    (quit : ["quit", "q", "exit"].contains word = true) :
    ∃ unknown, Action.ofText word = .error unknown := by
  have spelled : word = "quit" ∨ word = "q" ∨ word = "exit" := by
    simpa using quit
  rcases spelled with rfl | rfl | rfl
  · exact ⟨⟨"quit"⟩, rfl⟩
  · exact ⟨⟨"q"⟩, rfl⟩
  · exact ⟨⟨"exit"⟩, rfl⟩

theorem Request.ofLine_eq_quit_iff {line : List Char} :
    Request.ofLine line = .quit ↔ quits line = true := by
  unfold Request.ofLine quits
  cases Text.words line with
  | nil => simp
  | cons word arguments =>
      rw [List.head?_cons, Option.any_some]
      cases parsed : Action.ofText (String.ofList word) with
      | error unknown =>
          simp only [parsed]
          exact Request.ofWord_eq_quit_iff
      | ok action =>
          simp only [parsed, reduceCtorEq, false_iff]
          intro quit
          obtain ⟨unknown, refused⟩ := exists_ofText_eq_error quit
          cases parsed.symm.trans refused

/-! ## One request -/

/--
An exchange that does what a command does: the session goes where the command leads, and a refusal
is shown and changes nothing.
-/
structure Obeys (prompt : Prompt) (command : Command) (exchange : Exchange) : Prop where
  session : exchange.prompt.session = (command.run prompt.session).session
  refusal : ∀ refused, (command.run prompt.session).answer = .error refused →
    exchange = prompt.display [errorLine refused.message]

variable {prompt : Prompt} {command : Command} {exchange : Exchange}

theorem obeys_of_accepted {reply : Reply}
    (accepted : (command.run prompt.session).answer = .ok reply)
    (goes : exchange.prompt.session = (command.run prompt.session).session) :
    prompt.Obeys command exchange := by
  refine ⟨goes, fun refused answered => ?_⟩
  cases accepted.symm.trans answered

theorem obeys_of_refused {refused : SessionError}
    (answered : (command.run prompt.session).answer = .error refused) :
    prompt.Obeys command (prompt.display [errorLine refused.message]) := by
  have same : command.run prompt.session = prompt.session.refuse refused :=
    (prompt.session.refusesCleanly_run command).same answered
  constructor
  · rw [same]
    rfl
  · intro other answeredAgain
    cases answered.symm.trans answeredAgain
    rfl

/-- Hearing a refusal changes nothing. -/
theorem reportRefusal_refuse {α : Type} (prompt : Prompt) (refused : SessionError) :
    prompt.reportRefusal (prompt.session.refuse refused : Turn (Except SessionError α)) refused =
      prompt.display [errorLine refused.message] := by
  rw [reportRefusal, hear, Session.refuse, Option.toList_none, List.append_nil]

theorem obeys_reportBreakpoint {turn : Turn (Except SessionError Bool)}
    {reply : Bool → List Nat → Reply}
    (runs : command.run prompt.session = breakpointTurn reply turn)
    (clean : prompt.session.RefusesCleanly turn) (line : Nat) (note : Bool → String) :
    prompt.Obeys command (prompt.reportBreakpoint line note turn) := by
  rw [reportBreakpoint]
  cases answer : turn.answer with
  | error refused =>
      dsimp only
      rw [clean.same answer, reportRefusal_refuse]
      apply obeys_of_refused
      rw [runs, breakpointTurn, Turn.map, answer]
      rfl
  | ok flag =>
      apply obeys_of_accepted
      · rw [runs, breakpointTurn, Turn.map, answer]
        rfl
      · rw [runs]
        rfl

theorem obeys_runUntil (prompt : Prompt) (line : Nat) :
    prompt.Obeys (.runToLine line) (prompt.doAtLine line .runUntil) := by
  rw [doAtLine]
  cases answer : (prompt.session.runToLine line).answer with
  | error refused =>
      have clean := (prompt.session.refusesCleanly_runToLine line).same answer
      rw [clean]
      change prompt.Obeys _ (prompt.reportRefusal (prompt.session.refuse refused) refused)
      rw [reportRefusal_refuse]
      apply obeys_of_refused
      rw [Command.run, clean]
      rfl
  | ok report =>
      rw [Turn.accepted, answer]
      apply obeys_of_accepted
      · rw [Command.run, Turn.map, answer]
        rfl
      · rfl

/-- A task about a source line leaves the session where its command leads. -/
theorem obeys_doAtLine {task : LineTask} {spell : Nat → Command}
    (spelled : task.command? = some spell) (prompt : Prompt) (line : Nat) :
    prompt.Obeys (spell line) (prompt.doAtLine line task) := by
  cases task with
  | setBreakpoint =>
      cases spelled
      exact obeys_reportBreakpoint rfl (prompt.session.refusesCleanly_addBreakpoint line) ..
  | clearBreakpoint =>
      cases spelled
      exact obeys_reportBreakpoint rfl (prompt.session.refusesCleanly_removeBreakpoint line) ..
  | toggleBreakpoint =>
      cases spelled
      exact obeys_reportBreakpoint rfl (prompt.session.refusesCleanly_toggleBreakpoint line) ..
  | runUntil =>
      cases spelled
      exact obeys_runUntil prompt line
  | showScope => cases spelled

/-- A request that comes down to a command does what the command does. -/
theorem obeys_execute {request : Request} (prompt : Prompt)
    (spelled : request.command? = some command) :
    prompt.Obeys command (prompt.execute request) := by
  cases request with
  | move action =>
      cases spelled
      exact obeys_of_accepted rfl rfl
  | back =>
      cases spelled
      exact obeys_of_accepted rfl rfl
  | clear =>
      cases spelled
      exact obeys_of_accepted rfl rfl
  | atLine task argument =>
      obtain ⟨spell, known, named⟩ := Option.bind_eq_some_iff.mp spelled
      obtain ⟨text, rfl, read⟩ := Option.bind_eq_some_iff.mp named
      cases place : Breakpoint.read text with
      | error unread =>
          rw [place] at read
          cases read
      | ok line =>
          rw [place] at read
          cases read
          rw [execute, doAtArgument]
          simp only [place]
          exact obeys_doAtLine known prompt line
  | _ => cases spelled

/-- A request that comes down to no command only shows something. -/
theorem prompt_execute_of_none {request : Request} (prompt : Prompt)
    (silent : request.command? = none) : (prompt.execute request).prompt = prompt := by
  cases request with
  | move action | back | clear => cases silent
  | atLine task argument =>
      rw [execute, doAtArgument.eq_def]
      cases argument with
      | none => rfl
      | some text =>
          dsimp only
          cases read : Breakpoint.read text with
          | error unread => rfl
          | ok line =>
              cases known : task.command? with
              | some spell =>
                  simp [Request.command?, known, lineCommand?, read, Except.toOption] at silent
              | none =>
                  cases task with
                  | showScope => rfl
                  | _ => cases known
  | showScope =>
      rw [execute]
      split <;> rfl
  | _ => rfl

/-! ## Every line that is taken -/

/-- What some lines come to, whatever they ask for. -/
def answers (prompt : Prompt) : List (List Char) → List Exchange
  | [] => []
  | line :: rest =>
    let exchange := prompt.execute (Request.ofLine line)
    exchange :: exchange.prompt.answers rest

/-- The prompt after some lines. -/
def after (prompt : Prompt) (lines : List (List Char)) : Prompt :=
  lines.foldl (fun prompt line => (prompt.execute (Request.ofLine line)).prompt) prompt

/-- A dialogue answers the lines that are taken, and it quits if any line does. -/
theorem converse_eq (prompt : Prompt) (lines : List (List Char)) :
    prompt.converse lines =
      { exchanges := prompt.answers (taken lines), quit := lines.any quits } := by
  induction lines generalizing prompt with
  | nil => rfl
  | cons line rest induction =>
      rw [converse.eq_def]
      dsimp only
      split
      case h_1 request =>
        have quit : quits line = true := Request.ofLine_eq_quit_iff.mp request
        rw [taken, if_pos quit, answers, request, List.any_cons, quit]
        rfl
      case h_2 request =>
        have stays : quits line = false :=
          Bool.eq_false_iff.mpr fun quit => request (Request.ofLine_eq_quit_iff.mpr quit)
        rw [taken, if_neg (Bool.eq_false_iff.mp stays), answers, List.any_cons, stays, induction]
        rfl

@[simp]
theorem length_answers (prompt : Prompt) (lines : List (List Char)) :
    (prompt.answers lines).length = lines.length := by
  induction lines generalizing prompt with
  | nil => rfl
  | cons line rest induction => rw [answers, List.length_cons, induction, List.length_cons]

theorem answers_append (prompt : Prompt) (before later : List (List Char)) :
    prompt.answers (before ++ later) =
      prompt.answers before ++ (prompt.after before).answers later := by
  induction before generalizing prompt with
  | nil => rfl
  | cons line rest induction =>
      rw [List.cons_append, answers, answers, induction]
      rfl

/-- The last exchange leaves the prompt that all lines lead to. -/
theorem getLast?_answers (prompt : Prompt) (lines : List (List Char)) :
    ((prompt.answers lines).getLast?.map (·.prompt)).getD prompt = prompt.after lines := by
  induction lines generalizing prompt with
  | nil => rfl
  | cons line rest induction =>
      rw [answers, List.getLast?_cons, Option.map_some, Option.getD_some,
        ← Option.getD_map (f := fun exchange : Exchange => exchange.prompt)]
      exact induction _

/-- The line at some place among others is answered by the prompt that the lines before it leave. -/
theorem getElem?_answers (prompt : Prompt) (before : List (List Char)) (line : List Char)
    (later : List (List Char)) :
    (prompt.answers (before ++ line :: later))[before.length]? =
      some ((prompt.after before).execute (Request.ofLine line)) := by
  have here : (prompt.answers before).length = before.length := length_answers prompt before
  rw [answers_append, List.getElem?_append_right (Nat.le_of_eq here), here, Nat.sub_self]
  rfl

/-- A line leaves the session where the command that it spells leads, if it spells one. -/
theorem session_execute_ofLine (prompt : Prompt) (line : List Char) :
    (prompt.execute (Request.ofLine line)).prompt.session =
      prompt.session.after (commandOf? line).toList := by
  cases spelled : commandOf? line with
  | none =>
      rw [prompt_execute_of_none prompt ((Request.command?_ofLine line).trans spelled)]
      rfl
  | some command =>
      exact (obeys_execute prompt ((Request.command?_ofLine line).trans spelled)).session

/-- Lines lead the session where the commands that they spell lead it. -/
theorem session_after (prompt : Prompt) (lines : List (List Char)) :
    (prompt.after lines).session = prompt.session.after (lines.filterMap commandOf?) := by
  induction lines generalizing prompt with
  | nil => rfl
  | cons line rest induction =>
      rw [after, List.foldl_cons, ← after, induction, session_execute_ofLine]
      cases spelled : commandOf? line with
      | none =>
          rw [List.filterMap_cons_none spelled]
          rfl
      | some command =>
          rw [List.filterMap_cons_some spelled]
          rfl

/-- Whether a dialogue quits shows in the lines that it takes. -/
theorem any_quits_taken (lines : List (List Char)) : (taken lines).any quits = lines.any quits := by
  induction lines with
  | nil => rfl
  | cons line rest induction =>
      rw [taken]
      split
      case isTrue quit => rw [List.any_cons, List.any_cons, quit, Bool.true_or, Bool.true_or]
      case isFalse stays => rw [List.any_cons, List.any_cons, induction]

/-- Lines that are not taken have no part in a dialogue. -/
theorem converse_congr {lines others : List (List Char)} (same : taken others = taken lines)
    (prompt : Prompt) : prompt.converse others = prompt.converse lines := by
  rw [converse_eq, converse_eq, same, ← any_quits_taken others, same, any_quits_taken]

end Playback.Prompt
