import Playback.Proofs.Prompt.Dialogue
import Playback.Proofs.Prompt.Notices

/-!
# Hits are told at once

The events of a session wait in the prompt until a movement is reported.  A hit could so be told
late, twice or never.  The main statement is that it is not: no event waits when a line is read,
and a line shows a hit exactly when its own command announces one, right before the
position that was hit.

The prompt is followed from line to line.  A request that finds no event waiting leaves none, and
tells the event of its own command; so what is told of a line does not depend on the lines before.
-/

namespace Playback

namespace Session

variable {session : Session}

/-- A movement that hits a breakpoint stands on its line. -/
theorem stands_of_hit_perform (loaded : session.status = .active → session.Loaded)
    {action : Action} {told : Event} (announced : (session.perform action).event = some told)
    (hit : told.kind = .breakpoint) :
    (session.perform action).answer.outcome = .active ∧
      (session.perform action).session.currentLine? = some told.line := by
  rcases session.perform_cases action with
    ⟨_, same⟩ | ⟨active, ⟨target, lands, same⟩ | ⟨_, same⟩ | ⟨_, _, same⟩⟩
  · rw [same] at announced
    cases announced
  · rw [same] at announced ⊢
    cases announced
    refine ⟨rfl, ?_⟩
    have inside := ((loaded active).land lands).2
    have started : (session.movedTo target).status ≠ .uninitialized := by
      change session.status ≠ _
      rw [active]
      exact Status.noConfusion
    have here : (session.movedTo target).lineHere? = some session.trace[target] :=
      List.getElem?_eq_getElem inside
    change (session.movedTo target).currentLine? =
      some ((session.movedTo target).lineHere?.getD 0)
    rw [currentLine?, if_neg started, here]
    rfl
  · rw [same] at announced
    cases announced
    cases hit
  · rw [same] at announced
    cases announced

theorem Consistent.stands_of_hit_runToLine (consistent : session.Consistent) {target : Nat}
    {report : Report} (answered : (session.runToLine target).answer = .ok report) {told : Event}
    (announced : (session.runToLine target).event = some told)
    (hit : told.kind = .breakpoint) :
    report.outcome = .active ∧
      (session.runToLine target).session.currentLine? = some told.line := by
  by_cases active : session.status = .active
  · by_cases inSource : session.hasLine target = true
    · have marked : (session.withBreakpoints (session.breakpoints.insert target)).Loaded :=
        (consistent.loaded_of_active active).withBreakpoints _
      rw [runToLine_eq active inSource] at answered announced ⊢
      cases answered
      exact stands_of_hit_perform (fun _ => marked) announced hit
    · rw [runToLine_eq_refuseLine active inSource] at answered
      cases answered
  · rw [runToLine, if_neg active] at announced
    cases announced

theorem kind_stepBack_ne_breakpoint {told : Event}
    (announced : session.stepBack.event = some told) : told.kind ≠ .breakpoint := by
  rcases session.stepBack_cases with
    ⟨_, same⟩ | ⟨_, _, same⟩ | ⟨_, _, _, _, _, ⟨_, _, same⟩ | ⟨_, _, same⟩⟩ <;>
    rw [same] at announced <;> cases announced
  exact EventKind.noConfusion

theorem event_addBreakpoint (session : Session) (line : Nat) :
    (session.addBreakpoint line).event = none := by
  rw [addBreakpoint]
  split <;> rfl

theorem event_removeBreakpoint (session : Session) (line : Nat) :
    (session.removeBreakpoint line).event = none := by
  rw [removeBreakpoint]
  split <;> rfl

theorem event_toggleBreakpoint (session : Session) (line : Nat) :
    (session.toggleBreakpoint line).event = none := by
  by_cases inSource : session.hasLine line = true
  · rw [toggleBreakpoint_eq inSource]
  · rw [toggleBreakpoint, removeBreakpoint, if_neg inSource]
    rfl

end Session

namespace Prompt

/-! ## One line -/

def hitText (line : Nat) : String :=
  s!"Breakpoint hit at line {line}"

/--
An exchange that tells a hit right before its position if there is one, and shows notices otherwise,
with no event left to report.
-/
structure TellsHit (told : Option Event) (exchange : Exchange) : Prop where
  drained : exchange.prompt.pending = []
  hit : ∀ event ∈ told, event.kind = .breakpoint →
    exchange.prompt.session.snapshot.line = some event.line ∧
      exchange.shown = hitText event.line :: position exchange.prompt.session
  notices : (∀ event ∈ told, event.kind ≠ .breakpoint) → ∀ text ∈ exchange.shown, IsNotice text

variable {prompt : Prompt}

theorem tellsHit_display (drained : prompt.pending = []) {shown : List String}
    (notices : ∀ text ∈ shown, IsNotice text) : TellsHit none (prompt.display shown) where
  drained := drained
  hit := by simp
  notices := fun _ => notices

theorem tellsHit_display_notice (drained : prompt.pending = []) {text : String}
    (notice : IsNotice text) : TellsHit none (prompt.display [text]) :=
  tellsHit_display drained (List.forall_mem_singleton.mpr notice)

theorem breakpointLines_of_hit {event : Event} (hit : event.kind = .breakpoint) :
    breakpointLines [event] = [hitText event.line] := by
  have kept : [event].filter (fun event => event.kind = .breakpoint) = [event] :=
    List.filter_cons_of_pos (decide_eq_true hit)
  rw [breakpointLines, kept]
  rfl

theorem breakpointLines_of_quiet {told : Option Event}
    (quiet : ∀ event ∈ told, event.kind ≠ .breakpoint) : breakpointLines told.toList = [] := by
  cases told with
  | none => rfl
  | some event =>
      have passed : [event].filter (fun event => event.kind = .breakpoint) = [] :=
        List.filter_cons_of_neg (by simpa using quiet event rfl)
      rw [Option.toList_some, breakpointLines, passed]
      rfl

/-- A movement is reported with its own event. -/
theorem tellsHit_reportMove (drained : prompt.pending = []) {turn : Turn Report}
    (inLines : turn.session.InLines)
    (stands : ∀ event ∈ turn.event, event.kind = .breakpoint →
      turn.answer.outcome = .active ∧ turn.session.currentLine? = some event.line) :
    TellsHit turn.event (prompt.reportMove turn) := by
  have shown : (prompt.reportMove turn).shown =
      breakpointLines turn.event.toList ++ outcomeLines turn.session turn.answer.outcome := by
    rw [reportMove, hear, drained, List.nil_append]
  refine ⟨rfl, fun event announced hit => ?_, fun quiet text member => ?_⟩
  · obtain ⟨outcome, here⟩ := stands event announced hit
    refine ⟨here, ?_⟩
    rw [shown, Option.mem_def.mp announced, Option.toList_some, breakpointLines_of_hit hit,
      outcome]
    rfl
  · rw [shown, breakpointLines_of_quiet quiet, List.nil_append] at member
    exact isNotice_outcomeLines inLines _ text member

theorem tellsHit_reportRefusal {α : Type} (drained : prompt.pending = [])
    {turn : Turn (Except SessionError α)} (clean : prompt.session.RefusesCleanly turn)
    {refused : SessionError} (answered : turn.answer = .error refused) :
    TellsHit turn.event (prompt.reportRefusal turn refused) := by
  rw [clean.same answered, reportRefusal_refuse]
  exact tellsHit_display_notice drained (isNotice_errorLine (not_mem_refusal refused))

theorem tellsHit_reportBreakpoint (drained : prompt.pending = [])
    {turn : Turn (Except SessionError Bool)} (silent : turn.event = none)
    (clean : prompt.session.RefusesCleanly turn) {line : Nat} {note : Bool → String}
    (notices : ∀ flag, IsNotice s!"Breakpoint {note flag} at line {line}") :
    TellsHit turn.event (prompt.reportBreakpoint line note turn) := by
  rw [reportBreakpoint]
  cases answer : turn.answer with
  | error refused => exact tellsHit_reportRefusal drained clean answer
  | ok flag =>
      have stillDrained : (prompt.hear turn).pending = [] := by
        rw [hear, drained, silent]
        rfl
      rw [silent]
      exact tellsHit_display_notice stillDrained (notices flag)

/-- A prompt that can be asked for anything: no event waits in it, and its session is in order. -/
structure Ready (prompt : Prompt) : Prop where
  drained : prompt.pending = []
  consistent : prompt.session.Consistent
  inLines : prompt.session.InLines

theorem Ready.tellsHit_runUntil (ready : prompt.Ready) (line : Nat) :
    TellsHit (prompt.session.runToLine line).event (prompt.doAtLine line .runUntil) := by
  rw [doAtLine]
  cases answer : (prompt.session.runToLine line).answer with
  | error refused =>
      rw [Turn.accepted, answer]
      exact tellsHit_reportRefusal ready.drained
        (prompt.session.refusesCleanly_runToLine line) answer
  | ok report =>
      let move := (prompt.session.runToLine line).map fun _ => report
      rw [Turn.accepted, answer]
      change TellsHit move.event (prompt.reportMove move)
      apply tellsHit_reportMove ready.drained
      · exact ready.inLines.run (.runToLine line)
      · intro event announced hit
        exact ready.consistent.stands_of_hit_runToLine answer announced hit

/-- The event of a command on a session, if there is a command and it announces one. -/
def eventOf (session : Session) (command : Option Command) : Option Event :=
  command.bind fun command => (command.run session).event

theorem Ready.tellsHit_doAtLine (ready : prompt.Ready) (line : Nat) (task : LineTask) :
    TellsHit (eventOf prompt.session (task.command?.map (· line))) (prompt.doAtLine line task) := by
  cases task with
  | setBreakpoint =>
      apply tellsHit_reportBreakpoint ready.drained (prompt.session.event_addBreakpoint line)
        (prompt.session.refusesCleanly_addBreakpoint line)
      intro flag
      exact isNotice_note line _ (by cases flag <;> simp)
  | clearBreakpoint =>
      apply tellsHit_reportBreakpoint ready.drained (prompt.session.event_removeBreakpoint line)
        (prompt.session.refusesCleanly_removeBreakpoint line)
      intro flag
      exact isNotice_note line _ (by cases flag <;> simp)
  | toggleBreakpoint =>
      apply tellsHit_reportBreakpoint ready.drained (prompt.session.event_toggleBreakpoint line)
        (prompt.session.refusesCleanly_toggleBreakpoint line)
      intro flag
      exact isNotice_note line _ (by cases flag <;> simp)
  | runUntil => exact ready.tellsHit_runUntil line
  | showScope => exact tellsHit_display ready.drained (isNotice_scope prompt.session line)

/-- The words of a line that what it asks for repeats. -/
def Request.words : Request → List (List Char)
  | .atLine _ argument => argument.toList
  | .unknown word => [word]
  | _ => []

theorem Request.words_ofWord (word : List Char) (argument : Option (List Char)) :
    ∀ repeated ∈ (Request.ofWord word argument).words, repeated ∈ word :: argument.toList := by
  intro repeated member
  unfold Request.ofWord at member
  generalize String.ofList word = spelling at member
  split at member
  case h_14 =>
    cases argument with
    | none => cases member
    | some text => exact List.mem_cons_of_mem _ member
  case h_24 => exact List.mem_cons.mpr (Or.inl (List.mem_singleton.mp member))
  all_goals first | cases member | exact List.mem_cons_of_mem _ member

/-- Every word that is repeated is a word of the line, so it has no blank. -/
theorem Request.not_mem_words_ofLine (line : List Char) :
    ∀ word ∈ (Request.ofLine line).words, '\n' ∉ word := by
  intro word member broken
  have known : word ∈ Text.words line := by
    rw [Request.ofLine] at member
    split at member
    case h_1 => cases member
    case h_2 first arguments split =>
      split at member
      case h_1 => cases member
      case h_2 =>
        rcases List.mem_cons.mp (words_ofWord first arguments.head? word member) with same | second
        · rw [split, same]
          exact List.mem_cons_self
        · rw [split]
          exact List.mem_cons_of_mem _ (List.mem_of_mem_head? (Option.mem_toList.mp second))
  cases Text.isBlank_of_mem_words known '\n' broken

theorem Ready.tellsHit_doAtArgument (ready : prompt.Ready) (task : LineTask)
    {argument : Option (List Char)} (unbroken : ∀ word ∈ argument.toList, '\n' ∉ word) :
    TellsHit (eventOf prompt.session (Request.atLine task argument).command?)
      (prompt.doAtArgument task argument) := by
  cases argument with
  | none =>
      have silent : (Request.atLine task none).command? = none := by
        cases task <;> rfl
      rw [silent]
      exact tellsHit_display_notice ready.drained (isNotice_ofList (by decide) (by decide))
  | some text =>
      rw [doAtArgument, Request.command?]
      cases read : Breakpoint.read text with
      | error unread =>
          have silent : (task.command?.bind fun command => lineCommand? command (some text)) =
              none := by
            simp [lineCommand?, read, Except.toOption]
          have onOneLine := not_mem_unread (unbroken text List.mem_cons_self) read
          rw [silent]
          exact tellsHit_display_notice ready.drained (isNotice_errorLine onOneLine)
      | ok line =>
          have spelled : (task.command?.bind fun command => lineCommand? command (some text)) =
              task.command?.map (· line) := by
            simp [lineCommand?, read, Except.toOption, Option.map_eq_bind]
          rw [spelled]
          exact ready.tellsHit_doAtLine line task

theorem Ready.tellsHit_execute (ready : prompt.Ready) {request : Request}
    (unbroken : ∀ word ∈ request.words, '\n' ∉ word) :
    TellsHit (eventOf prompt.session request.command?) (prompt.execute request) := by
  cases request with
  | nothing | quit => exact tellsHit_display ready.drained (List.forall_mem_nil _)
  | move action =>
      exact tellsHit_reportMove ready.drained (ready.inLines.run (.forward action))
        fun event announced hit =>
          Session.stands_of_hit_perform ready.consistent.loaded_of_active announced hit
  | back =>
      exact tellsHit_reportMove ready.drained (ready.inLines.run .stepBack)
        fun event announced hit => (Session.kind_stepBack_ne_breakpoint announced hit).elim
  | atLine task argument => exact ready.tellsHit_doAtArgument task unbroken
  | clear =>
      have stillDrained : (prompt.hear prompt.session.clearBreakpoints).pending = [] := by
        rw [hear, ready.drained]
        rfl
      apply tellsHit_display_notice stillDrained
      constructor <;> simp [toString_eq_self, not_mem_toDigits]
  | showState => exact tellsHit_display ready.drained (isNotice_state prompt.session)
  | showScope =>
      rw [execute]
      split
      case h_1 line _ => exact tellsHit_display ready.drained (isNotice_scope prompt.session line)
      case h_2 =>
        exact tellsHit_display_notice ready.drained (isNotice_ofList (by decide) (by decide))
  | showHistory => exact tellsHit_display ready.drained (isNotice_history prompt.session)
  | listSource => exact tellsHit_display ready.drained (isNotice_listing ready.inLines)
  | help => exact tellsHit_display ready.drained isNotice_help
  | unknown word =>
      apply tellsHit_display_notice ready.drained
      have unbroken : '\n' ∉ word := unbroken word List.mem_cons_self
      constructor <;> simp [unbroken]

theorem Ready.tellsHit_ofLine (ready : prompt.Ready) (line : List Char) :
    TellsHit (eventOf prompt.session (commandOf? line)) (prompt.execute (Request.ofLine line)) := by
  rw [← Request.command?_ofLine]
  exact ready.tellsHit_execute (Request.not_mem_words_ofLine line)

/-- A line leaves a prompt that can be asked again. -/
theorem Ready.execute_ofLine (ready : prompt.Ready) (line : List Char) :
    (prompt.execute (Request.ofLine line)).prompt.Ready where
  drained := (ready.tellsHit_ofLine line).drained
  consistent := by
    rw [session_execute_ofLine]
    exact ready.consistent.after _
  inLines := by
    rw [session_execute_ofLine]
    exact ready.inLines.after _

theorem Ready.after (ready : prompt.Ready) (lines : List (List Char)) :
    (prompt.after lines).Ready := by
  induction lines generalizing prompt with
  | nil => exact ready
  | cons line rest induction => exact induction (ready.execute_ofLine line)

theorem ready_after_new (settings : EngineSettings) (earlier : List Command) :
    Ready { session := (Session.new settings).after earlier } where
  drained := rfl
  consistent := (Session.consistent_new settings).after earlier
  inLines :=
    Session.InLines.after (fun _ member => absurd member List.not_mem_nil) earlier

/-! ## What a hit looks like -/

theorem toList_hitText (line : Nat) :
    (hitText line).toList = "Breakpoint hit at line ".toList ++ Nat.toDigits 10 line := by
  change (toString "Breakpoint hit at line " ++ toString line).toList = _
  rw [String.toList_append, toString_eq_self, Nat.toString_eq_repr, Nat.toList_repr]

theorem hitText_inj {line other : Nat} : hitText line = hitText other ↔ line = other := by
  constructor
  · intro same
    have spelled := congrArg String.toList same
    rw [toList_hitText, toList_hitText] at spelled
    have digits : Text.numeral line = Text.numeral other := List.append_cancel_left spelled
    rw [← Text.digitsValue_numeral line, digits, Text.digitsValue_numeral]
  · exact congrArg hitText

theorem not_isNotice_hitText (line : Nat) : ¬IsNotice (hitText line) := by
  intro notice
  apply notice.noHit
  rw [toList_hitText]
  exact List.prefix_append _ _

variable {told : Option Event} {exchange : Exchange}

/-- Either a hit is shown right before a notice, or there are only notices. -/
theorem TellsHit.shown_cases (tells : TellsHit told exchange)
    (inLines : exchange.prompt.session.InLines) :
    (∃ event place, told = some event ∧ event.kind = .breakpoint ∧ IsNotice place ∧
      exchange.shown = [hitText event.line, place]) ∨
    (∀ event ∈ told, event.kind ≠ .breakpoint) ∧ ∀ text ∈ exchange.shown, IsNotice text := by
  by_cases quiet : ∀ event ∈ told, event.kind ≠ .breakpoint
  · exact Or.inr ⟨quiet, tells.notices quiet⟩
  · push Not at quiet
    obtain ⟨event, announced, hit⟩ := quiet
    obtain ⟨here, shown⟩ := tells.hit event announced hit
    have alone := position_of_line here
    have notice := isNotice_position inLines _ (alone ▸ List.mem_singleton_self _)
    rw [alone] at shown
    exact Or.inl ⟨event, _, announced, hit, notice, shown⟩

/-- All that is shown is in single lines. -/
theorem TellsHit.unbroken (tells : TellsHit told exchange)
    (inLines : exchange.prompt.session.InLines) :
    ∀ text ∈ exchange.shown, '\n' ∉ text.toList := by
  intro text member
  rcases tells.shown_cases inLines with ⟨event, place, _, _, notice, shown⟩ | ⟨_, notices⟩
  · rw [shown, List.mem_cons, List.mem_singleton] at member
    rcases member with rfl | rfl
    · rw [toList_hitText]
      exact List.not_mem_append (by simp) (not_mem_toDigits event.line)
    · exact notice.unbroken
  · exact (notices text member).unbroken

theorem TellsHit.mem_iff (tells : TellsHit told exchange)
    (inLines : exchange.prompt.session.InLines) (number : Nat) :
    hitText number ∈ exchange.shown ↔
      ∃ event ∈ told, event.kind = .breakpoint ∧ event.line = number := by
  rcases tells.shown_cases inLines with ⟨event, place, known, hit, notice, shown⟩ | ⟨quiet, notices⟩
  · rw [shown, List.mem_cons, List.mem_singleton, hitText_inj]
    constructor
    · rintro (same | same)
      · exact ⟨event, known, hit, same.symm⟩
      · exact (not_isNotice_hitText number (same ▸ notice)).elim
    · rintro ⟨other, announced, _, same⟩
      rw [known, Option.mem_some_iff] at announced
      rw [announced]
      exact Or.inl same.symm
  · constructor
    · intro member
      exact (not_isNotice_hitText number (notices _ member)).elim
    · rintro ⟨event, announced, hit, _⟩
      exact (quiet event announced hit).elim

theorem TellsHit.countP_le_one (tells : TellsHit told exchange)
    (inLines : exchange.prompt.session.InLines) :
    exchange.shown.countP (fun text => "Breakpoint hit at line ".toList.isPrefixOf text.toList) ≤
      1 := by
  -- Whatever is shown besides a hit is passed over in the count.
  have passed : ∀ texts : List String, (∀ text ∈ texts, IsNotice text) →
      texts.countP (fun text => "Breakpoint hit at line ".toList.isPrefixOf text.toList) = 0 := by
    intro texts notices
    refine List.countP_eq_zero.mpr fun text member begins => ?_
    exact (notices text member).noHit (List.isPrefixOf_iff_prefix.mp begins)
  rcases tells.shown_cases inLines with ⟨event, place, _, _, notice, shown⟩ | ⟨_, notices⟩
  · rw [shown, List.countP_cons, passed [place] (List.forall_mem_singleton.mpr notice),
      Nat.zero_add]
    split
    · exact Nat.le_refl 1
    · exact Nat.zero_le 1
  · rw [passed _ notices]
    exact Nat.zero_le 1

/-- A refused command announces nothing. -/
theorem eventOf_of_refused {session : Session} {command : Command} {refused : SessionError}
    (answered : (command.run session).answer = .error refused) :
    eventOf session (some command) = none := by
  have same := (session.refusesCleanly_run command).same answered
  rw [eventOf, Option.bind_some, same]
  rfl

/--
A prompt is put on any session that commands can lead to, and takes the lines of any input.  No
event waits in it when a line is read, neither at first nor after any line, and all it shows is in
single lines.  A line shows a hit exactly when the command that it spells announces one, and never
shows two.  Right after the hit stands the position, which is that of the session after the command
and has the line that was hit.  A line that announces no event, is refused or spells no command
shows nothing that begins like a hit, whatever was typed before.
-/
theorem hits_are_told_at_once (settings : EngineSettings) (earlier : List Command)
    (input : List Char) :
    let session := (Session.new settings).after earlier
    let prompt : Prompt := { session }
    let dialogue := prompt.converse (Text.lines input)
    let lines := taken (Text.lines input)
    prompt.pending = [] ∧
      dialogue.exchanges.length = lines.length ∧
      ∀ before line later, lines = before ++ line :: later →
        let reached := session.after (before.filterMap commandOf?)
        let told := eventOf reached (commandOf? line)
        let left := reached.after (commandOf? line).toList
        let now := left.snapshot
        ∃ exchange, dialogue.exchanges[before.length]? = some exchange ∧
          exchange.prompt.session = left ∧ exchange.prompt.pending = [] ∧
          (∀ text ∈ exchange.shown, '\n' ∉ text.toList) ∧
          (∀ number, s!"Breakpoint hit at line {number}" ∈ exchange.shown ↔
            ∃ event ∈ told, event.kind = .breakpoint ∧ event.line = number) ∧
          exchange.shown.countP
            (fun text => "Breakpoint hit at line ".toList.isPrefixOf text.toList) ≤ 1 ∧
          (∀ event ∈ told, event.kind = .breakpoint →
            now.line = some event.line ∧
              exchange.shown =
                [s!"Breakpoint hit at line {event.line}",
                  s!"=> {column event.line} | {lineText left event.line}    " ++
                    s!"[depth {now.depth}, step {now.index + 1}/{now.totalSteps}]"]) ∧
          (told = none ∨ commandOf? line = none ∨
              (∃ command refused, commandOf? line = some command ∧
                (command.run reached).answer = .error refused) →
            ∀ text ∈ exchange.shown, ¬"Breakpoint hit at line ".toList <+: text.toList) := by
  intro session prompt dialogue lines
  have answered : dialogue.exchanges = prompt.answers lines :=
    congrArg Dialogue.exchanges (converse_eq prompt (Text.lines input))
  refine ⟨rfl, ?_, ?_⟩
  · rw [answered]
    exact length_answers _ _
  intro before line later split reached told left now
  have ready : (prompt.after before).Ready := (ready_after_new settings earlier).after before
  have arrived : (prompt.after before).session = reached := session_after prompt before
  have tells := ready.tellsHit_ofLine line
  have inLines := (ready.execute_ofLine line).inLines
  have leaves := session_execute_ofLine (prompt.after before) line
  rw [arrived] at tells leaves
  refine ⟨(prompt.after before).execute (Request.ofLine line), ?_, leaves, tells.drained,
    tells.unbroken inLines, tells.mem_iff inLines, tells.countP_le_one inLines, ?_, ?_⟩
  · rw [answered, split]
    exact getElem?_answers prompt before line later
  · intro event announced hit
    obtain ⟨here, shown⟩ := tells.hit event announced hit
    rw [position_of_line here] at shown
    rw [leaves] at here shown
    exact ⟨here, shown⟩
  · intro silent
    have unannounced : eventOf reached (commandOf? line) = none := by
      rcases silent with silent | unspelled | ⟨command, refused, spelled, answer⟩
      · exact silent
      · rw [unspelled]
        rfl
      · rw [spelled]
        exact eventOf_of_refused answer
    have quiet : ∀ event ∈ eventOf reached (commandOf? line), event.kind ≠ .breakpoint := by
      rw [unannounced]
      intro event announced
      cases announced
    exact fun text member => (tells.notices quiet text member).noHit

end Prompt

end Playback
