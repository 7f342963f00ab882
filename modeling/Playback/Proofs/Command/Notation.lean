import Playback.Command.Notation
import Playback.Proofs.Json.Extent
import Playback.Proofs.Json.Value

/-!
# Commands are read as they were written

A command whose numbers fit 64 bits is read back from the object that it is written as, and so
from the text of that object.  The members of the object may come in any order.  No command
with other numbers is read from any text, and none with more to count than the text has characters.
-/

namespace Playback

open Json (Members Value)

namespace Command

/-- The numbers that a command is given. -/
def numbers : Command → List Nat
  | .start _ trace breakpoints depths => trace ++ breakpoints ++ depths.getD []
  | .addBreakpoint line | .removeBreakpoint line | .toggleBreakpoint line | .runToLine line
  | .getScopeInfo line => [line]
  | .forward _ | .stepBack | .clearBreakpoints | .getState => []

/-- Whether all numbers of a command fit 64 bits. -/
def FitsWords (command : Command) : Prop :=
  ∀ number ∈ command.numbers, number ≤ Text.maxWord

instance (command : Command) : Decidable command.FitsWords :=
  inferInstanceAs (Decidable (∀ number ∈ command.numbers, number ≤ Text.maxWord))

/-- What a command gives for each of its parameters, in order. -/
def given : Command → List (Option Value)
  | .start source trace breakpoints depths =>
    [some (.text source), some (.naturals trace), some (.naturals breakpoints),
      depths.map .naturals]
  | .addBreakpoint line | .removeBreakpoint line | .toggleBreakpoint line | .runToLine line
  | .getScopeInfo line => [some (.natural line)]
  | .forward _ | .stepBack | .clearBreakpoints | .getState => []

variable {command : Command}

theorem name_mem_names (command : Command) : command.name ∈ names := by
  cases command with
  | forward action => cases action <;> decide
  | _ => simp [name, names]

/-- The word that a command is written with is its name. -/
theorem tag_eq_name (command : Command) : command.tag = command.name := by
  cases command with
  | forward action => cases action <;> rfl
  | _ => rfl

theorem toJson_eq (command : Command) :
    command.toJson = .object (("command", .text command.name) :: command.arguments) := by
  rw [toJson, tag_eq_name]

/-- No command has two arguments under one key, and none has one under the key of its name. -/
theorem nodup_keys (command : Command) :
    ("command" :: command.arguments.map Prod.fst).Nodup := by
  cases command with
  | start source trace breakpoints depths => cases depths <;> simp [arguments]
  | _ => simp [arguments]

/-- The object of a command has the name of the command under its key, once. -/
theorem entry_command (command : Command) :
    Members.entry (("command", .text command.name) :: command.arguments) "command" =
      .once (.text command.name) :=
  Members.entry_cons_of_absent (List.nodup_cons.mp command.nodup_keys).1 _

/-! ## Reading again -/

theorem fitsWords_start {source : String} {trace breakpoints : List Nat}
    {depths : Option (List Nat)} :
    (start source trace breakpoints depths).FitsWords ↔
      (∀ number ∈ trace, number ≤ Text.maxWord) ∧
        (∀ number ∈ breakpoints, number ≤ Text.maxWord) ∧
          ∀ number ∈ depths.getD [], number ≤ Text.maxWord := by
  rw [FitsWords, numbers, List.forall_mem_append, List.forall_mem_append, and_assoc]

/-- A start is read from its fields, the last two given or left out. -/
theorem ofArguments?_start {source : String} {trace breakpoints : List Nat}
    {depths : Option (List Nat)} {third fourth : Option Value}
    (fits : ∀ number ∈ trace, number ≤ Text.maxWord)
    (readBreakpoints : breakpoints? third = some breakpoints)
    (readDepths : depths? fourth = some depths) :
    ofArguments? "start" [some (.text source), some (.naturals trace), third, fourth] =
      some (.start source trace breakpoints depths) := by
  rw [ofArguments?, Value.naturals?_naturals fits, readBreakpoints, readDepths]
  rfl

/-- A command is read from its arguments. -/
theorem ofArguments?_given (fits : command.FitsWords) :
    ofArguments? command.name command.given = some command := by
  have read : ∀ {line : Nat}, (∀ number ∈ [line], number ≤ Text.maxWord) →
      (Value.natural line).natural? = some line :=
    fun fits => Value.natural?_natural (fits _ List.mem_cons_self)
  cases command with
  | start source trace breakpoints depths =>
      obtain ⟨fitsTrace, fitsBreakpoints, fitsDepths⟩ := fitsWords_start.mp fits
      refine ofArguments?_start fitsTrace (Value.naturals?_naturals fitsBreakpoints) ?_
      cases depths with
      | none => rfl
      | some depths => exact Value.optionalNaturals?_naturals fitsDepths
  | forward action => cases action <;> rfl
  | stepBack => rfl
  | addBreakpoint line => exact congrArg (Option.map addBreakpoint) (read fits)
  | removeBreakpoint line => exact congrArg (Option.map removeBreakpoint) (read fits)
  | toggleBreakpoint line => exact congrArg (Option.map toggleBreakpoint) (read fits)
  | clearBreakpoints => rfl
  | runToLine line => exact congrArg (Option.map runToLine) (read fits)
  | getState => rfl
  | getScopeInfo line => exact congrArg (Option.map getScopeInfo) (read fits)

/-- The members that a command is written with spell it out. -/
theorem ofMembers?_written (fits : command.FitsWords) :
    ofMembers? (("command", .text command.name) :: command.arguments) = some command := by
  have given := ofArguments?_given fits
  cases command with
  | start source trace breakpoints depths => cases depths <;> exact given
  | forward action => cases action <;> exact given
  | _ => exact given

/-- The order of the members does not matter. -/
theorem ofMembers?_of_perm {members other : Members} (same : members.Perm other) :
    ofMembers? members = ofMembers? other := by
  have arguments : argument? members = argument? other := by
    funext key
    rw [argument?, argument?, Members.entry_of_perm same]
  rw [ofMembers?, ofMembers?, Members.entry_of_perm same, arguments]

/-- The values that a command is written with are read back from their text. -/
theorem readable_arguments (fits : command.FitsWords) (nesting : Nat) :
    ∀ member ∈ command.arguments, member.2.Readable (nesting + 1) := by
  have readable : ∀ {line : Nat}, (∀ number ∈ [line], number ≤ Text.maxWord) →
      ∀ member ∈ [("line", Value.natural line)], member.2.Readable (nesting + 1) :=
    fun fits => List.forall_mem_singleton.mpr
      (Value.readable_natural (fits _ List.mem_cons_self))
  cases command with
  | start source trace breakpoints depths =>
      obtain ⟨fitsTrace, fitsBreakpoints, fitsDepths⟩ := fitsWords_start.mp fits
      cases depths with
      | none =>
          simp [arguments, Value.Readable.text, Value.readable_naturals fitsTrace,
            Value.readable_naturals fitsBreakpoints]
      | some depths =>
          have readableDepths : (Value.naturals depths).Readable (nesting + 1) :=
            Value.readable_naturals fitsDepths
          simp [arguments, Value.Readable.text, Value.readable_naturals fitsTrace,
            Value.readable_naturals fitsBreakpoints, readableDepths]
  | forward action => exact List.forall_mem_nil _
  | stepBack => exact List.forall_mem_nil _
  | addBreakpoint line => exact readable fits
  | removeBreakpoint line => exact readable fits
  | toggleBreakpoint line => exact readable fits
  | clearBreakpoints => exact List.forall_mem_nil _
  | runToLine line => exact readable fits
  | getState => exact List.forall_mem_nil _
  | getScopeInfo line => exact readable fits

/-- A command is read from the text of its object, in whatever order the members are. -/
theorem read?_of_perm (fits : command.FitsWords) {members : Members}
    (same : members.Perm (("command", .text command.name) :: command.arguments)) :
    read? (Value.object members).spelling = some command := by
  have written : ∀ member ∈ ("command", Value.text command.name) :: command.arguments,
      member.2.Readable 126 :=
    List.forall_mem_cons.mpr ⟨.text _, readable_arguments fits 125⟩
  have readable : (Value.object members).Readable Json.maxNesting :=
    .object fun member known => written member (same.mem_iff.mp known)
  rw [read?, readable.read?, Option.bind_some, ofJson?, ofMembers?_of_perm same,
    ofMembers?_written fits]

/-- A command is read from the text that it is written as. -/
theorem read?_spelling (fits : command.FitsWords) :
    read? command.toJson.spelling = some command := by
  rw [toJson_eq]
  exact read?_of_perm fits (List.Perm.refl _)

/-! ## What is read -/

theorem fits_of_breakpoints? {value : Option Value} {breakpoints : List Nat}
    (read : breakpoints? value = some breakpoints) :
    ∀ number ∈ breakpoints, number ≤ Text.maxWord := by
  cases value with
  | none =>
      cases read
      exact List.forall_mem_nil _
  | some value => exact (Value.naturals?_eq_some_iff.mp read).2

theorem fits_of_depths? {value : Option Value} {depths : Option (List Nat)}
    (read : depths? value = some depths) :
    ∀ number ∈ depths.getD [], number ≤ Text.maxWord := by
  cases value with
  | none =>
      cases read
      exact List.forall_mem_nil _
  | some value =>
      rcases Value.optionalNaturals?_eq_some_iff.mp read with ⟨_, rfl⟩ | ⟨given, known, rfl⟩
      · exact List.forall_mem_nil _
      · exact (Value.naturals?_eq_some_iff.mp known).2

/-- Numbers that do not fit are not read as arguments. -/
theorem fitsWords_of_ofArguments? {name : String} {arguments : List (Option Value)}
    (read : ofArguments? name arguments = some command) : command.FitsWords := by
  have ofLine : ∀ {value : Value} {make : Nat → Command},
      (∀ line, (make line).numbers = [line]) → value.natural?.map make = some command →
        command.FitsWords := by
    intro value make numbers read
    obtain ⟨line, known, rfl⟩ := Option.map_eq_some_iff.mp read
    rw [FitsWords, numbers]
    exact List.forall_mem_singleton.mpr (Value.natural?_eq_some_iff.mp known).2
  unfold ofArguments? at read
  split at read
  case h_1 =>
    obtain ⟨source, _, readRest⟩ := Option.bind_eq_some_iff.mp read
    obtain ⟨trace, readTrace, readOthers⟩ := Option.bind_eq_some_iff.mp readRest
    obtain ⟨breakpoints, readBreakpoints, readLast⟩ := Option.bind_eq_some_iff.mp readOthers
    obtain ⟨depths, readDepths, same⟩ := Option.bind_eq_some_iff.mp readLast
    cases same
    exact fitsWords_start.mpr
      ⟨(Value.naturals?_eq_some_iff.mp readTrace).2, fits_of_breakpoints? readBreakpoints,
        fits_of_depths? readDepths⟩
  all_goals first
    | exact ofLine (fun _ => rfl) read
    | cases read <;> exact List.forall_mem_nil _

/-- What is given as an argument under a key is one of the values there. -/
theorem mem_of_mapM_argument? {members : Members} {keys : List String}
    {arguments : List (Option Value)} (read : keys.mapM (argument? members) = some arguments)
    {argument : Value} (given : some argument ∈ arguments) :
    argument ∈ members.map Prod.snd := by
  have known : ∀ {key : String}, argument? members key = some (some argument) →
      argument ∈ members.map Prod.snd := by
    intro key found
    rw [argument?, Members.entry] at found
    split at found
    case h_1 => cases found
    case h_2 value once =>
      cases found
      split at once
      case h_1 => cases once
      case h_2 only =>
        cases once
        have held := List.mem_filter.mp (only ▸ List.mem_singleton_self _)
        exact List.mem_map_of_mem held.1
      case h_3 => cases once
    case h_3 => cases found
  induction keys generalizing arguments with
  | nil =>
      cases read
      cases given
  | cons key keys induction =>
      rw [List.mapM_cons] at read
      obtain ⟨first, readFirst, readRest⟩ := Option.bind_eq_some_iff.mp read
      obtain ⟨others, readOthers, same⟩ := Option.bind_eq_some_iff.mp readRest
      cases same
      rcases List.mem_cons.mp given with rfl | later
      · exact known readFirst
      · exact induction readOthers later

/-- A command is read from a name and from arguments that are parts of a value. -/
theorem exists_arguments_of_read? {text : List Char} (read : read? text = some command) :
    ∃ value name arguments, Json.read? text = some value ∧
      (∀ argument, some argument ∈ arguments → argument ∈ value.parts) ∧
      ofArguments? name arguments = some command := by
  obtain ⟨value, readValue, decoded⟩ := Option.bind_eq_some_iff.mp read
  unfold ofJson? at decoded
  split at decoded
  case h_1 members =>
    unfold ofMembers? at decoded
    split at decoded
    case h_1 name _ =>
      obtain ⟨parameters, _, rest⟩ := Option.bind_eq_some_iff.mp decoded
      obtain ⟨arguments, readArguments, made⟩ := Option.bind_eq_some_iff.mp rest
      exact ⟨_, name, arguments, readValue,
        fun _ given => mem_of_mapM_argument? readArguments given, made⟩
    case h_2 => cases decoded
  case h_2 name items =>
    obtain ⟨parameters, _, made⟩ := Option.bind_eq_some_iff.mp decoded
    split at made
    · refine ⟨_, name, _, readValue, fun argument given => ?_, made⟩
      rcases List.mem_append.mp given with item | leftOut
      · obtain ⟨_, known, same⟩ := List.mem_map.mp item
        cases same
        exact List.mem_cons_of_mem _ known
      · cases List.eq_of_mem_replicate leftOut
    · cases made
  case h_3 => cases decoded

theorem fitsWords_of_read? {text : List Char} (read : read? text = some command) :
    command.FitsWords := by
  obtain ⟨_, _, _, _, _, made⟩ := exists_arguments_of_read? read
  exact fitsWords_of_ofArguments? made

/-- The source and the recording of a start are no longer than the text that it is read from. -/
theorem length_le_of_read?_start {text : List Char} {source : String}
    {trace breakpoints : List Nat} {depths : Option (List Nat)}
    (read : read? text = some (.start source trace breakpoints depths)) :
    source.toList.length ≤ text.length ∧ trace.length ≤ text.length := by
  obtain ⟨value, name, arguments, readValue, parts, made⟩ := exists_arguments_of_read? read
  have within : ∀ argument, some argument ∈ arguments → argument.Within text.length :=
    fun argument given => (Json.within_of_read? readValue).of_mem_parts (parts argument given)
  unfold ofArguments? at made
  split at made
  case h_1 =>
    obtain ⟨source', readSource, readRest⟩ := Option.bind_eq_some_iff.mp made
    obtain ⟨trace', readTrace, readOthers⟩ := Option.bind_eq_some_iff.mp readRest
    obtain ⟨breakpoints', _, readLast⟩ := Option.bind_eq_some_iff.mp readOthers
    obtain ⟨depths', _, same⟩ := Option.bind_eq_some_iff.mp readLast
    cases same
    obtain rfl := Value.text?_eq_some_iff.mp readSource
    obtain ⟨rfl, _⟩ := Value.naturals?_eq_some_iff.mp readTrace
    cases within _ List.mem_cons_self with
    | text short =>
        cases within _ (List.mem_cons_of_mem _ List.mem_cons_self) with
        | array few _ => exact ⟨short, by rwa [List.length_map] at few⟩
  -- No other name makes a start.
  all_goals first
    | cases made
    | obtain ⟨_, _, same⟩ := Option.map_eq_some_iff.mp made
      cases same

end Command

end Playback
