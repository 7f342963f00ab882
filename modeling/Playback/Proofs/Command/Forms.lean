import Playback.Proofs.Rpc.Method

/-!
# Every form of a command means that command

A command can be sent as an object, with its members in any order, as an array of its name and its
fields, where the last fields may be left out, and as a remote call, with its fields as parameters.
The writer, the readers and the table of methods know the names and fields of commands
each on their own.  The main statement is that they do not differ: whatever the command, all of
these forms are read as it.
-/

namespace Playback

open Json (Members Value)

namespace Command

/-- The fields of a command in order, with `null` for one that it does not have. -/
def fields (command : Command) : List Value :=
  command.given.map fun field => field.getD .null

/--
The items that stand for a command behind its name: all its fields, but those of a start
without depths may end before the depths, and if it has no breakpoints either, before these.
-/
inductive Items : Command → List Value → Prop
  | all (command : Command) : Items command command.fields
  | beforeDepths (source : String) (trace breakpoints : List Nat) :
      Items (.start source trace breakpoints none)
        [.text source, .naturals trace, .naturals breakpoints]
  | beforeBreakpoints (source : String) (trace : List Nat) :
      Items (.start source trace [] none) [.text source, .naturals trace]

variable {command : Command} {items : List Value}

/-- A field is an argument without its key, or `null` for depths that are not there. -/
theorem mem_fields {field : Value} (known : field ∈ command.fields) :
    field = .null ∨ field ∈ command.arguments.map Prod.snd := by
  cases command with
  | start source trace breakpoints depths =>
      cases depths with
      | none =>
          have ends : (start source trace breakpoints none).fields =
              (start source trace breakpoints none).arguments.map Prod.snd ++ [.null] := rfl
          rw [ends] at known
          exact (List.mem_append.mp known).symm.imp_left List.mem_singleton.mp
      | some depths => exact Or.inr known
  | _ => exact Or.inr known

theorem Items.subset_fields (listed : Items command items) : items ⊆ command.fields := by
  cases listed with
  | all => exact List.Subset.refl _
  | beforeDepths source trace breakpoints => exact List.subset_append_left _ [Value.null]
  | beforeBreakpoints source trace => exact List.subset_append_left _ [Value.naturals [], .null]

theorem Items.readable (listed : Items command items) (fits : command.FitsWords)
    (nesting : Nat) : (Value.array (.text command.name :: items)).Readable (nesting + 2) := by
  refine .array (List.forall_mem_cons.mpr ⟨.text _, fun item known => ?_⟩)
  rcases mem_fields (listed.subset_fields known) with rfl | argument
  · exact .null
  · obtain ⟨member, written, rfl⟩ := List.mem_map.mp argument
    exact readable_arguments fits nesting member written

/-- The name of a command and its items spell it out. -/
theorem Items.ofItems? (listed : Items command items) (fits : command.FitsWords) :
    ofItems? command.name items = some command := by
  cases listed with
  | all =>
      have read := ofArguments?_given fits
      cases command with
      | start source trace breakpoints depths =>
          cases depths with
          | none =>
              obtain ⟨fitsTrace, fitsBreakpoints, _⟩ := fitsWords_start.mp fits
              exact ofArguments?_start fitsTrace (Value.naturals?_naturals fitsBreakpoints) rfl
          | some depths => exact read
      | forward action => cases action <;> exact read
      | _ => exact read
  | beforeDepths source trace breakpoints => exact ofArguments?_given fits
  | beforeBreakpoints source trace =>
      exact ofArguments?_start (fitsWords_start.mp fits).1 rfl rfl

theorem Items.read? (listed : Items command items) (fits : command.FitsWords) :
    read? (Value.array (.text command.name :: items)).spelling = some command := by
  have readable : (Value.array (.text command.name :: items)).Readable Json.maxNesting :=
    listed.readable fits 125
  rw [Command.read?, readable.read?, Option.bind_some, ofJson?, listed.ofItems? fits]

/--
A command whose numbers fit 64 bits is read from the text of the object that it is written as,
which has its name under `command`, whatever the order of the members.  It is also read from
the text of an array of its name and its items.  And a call of the method with its name is
understood as it if the parameters are its arguments in whatever order, with or without
anything under `command`.
-/
theorem read_in_every_form (fits : command.FitsWords) :
    Command.read? command.toJson.spelling = some command ∧
    (∃ members, command.toJson = .object members ∧
      Members.entry members "command" = .once (.text command.name) ∧
      ∀ other, members.Perm other →
        Command.read? (Value.object other).spelling = some command) ∧
    (∀ items, Items command items →
      Command.read? (Value.array (.text command.name :: items)).spelling = some command) ∧
    ∀ members : Members, command.arguments.Perm (members.filter (·.1 != "command")) →
      Rpc.command (Rpc.methodOf command.name) (some (.object members)) = .ok command :=
  ⟨read?_spelling fits,
    ⟨_, command.toJson_eq, entry_command command, fun _ same => read?_of_perm fits same.symm⟩,
    fun _ listed => listed.read? fits,
    fun _ same => Rpc.command_of_perm fits same.symm⟩

/-- A start with neither breakpoints nor depths, whose source needs escapes. -/
theorem start_read_in_every_form :
    let start : Command := .start "say(\"a\\b\")\n" [1, 18446744073709551615] [] none
    start.FitsWords ∧
      Command.read? start.toJson.spelling = some start ∧
      Command.read?
        (Value.array [.text "start", .text "say(\"a\\b\")\n",
          .naturals [1, 18446744073709551615]]).spelling = some start ∧
      Rpc.command "retrace_start"
        (some (.object
          [("source", .text "say(\"a\\b\")\n"), ("command", .naturals [7]),
            ("trace", .naturals [1, 18446744073709551615]),
            ("breakpoints", .naturals [])])) = .ok start := by
  intro start
  have fits : start.FitsWords := by decide
  obtain ⟨written, _, listed, called⟩ := read_in_every_form fits
  refine ⟨fits, written, listed _ (.beforeBreakpoints _ _), called _ ?_⟩
  exact List.Perm.refl _

end Command

end Playback
