import Playback.Proofs.Command.Notation
import Playback.Rpc.Method

/-!
# Calls of written commands

A command that is sent as a remote call, with its arguments as parameters, is understood as that
command.  Whatever the parameters carry under the key of the name is put over by the name of the
method, and no other member is touched.
-/

namespace Playback

open Json (Members Value)

namespace Json.Members

variable {members : Members} {key : String}

/-- Members with different keys are all kept. -/
theorem lastOfEach_of_nodup (different : (members.map Prod.fst).Nodup) :
    lastOfEach members = members := by
  induction members with
  | nil => rfl
  | cons member rest induction =>
      rw [List.map_cons, List.nodup_cons] at different
      obtain ⟨absent, differentRest⟩ := different
      have noOther : ¬rest.any (·.1 == member.1) = true := by
        rw [List.any_eq_true]
        rintro ⟨other, known, same⟩
        exact absent (List.mem_map.mpr ⟨other, known, eq_of_beq same⟩)
      rw [lastOfEach, if_neg noOther, induction differentRest]

/-- Whichever members count, those under the other keys are told by these alone. -/
theorem filter_lastOfEach (members : Members) (key : String) :
    (lastOfEach members).filter (·.1 != key) = lastOfEach (members.filter (·.1 != key)) := by
  induction members with
  | nil => rfl
  | cons member rest induction =>
      by_cases same : member.1 = key
      · have dropped : ¬(member.1 != key) = true := by simp [same]
        rw [List.filter_cons, if_neg dropped, ← induction, lastOfEach]
        split
        · rfl
        · rw [List.filter_cons, if_neg dropped]
      · have kept : (member.1 != key) = true := bne_iff_ne.mpr same
        have again : (rest.filter (·.1 != key)).any (·.1 == member.1) =
            rest.any (·.1 == member.1) := by
          rw [List.any_filter]
          refine List.any_congr rfl fun other => ?_
          by_cases equal : other.1 = member.1 <;> simp [equal, same]
        rw [List.filter_cons, if_pos kept, lastOfEach, lastOfEach, again, ← induction]
        split
        · rfl
        · rw [List.filter_cons, if_pos kept]

end Json.Members

namespace Rpc

/-- The method of a command is known by the name of that command. -/
theorem commandName?_methodOf {name : String} (known : name ∈ Command.names) :
    commandName? (methodOf name) = some name := by
  have all : ∀ name ∈ Command.names, commandName? (methodOf name) = some name := by decide
  exact all name known

/--
A command that is sent with its arguments in some order is understood, whatever the parameters
have under the key of the name.
-/
theorem command_of_perm {sent : Command} (fits : sent.FitsWords) {members : Members}
    (given : (members.filter (·.1 != "command")).Perm sent.arguments) :
    command (methodOf sent.name) (some (.object members)) = .ok sent := by
  have different := (List.nodup_cons.mp sent.nodup_keys).2
  have others : (Members.lastOfEach members).filter (·.1 != "command") =
      members.filter (·.1 != "command") := by
    rw [Members.filter_lastOfEach]
    exact Members.lastOfEach_of_nodup ((given.map Prod.fst).nodup_iff.mpr different)
  have named : (Members.put (Members.lastOfEach members) "command" (.text sent.name)).Perm
      (("command", .text sent.name) :: sent.arguments) := by
    rw [Members.put, others]
    exact given.cons _
  rw [command, commandName?_methodOf sent.name_mem_names]
  dsimp only [paramMembers?]
  rw [Command.ofMembers?_of_perm named, Command.ofMembers?_written fits]

/-- A command that is sent with the members that it is written with is understood. -/
theorem command_methodOf {sent : Command} (fits : sent.FitsWords) :
    command (methodOf sent.name) (some sent.toJson) = .ok sent := by
  have absent := (List.nodup_cons.mp sent.nodup_keys).1
  refine command_of_perm fits (List.Perm.of_eq ?_)
  rw [List.filter_cons, if_neg (by simp), Members.filter_ne_of_absent absent]

end Rpc

end Playback
