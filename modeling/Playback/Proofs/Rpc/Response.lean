import Playback.Proofs.Rpc.Agreement
import Playback.Proofs.Session.Lifecycle
import Playback.Proofs.Session.Refusal
import Playback.Proofs.Session.Reports
import Playback.Rpc.Envelope

/-!
# What a request is answered

A request can be wrong in several ways at once, and the response tells the first of them in a fixed
order: the version, the method, the parameters, the lack of a session, and at last what the session
itself refuses.  The order is written down here as a relation between a request and the code of its
fault, without the functions that decode requests, and the main statement is that
the responses keep to it.

A response that tells a fault comes with no change of the session at all, whatever check it failed.
-/

namespace Playback.Rpc

open Json (Members Value)

/-- The members that parameters give: none if they are absent or `null`. -/
inductive Gives : Option Value → Members → Prop
  | absent : Gives none []
  | null : Gives (some .null) []
  | object (members : Members) : Gives (some (.object members)) (Members.lastOfEach members)

/--
A method and parameters that spell a command out: the method is a fixed word and the name of a
command, and the parameters are read as that command once the name is put over what they have
under its key.
-/
inductive Spells (method : String) (params : Option Value) (command : Command) : Prop
  | intro {name : String} {members : Members} (known : name ∈ Command.names)
      (named : method = "retrace_" ++ name) (given : Gives params members)
      (read : Command.ofMembers? (members.put "command" (.text name)) = some command)

/-- The code of the first check that a request fails. -/
inductive Refused (session : Session) (request : Request) : Int → Prop
  | version (wrong : request.version ≠ "2.0") : Refused session request (-32600)
  | method (right : request.version = "2.0")
      (unknown : ∀ name ∈ Command.names, request.method ≠ "retrace_" ++ name) :
      Refused session request (-32601)
  | params {name : String} (right : request.version = "2.0") (known : name ∈ Command.names)
      (named : request.method = "retrace_" ++ name)
      (unread : ∀ members, Gives request.params members →
        Command.ofMembers? (members.put "command" (.text name)) = none) :
      Refused session request (-32602)
  | session {command : Command} (right : request.version = "2.0")
      (spelled : Spells request.method request.params command)
      (missing : SessionMissing session command) : Refused session request (-33004)
  | emptyTrace {command : Command} (right : request.version = "2.0")
      (spelled : Spells request.method request.params command)
      (begun : ¬SessionMissing session command)
      (answered : (command.run session).answer = .error .emptyTrace) :
      Refused session request (-33001)
  | invalidLine {command : Command} {line sourceLines : Nat} (right : request.version = "2.0")
      (spelled : Spells request.method request.params command)
      (begun : ¬SessionMissing session command)
      (answered : (command.run session).answer = .error (.invalidLine line sourceLines)) :
      Refused session request (-33002)
  | depthMismatch {command : Command} {mismatch : DepthMismatch}
      (right : request.version = "2.0")
      (spelled : Spells request.method request.params command)
      (begun : ¬SessionMissing session command)
      (answered : (command.run session).answer = .error (.depthMismatch mismatch)) :
      Refused session request (-32602)

variable {session : Session} {request : Request} {method : String} {params : Option Value}
  {spelled : Command}

/-- The methods are the names of the commands behind a fixed word. -/
theorem commandName?_eq_some_iff {name : String} :
    commandName? method = some name ↔ name ∈ Command.names ∧ method = "retrace_" ++ name := by
  constructor
  · intro found
    rw [commandName?] at found
    have named := List.find?_some found
    exact ⟨List.mem_of_find?_eq_some found, (eq_of_beq named).symm⟩
  · rintro ⟨known, rfl⟩
    exact commandName?_methodOf known

theorem commandName?_eq_none_iff :
    commandName? method = none ↔ ∀ name ∈ Command.names, method ≠ "retrace_" ++ name := by
  rw [commandName?, List.find?_eq_none]
  refine forall₂_congr fun name _ => ?_
  rw [beq_iff_eq]
  exact ne_comm

theorem paramMembers?_eq_some_iff {members : Members} :
    paramMembers? params = some members ↔ Gives params members := by
  constructor
  · intro given
    unfold paramMembers? at given
    split at given <;> cases given
    · exact .absent
    · exact .null
    · exact .object _
  · intro given
    cases given <;> rfl

/-- A call is decoded to the command that its method and its parameters spell out. -/
theorem command_eq_ok_iff : command method params = .ok spelled ↔ Spells method params spelled := by
  constructor
  · intro decoded
    unfold command at decoded
    split at decoded
    case h_1 => cases decoded
    case h_2 name found =>
      obtain ⟨known, named⟩ := commandName?_eq_some_iff.mp found
      split at decoded
      case h_1 => cases decoded
      case h_2 members given =>
        split at decoded
        case h_1 => cases decoded
        case h_2 command read =>
          cases decoded
          exact .intro known named (paramMembers?_eq_some_iff.mp given) read
  · rintro ⟨known, named, given, read⟩
    rw [command, commandName?_eq_some_iff.mpr ⟨known, named⟩]
    dsimp only
    rw [paramMembers?_eq_some_iff.mpr given]
    dsimp only
    rw [read]

/-- A call that is not decoded has a method that is no command, or else unreadable parameters. -/
theorem command_eq_error_cases {fault : Fault} (undecoded : command method params = .error fault) :
    fault.code = -32601 ∧ (∀ name ∈ Command.names, method ≠ "retrace_" ++ name) ∨
      fault.code = -32602 ∧ ∃ name ∈ Command.names, method = "retrace_" ++ name ∧
        ∀ members, Gives params members →
          Command.ofMembers? (members.put "command" (.text name)) = none := by
  unfold command at undecoded
  split at undecoded
  case h_1 unknown =>
    cases undecoded
    exact Or.inl ⟨rfl, commandName?_eq_none_iff.mp unknown⟩
  case h_2 name found =>
    obtain ⟨known, named⟩ := commandName?_eq_some_iff.mp found
    refine Or.inr ?_
    split at undecoded
    case h_1 notObject =>
      cases undecoded
      refine ⟨rfl, name, known, named, fun members given => ?_⟩
      rw [paramMembers?_eq_some_iff.mpr given] at notObject
      cases notObject
    case h_2 members given =>
      split at undecoded
      case h_1 unread =>
        cases undecoded
        refine ⟨rfl, name, known, named, fun other givenOther => ?_⟩
        obtain rfl := Option.some.inj (given.symm.trans (paramMembers?_eq_some_iff.mpr givenOther))
        exact unread
      case h_2 => cases undecoded

/-! ## Responses -/

/-- The turn that tells a fault and does nothing else. -/
def tell (session : Session) (request : Request) (fault : Fault) : Turn Response :=
  { answer := { id := request.id, outcome := .error fault }, session }

theorem respond_of_wrongVersion (wrong : request.version ≠ "2.0") :
    respond session request = tell session request .wrongVersion :=
  if_neg wrong

/-- A request of the right version is answered as the call that it is. -/
theorem respond_of_version (right : request.version = "2.0") :
    respond session request = (call session request.method request.params).map fun outcome =>
      { id := request.id, outcome } :=
  if_pos right

theorem respond_of_undecoded (right : request.version = "2.0") {fault : Fault}
    (undecoded : command request.method request.params = .error fault) :
    respond session request = tell session request fault := by
  rw [respond_of_version right, call, undecoded]
  rfl

theorem respond_of_missing (right : request.version = "2.0")
    (spells : Spells request.method request.params spelled)
    (missing : SessionMissing session spelled) :
    respond session request = tell session request .noSession := by
  rw [respond_of_version right, call, command_eq_ok_iff.mpr spells]
  dsimp only
  rw [if_pos (sessionMissing_iff.mpr missing)]
  rfl

/-- A request that passes all checks is answered as its command is. -/
theorem respond_of_spelled (right : request.version = "2.0")
    (spells : Spells request.method request.params spelled)
    (begun : ¬SessionMissing session spelled) :
    respond session request = (spelled.run session).map fun answer =>
      { id := request.id, outcome := answer.mapError .refused } := by
  rw [respond_of_version right, call, command_eq_ok_iff.mpr spells]
  dsimp only
  rw [if_neg (mt sessionMissing_iff.mp begun)]
  rfl

/-- A request fails one of the checks and is only told so, or its command is run. -/
theorem respond_cases (session : Session) (request : Request) :
    (∃ fault, Refused session request fault.code ∧
        respond session request = tell session request fault) ∨
      ∃ command reply, request.version = "2.0" ∧
        Spells request.method request.params command ∧ ¬SessionMissing session command ∧
          (command.run session).answer = .ok reply ∧
            respond session request =
              { answer := { id := request.id, outcome := .ok reply }
                session := (command.run session).session
                event := (command.run session).event } := by
  by_cases right : request.version = "2.0"
  · cases decoded : command request.method request.params with
    | error fault =>
        refine Or.inl ⟨fault, ?_, respond_of_undecoded right decoded⟩
        rcases command_eq_error_cases decoded with
          ⟨code, unknown⟩ | ⟨code, name, known, named, unread⟩
        · rw [code]
          exact .method right unknown
        · rw [code]
          exact .params right known named unread
    | ok command =>
        have spells := command_eq_ok_iff.mp decoded
        by_cases missing : SessionMissing session command
        · exact Or.inl ⟨.noSession, .session right spells missing,
            respond_of_missing right spells missing⟩
        · have run := respond_of_spelled right spells missing
          cases answered : (command.run session).answer with
          | error error =>
              have clean := session.refusesCleanly_run command
              rw [clean.same answered] at run
              refine Or.inl ⟨.refused error, ?_, run⟩
              cases error with
              | emptyTrace => exact .emptyTrace right spells missing answered
              | invalidLine line sourceLines => exact .invalidLine right spells missing answered
              | indexNotFound _ => cases clean.reason answered
              | inactive => cases clean.reason answered
              | depthMismatch mismatch => exact .depthMismatch right spells missing answered
          | ok reply =>
              rw [Turn.map, answered] at run
              exact Or.inr ⟨command, reply, right, spells, missing, answered, run⟩
  · exact Or.inl ⟨.wrongVersion, .version right, respond_of_wrongVersion right⟩

/-- A request that fails a check is told the code of that check and nothing is done. -/
theorem Refused.respond {code : Int} (refused : Refused session request code) :
    ∃ fault, fault.code = code ∧ respond session request = tell session request fault := by
  have ofAnswer : ∀ {command : Command} {error : SessionError}, request.version = "2.0" →
      Spells request.method request.params command → ¬SessionMissing session command →
        (command.run session).answer = .error error →
          Rpc.respond session request = tell session request (.refused error) := by
    intro command error right spelled begun answered
    rw [respond_of_spelled right spelled begun,
      (session.refusesCleanly_run command).same answered]
    rfl
  cases refused with
  | version wrong => exact ⟨.wrongVersion, rfl, respond_of_wrongVersion wrong⟩
  | method right unknown =>
      refine ⟨.methodNotFound request.method, rfl, respond_of_undecoded right ?_⟩
      rw [command, commandName?_eq_none_iff.mpr unknown]
  | @params name right known named unread =>
      have found := commandName?_eq_some_iff.mpr ⟨known, named⟩
      cases given : paramMembers? request.params with
      | none =>
          refine ⟨.paramsNotObject, rfl, respond_of_undecoded right ?_⟩
          rw [command, found]
          dsimp only
          rw [given]
      | some members =>
          refine ⟨.invalidParams request.method, rfl, respond_of_undecoded right ?_⟩
          rw [command, found]
          dsimp only
          rw [given]
          dsimp only
          rw [unread members (paramMembers?_eq_some_iff.mp given)]
  | session right spelled missing =>
      exact ⟨.noSession, rfl, respond_of_missing right spelled missing⟩
  | emptyTrace right spelled begun answered =>
      exact ⟨.refused .emptyTrace, rfl, ofAnswer right spelled begun answered⟩
  | @invalidLine command line sourceLines right spelled begun answered =>
      exact ⟨.refused (.invalidLine line sourceLines), rfl,
        ofAnswer right spelled begun answered⟩
  | @depthMismatch command mismatch right spelled begun answered =>
      exact ⟨.refused (.depthMismatch mismatch), rfl, ofAnswer right spelled begun answered⟩

/-- The members of every response: the version, an error or a result, and the identifier. -/
theorem members_respond (session : Session) (request : Request) :
    (∃ fault, (respond session request).answer.outcome = .error fault ∧
        (respond session request).answer.toJson = .object
          [("jsonrpc", .text "2.0"),
            ("error", .object [("code", integer fault.code), ("message", .text fault.message)]),
            ("id", request.id.toJson)]) ∨
      ∃ reply, (respond session request).answer.outcome = .ok reply ∧
        (respond session request).answer.toJson = .object
          [("jsonrpc", .text "2.0"), ("result", reply.toJson), ("id", request.id.toJson)] := by
  rcases respond_cases session request with ⟨fault, _, same⟩ | ⟨_, reply, _, _, _, _, same⟩
  · rw [same]
    exact Or.inl ⟨fault, rfl, rfl⟩
  · rw [same]
    exact Or.inr ⟨reply, rfl, rfl⟩

/-- A response tells a code exactly if it is that of the first check that the request fails. -/
theorem outcome_eq_error_iff (session : Session) (request : Request) (code : Int) :
    (∃ fault, (respond session request).answer.outcome = .error fault ∧ fault.code = code) ↔
      Refused session request code := by
  constructor
  · rintro ⟨fault, answered, rfl⟩
    rcases respond_cases session request with
      ⟨other, refused, same⟩ | ⟨_, reply, _, _, _, _, same⟩
    · rw [same] at answered
      cases answered
      exact refused
    · rw [same] at answered
      cases answered
  · intro refused
    obtain ⟨fault, code, same⟩ := refused.respond
    exact ⟨fault, congrArg (fun turn => turn.answer.outcome) same, code⟩

/-- A request that is told a fault has left the session alone. -/
theorem unchanged_of_error {fault : Fault}
    (answered : (respond session request).answer.outcome = .error fault) :
    (respond session request).session = session ∧ (respond session request).event = none := by
  rcases respond_cases session request with ⟨other, _, same⟩ | ⟨_, reply, _, _, _, _, same⟩
  · rw [same]
    exact ⟨rfl, rfl⟩
  · rw [same] at answered
    cases answered

/-- A response has a result exactly if the request fails no check. -/
theorem outcome_eq_ok_iff (session : Session) (request : Request) (reply : Reply) :
    (respond session request).answer.outcome = .ok reply ↔
      ∃ command, request.version = "2.0" ∧ Spells request.method request.params command ∧
        ¬SessionMissing session command ∧ (command.run session).answer = .ok reply := by
  constructor
  · intro answered
    rcases respond_cases session request with
      ⟨fault, _, same⟩ | ⟨command, reply', right, spells, begun, replied, same⟩
    · rw [same] at answered
      cases answered
    · rw [same] at answered
      cases answered
      exact ⟨command, right, spells, begun, replied⟩
  · rintro ⟨command, right, spells, begun, replied⟩
    rw [respond_of_spelled right spells begun, Turn.map, replied]
    rfl

/-- No check is failed with the code of a look-up that fails. -/
theorem Refused.code_ne {code : Int} (refused : Refused session request code) :
    code ≠ -33003 := by
  rintro rfl
  cases refused

end Playback.Rpc
