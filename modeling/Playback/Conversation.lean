import Playback.Command.Notation
import Playback.Text.Blank
import Playback.Text.Lines
import Playback.Wire.Records

/-!
# Conversations in lines of JSON

Each line of the input that is not blank is one command, and each is answered by one line:
an object with the reply under `ok`, or with the wording of a refusal under `error`.  A line that is
no command is answered like a refusal, and the conversation goes on.
-/

namespace Playback

open Json (Value)

namespace Conversation

inductive Answer
  | ok (reply : Reply)
  | refused (error : SessionError)
  | unreadable
  deriving DecidableEq, Repr

def Answer.ofReply : Except SessionError Reply → Answer
  | .ok reply => .ok reply
  | .error error => .refused error

def Answer.toJson : Answer → Value
  | .ok reply => .object [("ok", reply.toJson)]
  | .refused error => .object [("error", .text error.message)]
  | .unreadable => .object [("error", .text "Invalid command")]

def answer (session : Session) (line : List Char) : Turn Answer :=
  match Command.read? line with
  | some command => (command.run session).map .ofReply
  | none => { answer := .unreadable, session }

/-- The turns of the lines that are not blank, in order. -/
def turns (session : Session) : List (List Char) → List (Turn Answer)
  | [] => []
  | line :: rest =>
    let command := Text.trim line
    if command.isEmpty then
      turns session rest
    else
      let turn := answer session command
      turn :: turns turn.session rest

def sessionAfter {α : Type} (session : Session) (turns : List (Turn α)) : Session :=
  match turns.getLast? with
  | none => session
  | some turn => turn.session

def print (session : Session) (input : List Char) : List Char :=
  (turns session (Text.lines input)).flatMap fun turn =>
    turn.answer.toJson.spelling ++ ['\n']

end Conversation

end Playback
