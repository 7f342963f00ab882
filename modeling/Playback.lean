import Playback.Main
import Playback.Session.Watched
import Playback.Proofs.Recording.Occurrence
import Playback.Proofs.Recording.Frames
import Playback.Proofs.Recording.CallStack
import Playback.Proofs.Recording.Continuation
import Playback.Proofs.Recording.TopLevelCalls
import Playback.Proofs.Recording.CodelessLines
import Playback.Proofs.Recording.Rebasing
import Playback.Proofs.Session.Change
import Playback.Proofs.Stepping.Landing
import Playback.Proofs.Stepping.Walk
import Playback.Proofs.Session.Consistency
import Playback.Proofs.Session.IndexedHistory
import Playback.Proofs.Session.Undo
import Playback.Proofs.Session.Refusal
import Playback.Proofs.Session.Account
import Playback.Proofs.Session.Foresight
import Playback.Proofs.Session.Forgetting
import Playback.Proofs.Session.Watched
import Playback.Proofs.Session.Detour
import Playback.Proofs.Session.Restart
import Playback.Proofs.Session.OwnDepths
import Playback.Proofs.Session.Breakpoints
import Playback.Proofs.Source.Scope
import Playback.Proofs.Recording.Reindentation
import Playback.Proofs.Breakpoint
import Playback.Proofs.Conversation
import Playback.Proofs.Json.Reader
import Playback.Proofs.Command.Notation
import Playback.Proofs.Rpc.Agreement
import Playback.Proofs.Command.Forms
import Playback.Proofs.Session.Lifecycle
import Playback.Proofs.Session.Reports
import Playback.Proofs.Rpc.Response
import Playback.Proofs.Prompt.Dialogue
import Playback.Proofs.Prompt.Hits
import Playback.Proofs.Prompt.Spelling
import Playback.Proofs.Recording.File
import Playback.Proofs.Settings.File
import Playback.Proofs.Conversation.Framing
