import Playback.Net.Address
import Playback.Settings.Engine

/-!
# Settings of the whole program

The stepping engine and the server have their settings each, and every setting has a default.
-/

namespace Playback

structure ServerSettings where
  host : Net.Address := .loopback
  /-- The port that the server listens at; zero means any that is free. -/
  port : UInt16 := 3000
  deriving DecidableEq, Repr

/-- The address and the port that the server listens at. -/
def ServerSettings.socket (settings : ServerSettings) : List Char :=
  settings.host.printWithPort settings.port

structure Settings where
  engine : EngineSettings := {}
  server : ServerSettings := {}
  deriving DecidableEq, Repr

end Playback
