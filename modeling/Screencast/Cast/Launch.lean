import Screencast.Cast.Options
import Screencast.Tool.Invoke

/-!
Launching a cast: the casting tool is found, started with the arguments of the options, and its
output is let through until it ends.
-/

namespace Screencast

namespace CastOptions

/-- The casting tool where none is given. -/
def defaultTool : ToolPath := ⟨"scrcpy"⟩

/-- Launches a cast and waits for its end. -/
def launch (host : Host) (tool : ToolPath) (options : CastOptions) :
    Session (Except ToolError Unit) := do
  match host.find tool with
  | .error error => return .error error
  | .ok path =>
    Session.log .debug .cast ("Running command: " ++ showCommand path options.toArgs)
    Session.log .debug .cast ("Mirroring " ++ options.serial)
    match ← host.passThrough path options.toArgs with
    | .error error => return .error error
    | .ok () =>
      Session.log .debug .cast "scrcpy exited"
      return .ok ()

end CastOptions

end Screencast
