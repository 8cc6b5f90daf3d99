import Screencast.CommandLine.Help
import Screencast.CommandLine.Scan

/-!
From the words of a command line to a request. What the words leave open comes from the
environment, and what both leave open has a default.
-/

namespace Screencast.CommandLine

/-- The path of a tool: from the words, else from the environment, else the default. -/
def choosePath (setting : Setting) (given : Option ToolPath) (fallback : Option String)
    (default : ToolPath) : Except UsageError ToolPath :=
  match given, fallback with
  | some path, _ => .ok path
  | none, some text => readPath setting text
  | none, none => .ok default

/-- The request of a draft. -/
def Draft.complete (draft : Draft) (env : Environment) (extra : List String) :
    Except UsageError Request := do
  let bridge ← choosePath .bridge draft.bridge env.bridge Bridge.defaultPath
  let castTool ← choosePath .castTool draft.castTool env.castTool CastOptions.defaultTool
  return {
    serial := draft.serial
    videoCodec := draft.videoCodec
    maxSize := draft.maxSize
    maxFps := draft.maxFps
    noAudio := draft.noAudio
    keyboard := draft.keyboard.getD .default
    listDevices := draft.listDevices
    json := draft.json
    verbose := draft.verbose
    bridge := bridge
    castTool := castTool
    extra := extra }

/-- The request that the words of a command line state. -/
def parse (env : Environment) (words : List String) : Except Stop Request :=
  match Scan.run {} words with
  | .error stop => .error stop
  | .ok (scan, extra) =>
    match scan.settle.bind fun draft => draft.complete env extra with
    | .ok request => .ok request
    | .error error => .error (.usage error)

end Screencast.CommandLine
