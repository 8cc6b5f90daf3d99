import Screencast.Program
import Screencast.Tool.Script

/-!
The command line. It answers for the help, the version and every command line that is wrong, and
works on a request on a host without files: whoever can start tools supplies a host of its own.
-/

open Screencast

/-- Writes bytes to a stream. -/
def writeBytes (stream : IO.FS.Stream) (bytes : List UInt8) : IO Unit :=
  stream.write ⟨bytes.toArray⟩

/-- Runs the program on the words of the command line. -/
def main (words : List String) : IO UInt32 := do
  let env : CommandLine.Environment :=
    { bridge := ← IO.getEnv "ADB"
      castTool := ← IO.getEnv "SCRCPY"
      logFilter := ← IO.getEnv "RUST_LOG" }
  let home : ToolPath := ⟨(← IO.getEnv "HOME").getD ""⟩
  let host := Host.ofFiles [] home ((← IO.getEnv "PATH").getD "") []
  let completion := Program.run host env none words
  writeBytes (← IO.getStdout) completion.stdout
  writeBytes (← IO.getStderr) completion.stderr
  return UInt32.ofNat completion.exitCode
