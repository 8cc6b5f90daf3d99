import Screencast.Text.Utf8
import Screencast.Tool.Host

/-!
Hosts that are written down: a list of files, and programs that answer from a table. Every
directory above a file exists.
-/

namespace Screencast

/-- A program that answers from a table. -/
inductive Script where
  /-- The same answer to all arguments. -/
  | constant (response : Response)
  /-- A bridge with an answer to the request for the listing, an answer to queries of each device,
  and an answer to queries of all others. -/
  | bridge (listing : Response) (queries : List (String × Response)) (others : Response)

namespace Script

/-- A failure without a word. -/
def silentFailure : Response := ⟨[], [], .code 1⟩

/-- The answer of a bridge to the query of a device that it does not know. -/
def closed : Response := ⟨[], Text.utf8 "error: closed\n", .code 1⟩

/-- The answer to some arguments. -/
def respond : Script → List String → Response
  | constant response, _ => response
  | bridge listing _ _, "devices" :: _ => listing
  | bridge _ queries others, "-s" :: serial :: _ => (queries.lookup serial).getD others
  | bridge _ _ others, ["-s"] => others
  | bridge .., _ => silentFailure

end Script

/-- The place of a path below another place. -/
def Host.placeBelow (base : List String) (path : ToolPath) : List String :=
  base ++ path.pieces.filter fun piece => piece ≠ "" && piece ≠ "."

/-- A host with some files below the working directory. -/
def Host.ofFiles (workingPlace : List String) (home : ToolPath) (searchPath : String)
    (files : List (ToolPath × Node)) : Host where
  workingPlace := workingPlace
  home := home
  searchPath := searchPath
  node? place :=
    let placed := files.map fun (path, node) => (placeBelow workingPlace path, node)
    match placed.find? (·.1 = place) with
    | some (_, node) => some node
    | none =>
      if place.isPrefixOf workingPlace || placed.any fun (file, _) => place.isPrefixOf file then
        some .directory
      else none

end Screencast
