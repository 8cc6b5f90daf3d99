import Screencast.Text.Pieces

/-!
Paths of tools: slash-separated text, kept as it was written. A path that starts with a slash is
absolute.
-/

namespace Screencast

/-- A path as it was written. -/
structure ToolPath where
  text : String
deriving DecidableEq, Repr

namespace ToolPath

/-- The parts of a path: the root, the place where it starts, one step up, or a name. -/
inductive Part where
  | root
  | here
  | up
  | name (text : String)
deriving DecidableEq, Repr

/-- A part as it is written. -/
def Part.text : Part → String
  | root => "/"
  | here => "."
  | up => ".."
  | name text => text

/-- The pieces of a path between its slashes, some of which may be empty. -/
def pieces (path : ToolPath) : List String := Text.cutString '/' path.text

/-- A path that starts at the root. -/
def isAbsolute (path : ToolPath) : Bool := path.text.toList.head? == some '/'

/-- The part that a piece inside a path stands for. Empty pieces and dots stand for none. -/
def Part.ofPiece? (piece : String) : Option Part :=
  if piece = "" ∨ piece = "." then none
  else if piece = ".." then some .up
  else some (.name piece)

/-- The parts of a path. A dot counts only where the path starts with it. -/
def parts (path : ToolPath) : List Part :=
  if path.isAbsolute then .root :: path.pieces.filterMap Part.ofPiece?
  else if path.pieces.head? = some "." then .here :: path.pieces.filterMap Part.ofPiece?
  else path.pieces.filterMap Part.ofPiece?

/-- The name at the end of a path, unless it ends at the root, in a dot or one step up. -/
def fileName? (path : ToolPath) : Option String :=
  match path.parts.getLast? with
  | some (.name text) => some text
  | _ => none

/-- The name by which a tool is called in messages: the file's name, else the whole path. -/
def label (path : ToolPath) : String := path.fileName?.getD path.text

/-- The second path, taken from the first one on; an absolute path stays what it is. -/
def join (base path : ToolPath) : ToolPath :=
  if path.isAbsolute then path
  else
    match base.text.toList.getLast? with
    | none => path
    | some '/' => ⟨base.text ++ path.text⟩
    | some _ => ⟨base.text ++ "/" ++ path.text⟩

/-- The path with the home directory in place of a tilde that is its first part. -/
def expandHome (home path : ToolPath) : ToolPath :=
  match path.parts with
  | .name "~" :: parts => parts.foldl (fun path part => path.join ⟨part.text⟩) home
  | _ => path

/-- The path from the root along names. -/
def ofNames (names : List String) : ToolPath := ⟨"/" ++ Text.joinStrings "/" names⟩

end ToolPath

end Screencast
