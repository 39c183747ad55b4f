import ScriptCheck.Text.Bytes

/-!
# Files

A tree of files and directories in which a script can be looked up by its path, component by
component. Nothing is known of what lies outside the tree, but one can walk out of it.
-/

namespace ScriptCheck.Command

/-- Why a script cannot be read. -/
inductive ReadError where
  | noSuchFile
  | isDirectory
  | notDirectory
  | nameTooLong
  | invalidText
  /-- Another reason, in words. -/
  | other (reason : String)
  deriving DecidableEq, Repr

/-- The wording of a reason. -/
def ReadError.message : ReadError → String
  | .noSuchFile => "No such file or directory (os error 2)"
  | .isDirectory => "Is a directory (os error 21)"
  | .notDirectory => "Not a directory (os error 20)"
  | .nameTooLong => "File name too long (os error 36)"
  | .invalidText => "stream did not contain valid UTF-8"
  | .other reason => reason

/-- The text that bytes encode. -/
def decodeText (bytes : ByteArray) : Except ReadError String :=
  match String.fromUTF8? bytes with
  | some text => .ok text
  | none => .error .invalidText

/-- What can stand at a path. -/
inductive Node where
  | file (content : ByteArray)
  | directory

/-- A tree of files, as a list of what stands where. A directory need not be listed if something is
listed in it. -/
structure FileTree where
  entries : List (List String × Node)

/-- A place that a walk can come to. -/
inductive Spot where
  /-- A directory outside the tree. -/
  | outside
  /-- A path in the tree, last component first, and what stands there. -/
  | inside (up : List String) (node : Node)

namespace FileTree

/-- The components of a path. -/
def components (path : String) : List String := path.splitOn "/"

/-- A tree with something at each of some paths. -/
def ofList (nodes : List (String × Node)) : FileTree :=
  ⟨nodes.map fun (path, node) => ((components path).filter (!·.isEmpty), node)⟩

/-- What stands at a path. -/
def node? (t : FileTree) (path : List String) : Option Node :=
  match t.entries.find? (·.1 == path) with
  | some (_, node) => some node
  | none =>
    if path.isEmpty || t.entries.any (path.isPrefixOf ·.1) then some .directory else none

/-- The greatest number of bytes of a component. -/
def componentLimit : Nat := 255

/-- The greatest number of bytes of a path. -/
def pathLimit : Nat := 4095

/-- Goes on by one component. An empty one stays in a directory, like a dot. -/
def step (t : FileTree) (spot : Spot) (name : String) : Except ReadError Spot :=
  match spot with
  | .inside _ (.file _) => .error .notDirectory
  | .outside =>
    if name = "" ∨ name = "." ∨ name = ".." then .ok .outside
    else if componentLimit < name.utf8ByteSize then .error .nameTooLong
    else .error .noSuchFile
  | .inside up .directory =>
    if name = "" ∨ name = "." then .ok spot
    else if name = ".." then
      match up with
      | [] => .ok .outside
      | _ :: up => .ok (.inside up .directory)
    else if componentLimit < name.utf8ByteSize then .error .nameTooLong
    else match t.node? (name :: up).reverse with
      | some node => .ok (.inside (name :: up) node)
      | none => .error .noSuchFile

/-- Walks along a path. A slash in front leads out of the tree. -/
def walk (t : FileTree) (path : String) : Except ReadError Spot :=
  if path.isEmpty then .error .noSuchFile
  else if pathLimit < path.utf8ByteSize then .error .nameTooLong
  else
    let start := if path.startsWith "/" then .outside else .inside [] .directory
    (components path).foldlM t.step start

/-- The text of the file at a path. -/
def readText (t : FileTree) (path : String) : Except ReadError String := do
  match ← t.walk path with
  | .inside _ (.file content) => decodeText content
  | _ => .error .isDirectory

end FileTree

end ScriptCheck.Command
