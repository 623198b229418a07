set_option autoImplicit false

namespace MiniPascal.Cli

inductive FileTree where
  | file (content : ByteArray)
  | directory (entries : List (String × FileTree))
deriving Inhabited

inductive FileError where
  | notFound
  | alreadyExists
  | notDirectory
  | isDirectory
  | nameTooLong
  | notText
  | other (reason : String)
deriving DecidableEq

def FileError.reason : FileError → String
  | .notFound => "No such file or directory (os error 2)"
  | .alreadyExists => "File exists (os error 17)"
  | .notDirectory => "Not a directory (os error 20)"
  | .isDirectory => "Is a directory (os error 21)"
  | .nameTooLong => "File name too long (os error 36)"
  | .notText => "stream did not contain valid UTF-8"
  | .other reason => reason

-- Both limits count bytes.
def maxNameSize : Nat := 255

def maxPathSize : Nat := 4095

def missing (name : String) : FileError :=
  if name.utf8ByteSize ≤ maxNameSize then .notFound else .nameTooLong

def parts (path : String) : List String :=
  (path.toList.splitOn '/').map String.ofList

def leads (part : String) : Bool :=
  part != "" && part != "."

-- The names on the way from the root, where `..` takes back the one before it.
def names (path : String) : List String :=
  ((parts path).filter leads).foldl
    (fun way part => if part = ".." then way.dropLast else way ++ [part]) []

namespace FileTree

-- What is above the root is the root itself.
def walk (above : List FileTree) (here : FileTree) : List String → Except FileError FileTree
  | [] => .ok here
  | part :: rest =>
    match here with
    | .file _ => .error .notDirectory
    | .directory entries =>
      if !leads part then walk above here rest
      else if part = ".." then
        match above with
        | parent :: further => walk further parent rest
        | [] => walk [] here rest
      else
        match entries.lookup part with
        | some child => walk (here :: above) child rest
        | none => .error (missing part)

def text : FileTree → Except FileError String
  | .directory _ => .error .isDirectory
  | .file content =>
    match String.fromUTF8? content with
    | some text => .ok text
    | none => .error .notText

def setEntry (name : String) (tree : FileTree) (entries : List (String × FileTree)) :
    List (String × FileTree) :=
  entries.filter (·.1 != name) ++ [(name, tree)]

/-- Writes a file where the names lead, through new directories where there are none. -/
def writeAt (content : ByteArray) : List String → FileTree → Except FileError FileTree
  | [], .file _ => .ok (.file content)
  | [], .directory _ => .error .isDirectory
  -- A file stands where the directory for the new one should be, or further up.
  | [_], .file _ => .error .alreadyExists
  | _ :: _ :: _, .file _ => .error .notDirectory
  | name :: rest, .directory entries => do
    let fresh := if rest.isEmpty then .file .empty else .directory []
    let child ← writeAt content rest ((entries.lookup name).getD fresh)
    return .directory (setEntry name child entries)

def write (root : FileTree) (path : String) (content : ByteArray) : Except FileError FileTree :=
  root.writeAt content (names path)

end FileTree

structure FileSystem where
  root : FileTree
  workingDir : String

instance : Coe FileTree FileSystem := ⟨fun root => ⟨root, "/"⟩⟩

namespace FileSystem

def absolute (files : FileSystem) (path : String) : String :=
  if path.startsWith "/" then path else files.workingDir ++ "/" ++ path

def find (files : FileSystem) (path : String) : Except FileError FileTree :=
  if path = "" then .error .notFound
  else if path.utf8ByteSize > maxPathSize then .error .nameTooLong
  else files.root.walk [] (parts (files.absolute path))

def read (files : FileSystem) (path : String) : Except FileError String := do
  (← files.find path).text

def write (files : FileSystem) (path : String) (content : ByteArray) :
    Except FileError FileSystem := do
  return { files with root := ← files.root.write (files.absolute path) content }

def append (files : FileSystem) (path : String) (content : ByteArray) :
    Except FileError FileSystem := do
  match ← files.find path with
  | .file old => files.write path (old ++ content)
  | .directory _ => .error .isDirectory

end FileSystem

end MiniPascal.Cli
