import Replay.Text.Split

namespace Replay.Files

def splitPath (path : List Char) : List (List Char) := Text.pieces (· == '/') path

def joinPath (parts : List (List Char)) : List Char := List.intercalate ['/'] parts

def isVoid (part : List Char) : Bool := part == [] || part == ['.']

def splitStart : List Char → List Char × List Char
  | '/' :: rest => (['/'], rest)
  | '.' :: '/' :: rest => (['.'], '/' :: rest)
  | ['.'] => (['.'], [])
  | path => ([], path)

/-- The path without its last step, and without separators and points at its end. -/
def parent? (path : String) : Option String :=
  let (start, body) := splitStart path.toList
  match (splitPath body).reverse.dropWhile isVoid with
  | _ :: rest => some (String.ofList (start ++ joinPath (rest.dropWhile isVoid).reverse))
  | [] => if start = ['.'] then some "" else none

def isRelative (path : String) : Bool := path.toList.head? != some '/'

def join (directory path : String) : String :=
  if directory.toList.getLast? = some '/' then directory ++ path else directory ++ "/" ++ path

inductive FileError
  | notFound
  | notADirectory
  | isADirectory
  | notText
  | nulInPath
  deriving DecidableEq, Repr

def FileError.message : FileError → String
  | notFound => "No such file or directory (os error 2)"
  | notADirectory => "Not a directory (os error 20)"
  | isADirectory => "Is a directory (os error 21)"
  | notText => "stream did not contain valid UTF-8"
  | nulInPath => "file name contained an unexpected NUL byte"

inductive Entry
  | file (content : ByteArray)
  | directory

/-- Files and directories by their steps from the working directory. -/
structure Tree where
  files : List (List (List Char) × ByteArray)
  directories : List (List (List Char))

namespace Tree

def empty : Tree := ⟨[], [[]]⟩

/-- One step up; what lies above the working directory holds nothing known. -/
def up (steps : List (List Char)) : List (List Char) :=
  match steps.reverse with
  | [] => [['.', '.']]
  | ['.', '.'] :: _ => steps ++ [['.', '.']]
  | _ :: rest => rest.reverse

def addFrom (content : ByteArray) (steps : List (List Char)) (tree : Tree) :
    List (List Char) → Tree
  | [] => { tree with files := (steps, content) :: tree.files }
  | [name] => { tree with files := (steps ++ [name], content) :: tree.files }
  | part :: rest =>
    if isVoid part then addFrom content steps tree rest
    else if part = ['.', '.'] then addFrom content (up steps) tree rest
    else
      addFrom content (steps ++ [part])
        { tree with directories := (steps ++ [part]) :: tree.directories } rest

def add (tree : Tree) (path : String) (content : ByteArray) : Tree :=
  addFrom content [] tree (splitPath path.toList)

def isOutside (steps : List (List Char)) : Bool := steps.all (· == ['.', '.'])

def entry? (tree : Tree) (steps : List (List Char)) : Option Entry :=
  match tree.files.find? (·.1 = steps) with
  | some file => some (.file file.2)
  | none => if isOutside steps || tree.directories.contains steps then some .directory else none

def walk (tree : Tree) (steps : List (List Char)) : List (List Char) → Except FileError Entry
  | [] =>
    match tree.entry? steps with
    | some entry => .ok entry
    | none => .error .notFound
  | part :: rest =>
    match tree.entry? steps with
    | none => .error .notFound
    | some (.file _) => .error .notADirectory
    | some .directory =>
      if isVoid part then tree.walk steps rest
      else if part = ['.', '.'] then tree.walk (up steps) rest
      else tree.walk (steps ++ [part]) rest

/-- Opens a path. Only the root of the file system is known of what lies outside. -/
def open? (tree : Tree) (path : String) : Except FileError Entry :=
  let chars := path.toList
  if chars = [] then .error .notFound
  else if chars.contains (Char.ofNat 0) then .error .nulInPath
  else if isRelative path then tree.walk [] (splitPath chars)
  else if (splitPath chars).all (fun part => isVoid part || part == ['.', '.']) then .ok .directory
  else .error .notFound

/-- The content of a file. A directory can be opened but not read. -/
def read (tree : Tree) (path : String) : Except FileError ByteArray :=
  match tree.open? path with
  | .error error => .error error
  | .ok .directory => .error .isADirectory
  | .ok (.file content) => .ok content

end Tree

end Replay.Files
