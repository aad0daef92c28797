import SeriesCatalog.Text.Utf8

/-!
# File trees

The files that the program sees are a tree of directories, with a working directory in it.
A path is a text of names between slashes.  It is followed from the working directory, or
from the top of the tree if it begins with a slash.  Paths and names have a greatest length.

* `FileTree.target`: where a path leads.
* `FileTree.contents`, `FileTree.readText`: what a file holds, or the complaint of the
  system.
* `FileTree.makeDirectories`, `FileTree.append`: what the logs do to the tree.
-/

namespace SeriesCatalog

/-- What stands in a directory under a name. -/
inductive Node
  | file (octets : List UInt8)
  | directory
deriving DecidableEq, Repr

/-- The names on the way from the top of a tree. -/
abbrev Location := List String

structure FileTree where
  /-- Files and directories.  The directories around them need not be given. -/
  nodes : List (Location × Node)
  work : Location

namespace FileTree

/-- Why a path leads nowhere. -/
inductive Fault
  /-- Something on the way is missing. -/
  | missing
  /-- A file is on the way. -/
  | notDirectory
  /-- The path or a name on the way is too long. -/
  | tooLong
  /-- The path holds a zero character. -/
  | zeroInside
deriving DecidableEq, Repr

def Fault.message : Fault → String
  | missing => "No such file or directory (os error 2)"
  | notDirectory => "Not a directory (os error 20)"
  | tooLong => "File name too long (os error 36)"
  | zeroInside => "file name contained an unexpected NUL byte"

/-- The complaint about a directory where a file is needed. -/
def isDirectory : String := "Is a directory (os error 21)"

/-- The complaint about a file that is no text. -/
def notText : String := "stream did not contain valid UTF-8"

/-- What stands at a location.  A location above another is a directory. -/
def nodeAt? (t : FileTree) (l : Location) : Option Node :=
  match t.nodes.find? fun e => e.1 = l with
  | some e => some e.2
  | none =>
      if l.isPrefixOf t.work || t.nodes.any fun e => l.isPrefixOf e.1 then some .directory
      else none

def names (path : String) : List String :=
  (path.splitOn "/").filter fun n => n ≠ "" && n ≠ "."

/-- Whether a path begins with a slash. -/
def isAbsolute (path : String) : Bool :=
  path.startsWith "/"

/-- Whether a path can only be that of a directory. -/
def needsDirectory (path : String) : Bool :=
  path.endsWith "/" || path.endsWith "/."

/-- Names without those at the end that lead nowhere else. -/
def withoutIdle (l : List String) : List String :=
  (l.reverse.dropWhile fun n => n.isEmpty || n = ".").reverse

/-- Whether the last name of a path is a point. -/
def endsInside (path : String) : Bool :=
  (path.splitOn "/").reverse.find? (fun n => !n.isEmpty) = some "."

/-- The path of the directory around the last name of a path. -/
def directoryOf (path : String) : String :=
  "/".intercalate (withoutIdle (path.splitOn "/").dropLast)

/-- The path of the working directory. -/
def workPath (t : FileTree) : String :=
  "/" ++ "/".intercalate t.work

def join (directory path : String) : String :=
  if isAbsolute path || directory.isEmpty then path
  else if directory.endsWith "/" then directory ++ path
  else directory ++ "/" ++ path

inductive Target
  | file (l : Location) (octets : List UInt8)
  | directory (l : Location)
  /-- To nothing, in a directory that is there. -/
  | absent (l : Location)
  | nowhere (fault : Fault)
deriving DecidableEq, Repr

def look (t : FileTree) (l : Location) : Target :=
  match t.nodeAt? l with
  | some (.file octets) => .file l octets
  | some .directory => .directory l
  | none => .absent l

/-- The greatest number of octets of a name. -/
def greatestName : Nat := 255

/-- The greatest number of octets of a path. -/
def greatestPath : Nat := 4095

def enter (t : FileTree) (reached : Target) (name : String) : Target :=
  match reached with
  | .file _ _ => .nowhere .notDirectory
  | .directory l =>
      if name = ".." then .directory l.dropLast
      else if greatestName < name.utf8ByteSize then .nowhere .tooLong
      else t.look (l ++ [name])
  | .absent _ => .nowhere .missing
  | .nowhere fault => .nowhere fault

/-- What is wrong with a path before it is followed. -/
def fault? (path : String) : Option Fault :=
  if path.isEmpty then some .missing
  else if path.toList.contains '\x00' then some .zeroInside
  else if greatestPath < path.utf8ByteSize then some .tooLong
  else none

/-- The directory from which a path is followed. -/
def startOf (t : FileTree) (path : String) : Location :=
  if isAbsolute path then [] else t.work

def target (t : FileTree) (path : String) : Target :=
  match fault? path with
  | some fault => .nowhere fault
  | none =>
      match (names path).foldl t.enter (.directory (t.startOf path)) with
      | .file l octets =>
          if needsDirectory path then .nowhere .notDirectory else .file l octets
      | reached => reached

/-- Whether something stands at a path. -/
def stands (t : FileTree) (path : String) : Bool :=
  match t.target path with
  | .file _ _ => true
  | .directory _ => true
  | _ => false

/-- What opening and reading a file gives. -/
inductive Contents
  | octets (l : List UInt8)
  | closed (complaint : String)
  | unreadable (complaint : String)

/-- Opens a file and reads it. -/
def contents (t : FileTree) (path : String) : Contents :=
  match t.target path with
  | .file _ l => .octets l
  | .directory _ => .unreadable isDirectory
  | .absent _ => .closed Fault.missing.message
  | .nowhere fault => .closed fault.message

def readText (t : FileTree) (path : String) : Except String String :=
  match t.contents path with
  | .closed c => .error c
  | .unreadable c => .error c
  | .octets l =>
      match Text.Utf8.decode l with
      | .ok s => .ok s
      | .error _ => .error notText

/-- Puts a node at a location. -/
def put (l : Location) (node : Node) (t : FileTree) : FileTree :=
  { t with nodes := t.nodes.filter (fun e => e.1 ≠ l) ++ [(l, node)] }

/-- Makes the directories of names below a directory, if no file is in the way.  A new
directory is put into the tree where the way ends or turns back. -/
def makeBelow (t : FileTree) (l : Location) : List String → Option FileTree
  | [] => some (t.put l .directory)
  | name :: rest =>
      match t.enter (.directory l) name with
      | .directory m =>
          if name = ".." then (t.put l .directory).makeBelow m rest else t.makeBelow m rest
      | .absent m => t.makeBelow m rest
      | _ => none

/-- Whether a location is reached that is a directory. -/
def Target.isDirectory : Target → Bool
  | .directory _ => true
  | _ => false

/-- Makes the directories of a path, of which the empty one needs none.  A path with a
point at its end is one inside of a directory, which is not made. -/
def makeDirectories (t : FileTree) (path : String) : Option FileTree :=
  if path.isEmpty then some t
  else match fault? path with
    | some _ => none
    | none =>
        let l := t.startOf path
        if endsInside path then
          match t.makeBelow l (names path).dropLast with
          | some t => if (t.target path).isDirectory then some t else none
          | none => none
        else t.makeBelow l (names path)

/-- Appends octets to a file, which is new if there is none. -/
def append (t : FileTree) (path : String) (octets : List UInt8) : Option FileTree :=
  match t.target path with
  | .file l old => some (t.put l (.file (old ++ octets)))
  | .absent l => some (t.put l (.file octets))
  | _ => none

/-- The names on the way from one location to another. -/
def namesBetween : Location → Location → List String
  | a :: l, b :: m =>
      if a = b then namesBetween l m else List.replicate (l.length + 1) ".." ++ b :: m
  | l, m => List.replicate l.length ".." ++ m

/-- The files of a tree with their paths from the working directory. -/
def files (t : FileTree) : List (String × List UInt8) :=
  t.nodes.filterMap fun e =>
    match e.2 with
    | .file octets => some ("/".intercalate (namesBetween t.work e.1), octets)
    | .directory => none

end FileTree

end SeriesCatalog
