import Std.Time.DateTime.Timestamp
import SeriesCatalog.Command.Run

/-!
# The program

The files that a run touches are read into a tree, the run is worked out on it, and what
has been appended to files of the tree is appended to the files of the system.
-/

namespace SeriesCatalog
namespace Program

def readVariables (names : List String) : IO Settings.Variables := do
  let found ← names.filterMapM fun name => do
    return (← IO.getEnv name).map fun value => (name, value)
  return fun name => Entries.lookup name found

/-- What the system has at a path. -/
def readNode? (path : String) : IO (Option Node) := do
  let absolute := (← IO.currentDir) / path
  if ← absolute.isDir then return some .directory
  if ← absolute.pathExists then
    return some (.file (← IO.FS.readBinFile absolute).toList)
  return none

/-- Adds what the system has on the way along names, up to a file. -/
def addAlong (path : String) (l : Location) (t : FileTree) : List String → IO FileTree
  | [] => return t
  | name :: rest => do
      let path := path ++ name
      let l := if name = ".." then l.dropLast else l ++ [name]
      match ← readNode? path with
      | none => return t
      | some .directory => addAlong (path ++ "/") l (t.put l .directory) rest
      | some node => return t.put l node

/-- Adds what the system has on the way to paths. -/
def addPaths (t : FileTree) (paths : List String) : IO FileTree :=
  paths.foldlM
    (fun t path =>
      let start := if FileTree.isAbsolute path then "/" else ""
      addAlong start (t.startOf path) t (FileTree.names path))
    t

/-- The directory around a location, and the location, as paths of the system. -/
def systemPaths (l : Location) : String × String :=
  ("/" ++ "/".intercalate l.dropLast, "/" ++ "/".intercalate l)

/-- Appends what a file of the tree has gained. -/
def writeGain (old : FileTree) (l : Location) : Node → IO Unit
  | .directory => IO.FS.createDirAll (systemPaths l).2
  | .file octets => do
      let known := match old.nodeAt? l with
        | some (.file before) => some before.length
        | _ => none
      let gain := octets.drop (known.getD 0)
      if known.isNone || !gain.isEmpty then
        let (directory, path) := systemPaths l
        IO.FS.createDirAll directory
        IO.FS.withFile path .append fun h => h.write ⟨gain.toArray⟩

/-- Identities that no other run is likely to make up. -/
def freshIdentities (now : Int) : IO (Nat → ObjectId) := do
  let random ← IO.rand 0 0xFFFFFFFFFF
  let base := (now / 1000).toNat * (Words.greatest64 + 1) + random * 0x1000000
  return fun i => .ofNat (base + i)

/-- The standard input, if the run reads it. -/
def readInput (reads : Bool) : IO (List UInt8) := do
  if reads then return (← (← IO.getStdin).readBinToEnd).toList else return []

/-- What a run of the program sees. -/
def readWorld (i : Command.Invocation) : IO Command.World := do
  let now := (← Std.Time.Timestamp.now).toMillisecondsSinceUnixEpoch.val
  let settled ← readVariables Command.variableNames
  let empty : FileTree := ⟨[], FileTree.names (← IO.currentDir).toString⟩
  let withSettings ← addPaths empty (i.settingsPaths settled empty)
  let references := i.references settled withSettings
  let environment ← readVariables (Command.variableNames ++ references)
  return {
    environment := environment
    tree := ← addPaths withSettings (i.workPaths environment withSettings)
    input := ← readInput i.readsInput
    fresh := ← freshIdentities now
    time := Instant.stamp now }

/-- Writes what a run has written. -/
def writeReport (old : FileTree) (r : Command.Report) : IO UInt32 := do
  r.tree.nodes.forM fun e => writeGain old e.1 e.2
  IO.eprint r.errors
  let output ← IO.getStdout
  output.write ⟨r.output.toArray⟩
  output.flush
  return r.code.toUInt32

/-- Runs the program on the system. -/
def run (arguments : List String) : IO UInt32 := do
  match Command.parse arguments with
  | .error e => writeReport ⟨[], []⟩ (Command.runEnded ⟨[], []⟩ e)
  | .ok i =>
      let world ← readWorld i
      -- A run has one time, at which all of its requests are answered.
      writeReport world.tree (Command.runInvocation world i fun _ => some 0)

end Program
end SeriesCatalog

def main (arguments : List String) : IO UInt32 :=
  SeriesCatalog.Program.run arguments
