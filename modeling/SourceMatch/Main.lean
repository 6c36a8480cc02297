import SourceMatch.CommandLine.Run
import Std.Time.DateTime.Timestamp

/-!
The program. What a command looks at is copied from the file system into a table of entries, the
command is run on the table, and what it wrote is copied back. No service can be reached from here,
so requests fail to connect.
-/
namespace SourceMatch.Main

open CommandLine

structure Copied where
  disk : Disk := {}
  complete : List Disk.Location := []

def pathOf (loc : Disk.Location) : String := "/" ++ String.ofList (Path.joinPieces loc)

def locationOf (path : String) : Disk.Location :=
  (Text.splitAtChar '/' path.toList).filter (· ≠ [])

def contentOf (path : String) : IO Disk.Entry := do
  let bytes ← IO.FS.readBinFile path
  match String.fromUTF8? bytes with
  | some text => return .text text
  | none => return .binary

partial def copyWay (c : Copied) (loc : Disk.Location) :
    Disk.Location → IO (Copied × Option Disk.Location)
  | [] => return (c, some loc)
  | name :: rest => do
    if name = ['.'] then copyWay c loc rest
    else if name = ['.', '.'] then copyWay c loc.dropLast rest
    else
      let below := loc ++ [name]
      let path : String := pathOf below
      let kind? : Option IO.FS.FileType ←
        try
          let here ← IO.FS.realPath (pathOf loc)
          let entry ← (here / String.ofList name).symlinkMetadata
          pure (some entry.type)
        catch _ => pure none
      match kind? with
      | none => return (c, none)
      | some .symlink =>
        let target ← try pure (← IO.FS.realPath path).toString catch _ => pure ""
        let c := { c with disk := c.disk.put below (.link target) }
        if target = "" then return (c, none)
        let (c, found) ← copyWay c [] (locationOf target)
        match found with
        | some loc => copyWay c loc rest
        | none => return (c, none)
      | some .dir => copyWay { c with disk := c.disk.put below .folder } below rest
      | some _ =>
        let entry ← try contentOf path catch _ => pure .binary
        return ({ c with disk := c.disk.put below entry }, if rest = [] then some below else none)

partial def copyAll (c : Copied) (loc : Disk.Location) (names : Disk.Location) : IO Copied := do
  let (c, found) ← copyWay c loc names
  match found with
  | none => return c
  | some loc =>
    if c.complete.contains loc || c.disk.get? loc ≠ some .folder then return c
    else
      let c := { c with complete := loc :: c.complete }
      let children ← try (← IO.FS.realPath (pathOf loc)).readDir catch _ => pure #[]
      children.foldlM (fun c child => copyAll c loc [child.fileName.toList]) c

def copyPaths (c : Copied) (paths : List String) : IO Copied :=
  paths.foldlM
    (fun c path =>
      copyAll c (if Disk.isAbsolute path then [] else c.disk.here) (locationOf path)) c

def writeBack (before after : Disk) : IO Unit := do
  let changed := after.entries.filter fun e => before.get? e.1 ≠ some e.2
  for (loc, entry) in changed do
    if entry = .folder then IO.FS.createDirAll (pathOf loc)
  for (loc, entry) in changed do
    if let .text content := entry then IO.FS.writeFile (pathOf loc) content

def currentTime : IO Timestamp := do
  let now := (← Std.Time.Timestamp.now).toNanosecondsSinceUnixEpoch.val
  let second := now / 1000000000
  return {
    day := Timestamp.dayNumber 1970 1 1 + second / 86400
    second := (second % 86400).toNat
    nanosecond := (now % 1000000000).toNat }

def runCommand (args : List String) : IO UInt32 := do
  let here := locationOf (← IO.currentDir).toString
  let (start, _) ← copyWay { disk := { here } } [] here
  let start ← copyPaths start (Command.bytecodePaths args)
  match Command.parse start.disk args with
  | .error refusal =>
    if refusal.isError then
      IO.eprintln ("error: " ++ refusal.message)
      return 2
    else
      IO.println refusal.message
      return 0
  | .ok command =>
    let home ← IO.getEnv "HOME"
    let copied ← copyPaths start (command.paths home)
    let now ← currentTime
    let (result, world) := command.run
      { disk := copied.disk, network := { reachable := false }, home, now }
    writeBack copied.disk world.disk
    world.printed.forM fun line => IO.println line
    world.reported.forM fun line => IO.eprintln line
    match result with
    | .ok () => return 0
    | .error e =>
      IO.eprintln ("Error: " ++ e.message)
      return 1

end SourceMatch.Main

def main (args : List String) : IO UInt32 := SourceMatch.Main.runCommand args
