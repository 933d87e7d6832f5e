import CommandAdvisor.Program

/-!
# The command line program

Runs the program on what is stored on this machine: the directories and files on the way
to the settings and to the history are taken into a workspace, the run changes the
workspace, and what has changed is stored. No explanation service is connected.
-/
namespace CommandAdvisor.Machine

open Storage (FileSystem Node Path Place)

/-- The path of a place. -/
def pathText (place : Place) : String := Text.asString ("/" ++ Text.joinedBy "/" place)

/-- What is at a place on this machine. The directory of the program counts as closed, and
what cannot be read counts as missing. -/
def nodeAt? (closed place : Place) : IO (Option Node) := do
  try
    let path ← IO.FS.realPath (pathText place)
    if ← path.isDir then return some (.directory (if place = closed then 0o700 else 0o755))
    else return some (.file Storage.privateMode (← IO.FS.readBinFile path))
  catch _ => return none

/-- Take everything on the way to a path into a file system. -/
def takeIn (closed : Place) (fs : FileSystem) (p : Path) : IO FileSystem := do
  let place := (if p.anchor = .here then fs.here else []) ++ p.parts
  let mut files := fs
  for n in List.range place.length do
    let step := place.take (n + 1)
    match ← nodeAt? closed step with
    | some node => files := files.put step node
    | none => pure ()
  return files

/-- The permissions that permission bits grant to one kind of user. -/
def accessOf (bits : Nat) : IO.AccessRight :=
  { read := bits &&& 4 != 0, write := bits &&& 2 != 0, execution := bits &&& 1 != 0 }

/-- Store what is at a place. -/
def putOut (place : Place) (node : Node) : IO Unit := do
  let path := pathText place
  match node with
  | .directory _ => IO.FS.createDirAll path
  | .file _ content => IO.FS.writeBinFile path content
  let bits := node.mode
  IO.setAccessRights path
    { user := accessOf (bits / 64), group := accessOf (bits / 8), other := accessOf bits }

/-- Store what has changed, directories before what is in them. -/
def settle (before after : FileSystem) : IO Unit := do
  for (place, node) in after.nodes.mergeSort (fun a b => a.1.length ≤ b.1.length) do
    if before.node? place ≠ some node then putOut place node

/-- A number that nobody else has. -/
def freshNumber : IO Nat := do
  return (← IO.getRandomBytes 8).toList.foldl (fun n b => 256 * n + b.toNat) 0

/-- Seconds since the start of 1970, by the time of a file that has just been made. -/
def now : IO Number.Quantity := do
  let (_, path) ← IO.FS.createTempFile
  let time := (← path.metadata).modified
  IO.FS.removeFile path
  return .real (.ofScaled false (time.sec.toNat * 1000000000 + time.nsec.toNat) (-9))

/-- The variables of the environment that matter. -/
def environmentOf (names : List Text) : IO (List (Text × Text)) :=
  names.filterMapM fun name => do
    return (← IO.getEnv name.asString).map fun value => (name, Text.ofString value)

/-- The variables that matter whatever service is in use. -/
def commonVariables : List Text :=
  ["HOME", "COLUMNS", "NO_COLOR", "TERM", "CMDLENS_MODEL", "CMDLENS_COLOR"]

/-- The names of those variables. -/
def variableNames : List Text :=
  commonVariables ++ Settings.providers.filterMap Settings.Provider.keyVariable

/-- The home directory of whoever runs the program. -/
def homeIn (host : Host) (environment : List (Text × Text)) : Text :=
  ((List.lookup (Text.ofString "HOME") environment).or host.own).getD "/"

/-- The workspace of a run, with the settings taken in but not the history. -/
def openWorkspace : IO Workspace := do
  let environment ← environmentOf variableNames
  let here := (Path.ofText (← IO.currentDir).toString).parts
  let host : Host := .usual
  let w : Workspace :=
    { files := ⟨here, []⟩, home := homeIn host environment, environment, host
      clock := ← now, issued := ← freshNumber
      stamp := Text.ofNat (← freshNumber), reports := .empty, requests := [], journal := []
      printed := [] }
  return { w with files := ← takeIn w.privateDirectory.parts w.files w.settingsFile }

/-- The file of the history, if the settings can be used. -/
def historyFile? (w : Workspace) : Option Path :=
  match (Settings.load >>= Settings.historyPath).run w with
  | .ok path _ => some path
  | .error _ _ => none

/-- No service can be reached from here. -/
def noService : Explanation.Service := fun _ =>
  .error (.outage "no explanation service is connected")

/-- The status of an ending. -/
def statusOf : Ending → UInt32
  | .served status | .stopped status => status.toUInt32
  | .failed _ => 1

/-- The message of a run that failed. -/
def failureText : Ending → Text
  | .failed cause => cause.label ++ ": " ++ cause.message ++ "\n"
  | _ => []

/-- A run of the program with the arguments of the command line. -/
def run (arguments : List Text) : IO UInt32 := do
  let opened ← openWorkspace
  let files ← (historyFile? opened).toList.foldlM (takeIn opened.privateDirectory.parts)
    opened.files
  let before := { opened with files }
  let (transcript, after) :=
    Program.run noService (← (← IO.getStdout).isTty) arguments before
  settle before.files after.files
  IO.print transcript.output.asString
  IO.eprint (transcript.complaints ++ failureText transcript.ending).asString
  return statusOf transcript.ending

end CommandAdvisor.Machine

def main (arguments : List String) : IO UInt32 :=
  CommandAdvisor.Machine.run (arguments.map CommandAdvisor.Text.ofString)
