import CommandAdvisor.Json.Room
import CommandAdvisor.Storage.PrivateFile
import CommandAdvisor.Text.Lowercase

/-!
# Stored settings

Settings are read from a file and then overridden by the environment: the model, colour,
and the key of the service that is in use. A file that is not there, or does not hold
JSON, or holds something other than an object, counts as empty; one that cannot be read to
its end is a failure.

## Main definitions
* `Settings.overridden`: settings in an environment.
* `Settings.load` and `Settings.save`.
* `Settings.historyPath`: where the history is.
-/
namespace CommandAdvisor.Settings

open Json.Value (Members)
open Storage (Path)

/-- What a colour variable says: words for yes and no in any case. -/
def readColor? (value : Text) : Option Bool :=
  let word := Text.lower (Text.trim value)
  let yes : List Text := ["1", "true", "yes", "on"]
  let no : List Text := ["0", "false", "no", "off"]
  if yes.contains word then some true else if no.contains word then some false else none

/-- The settings with the model of the environment, if it names one. -/
def withModel (w : Workspace) (s : Settings) : Settings :=
  match w.nonempty? "CMDLENS_MODEL" with
  | some model => { s with model }
  | none => s

/-- The settings with the colour of the environment, if it says yes or no. -/
def withColor (w : Workspace) (s : Settings) : Settings :=
  match (w.nonempty? "CMDLENS_COLOR").bind readColor? with
  | some color => { s with color := some color }
  | none => s

/-- The name of the service in use: the one that is set, or the one of the model. -/
def activeProvider? (s : Settings) : Option Text :=
  match s.provider.filter fun name => !name.isEmpty with
  | some name => some name
  | none => providerOfModel? s.model

/-- The settings with the key of the service in use, if the environment has one. -/
def withKey (w : Workspace) (s : Settings) : Settings :=
  match (s.activeProvider?.bind provider?).bind Provider.keyVariable with
  | some name =>
    match w.nonempty? name with
    | some key => { s with apiKey := some key }
    | none => s
  | none => s

/-- The settings as the environment changes them. The key comes last, since it depends
on the model. -/
def overridden (w : Workspace) (s : Settings) : Settings :=
  ((s.withModel w).withColor w).withKey w

/-- The members of the object in the settings file. -/
def storedMembers : Action Members := do
  let path := (← get).settingsFile
  match (← get).files.isThere path with
  | .error fault => throw (.storage ⟨fault, path, none⟩)
  | .ok false => return []
  | .ok true =>
    let content ← Action.onDisk (Storage.Disk.read path)
    match String.fromUTF8? content with
    | none => throw .notText
    | some text =>
      match Json.exhaustion? (← get).host.room text with
      | some during => throw (.exhausted during)
      | none =>
        match Json.read .free text with
        | .error .malformed =>
          Action.note (.settingsUnusable path .notJson)
          return []
        | .error (.oversized digits) => throw (.longInteger digits)
        | .ok v =>
          Action.note (.settingsLoaded path)
          match v with
          | .object members => return members
          | _ => return []

/-- The settings in force. -/
def load : Action Settings := do
  let members ← storedMembers
  match decode (.object members) with
  | .invalid issues => throw (.invalid issues)
  | .valid s => return s.overridden (← get)

/-- Store settings. -/
def save (s : Settings) : Action Unit := do
  let path := (← get).settingsFile
  Storage.savePrivately path s.encodeSet
  Action.note (.settingsSaved path)

/-- The home directory of a user; of whoever asks when the name is empty. -/
def homeOf? (w : Workspace) (user : Text) : Option Text :=
  if user.isEmpty then (w.environmentValue? "HOME").or w.host.own else w.host.users.lookup user

/-- Where a path leads whose first name may stand for a home directory. A user's name that
cannot be looked up is refused. -/
def expanded (p : Path) : Action Path := do
  match p.homeOwner? with
  | none => return p
  | some user =>
    match Storage.FileSystem.nameFault? user with
    | some fault => throw (.storage ⟨fault, p, none⟩)
    | none =>
      match (homeOf? (← get) user).bind Path.ofHome? with
      | some directory => return p.expandHome directory
      | none => throw .noHome

/-- Where the history is: in the file that is set, or beside the settings. -/
def historyPath (s : Settings) : Action Path := do
  match s.historyFile.filter fun file => !file.isEmpty with
  | none => return (← get).historyFile
  | some file => expanded (Path.ofText file)

end CommandAdvisor.Settings
