import DebugAdapter.Json.Decode
import DebugAdapter.Json.Relaxed
import DebugAdapter.Path
/-!
# Settings

Where the interpreter is found. The settings file is read again whenever the interpreter is looked
up, so this module works on a file's contents: `none` is a file that cannot be opened, or a
directory, which can be opened but not read.
-/

namespace DebugAdapter

/-- The environment that paths are resolved in. -/
structure Environment where
  /-- The home directory. -/
  home : String
  /-- The directory of configurations, as far as the environment names one. -/
  configHome : Option String := none
  /-- The settings file, as far as the environment names one. -/
  settingsFile : Option String := none
deriving DecidableEq, Repr, Inhabited

/-- The settings. -/
structure Settings where
  interpreterPath : Option String := none
  testFiles : Option String := none
deriving DecidableEq, Repr, Inhabited

/-- Why settings cannot be used. -/
inductive SettingsError where
  | contents
  | parsing
  | decoding
  | opening (path : String)
  | file (cause : SettingsError)
deriving DecidableEq, Repr

/-- How an error is reported, the causes behind their effects. -/
def SettingsError.message : SettingsError → String
  | contents => "reading settings contents"
  | parsing => "parsing jsonc settings"
  | decoding => "deserializing settings"
  | opening path => "opening settings file " ++ path
  | file cause => "loading settings from given path: " ++ cause.message

namespace Settings

/-- The key of the interpreter's path. -/
def interpreterKey : String := "interpreterPath"

/-- Older names of that key. -/
def olderKeys : List String := ["path", "cmdPath"]

/-- A key by its present name. -/
def presentKey (key : String) : String := if olderKeys.contains key then interpreterKey else key

/-- A value whose keys have their present names; two of them may now be equal. -/
def withPresentKeys : Json → Json
  | .object ms => .object (ms.map fun (key, v) => (presentKey key, v))
  | v => v

def decoder : Decoder Settings :=
  Decode.record "Settings" <|
    ((Decode.Fields.pure Settings.mk).optional interpreterKey Decode.string
      |>.optional "testFiles" Decode.string)

/-- The settings of a value. -/
def ofJson (v : Json) : Except SettingsError Settings :=
  (Decode.fromJson decoder (withPresentKeys v)).mapError fun _ => .decoding

/-- The settings of a text; without a value everything has its default. -/
def ofText (s : String) : Except SettingsError Settings :=
  match Json.Relaxed.ofText? s with
  | none => .error .parsing
  | some none => .ok {}
  | some (some v) => ofJson v

/-- The settings in some octets. -/
def ofBytes (bs : Bytes) : Except SettingsError Settings :=
  match Utf8.decode? bs with
  | none => .error .contents
  | some s => ofText s

/-- The settings file without any other choice. -/
def defaultPath (env : Environment) : String :=
  let directory := (env.configHome.filter Path.isAbsolute).getD (Path.join env.home ".config")
  Path.join (Path.join directory "interpreter-dap") "settings.json"

/-- The settings file: a given one, or the environment's, or the default. -/
def path (env : Environment) (given : Option String) : String :=
  (given.or env.settingsFile).getD (defaultPath env)

end Settings

/-- A settings file. -/
structure SettingsFile where
  path : String
  contents : Option Bytes
deriving DecidableEq, Repr, Inhabited

namespace SettingsFile

/-- The settings in the file. -/
def load (file : SettingsFile) : Except SettingsError Settings :=
  match file.contents with
  | none => .error (if Path.leadsUp file.path then .file .contents else .opening file.path)
  | some bs => (Settings.ofBytes bs).mapError .file

/-- A configured path: below the home directory, absolute, or beside the file. -/
def resolve (env : Environment) (file : SettingsFile) (configured : String) : String :=
  match Path.belowHome? configured with
  | some rest => Path.join env.home rest
  | none =>
    if Path.isAbsolute configured then configured
    else
      match Path.parent? file.path with
      | some directory => Path.join directory configured
      | none => configured

/-- The interpreter, if the file names one. -/
def interpreterPath? (env : Environment) (file : SettingsFile) : Option String :=
  match file.load with
  | .ok settings => settings.interpreterPath.map (resolve env file)
  | .error _ => none

end SettingsFile

end DebugAdapter
