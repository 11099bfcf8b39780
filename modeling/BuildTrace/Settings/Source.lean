import BuildTrace.Path.Fold
import BuildTrace.Settings.Reading
import BuildTrace.Toml.Document

/-!
# Source — where settings come from

Defaults come first, then one file, then the environment.

* `Settings.ofTomlText` — the settings in a text;
* `FileFormat`, `findSettingsFile` — the file that a name means, and its format;
* `environmentLayer` — what the environment sets;
* `Settings.load` — the settings of a session.
-/

namespace BuildTrace

/-- The formats of settings files. -/
inductive FileFormat where
  | toml
  | json
deriving DecidableEq, Repr

namespace FileFormat

/-- The format of files with an extension. -/
def ofExtension? (extension : String) : Option FileFormat :=
  if extension = "toml" then some .toml
  else if extension = "json" then some .json
  else none

/-- How deep arrays and objects of a JSON file may be inside one another. -/
def jsonDepth : Nat := 127

/-- The layer of a file in this format. -/
def layer? (format : FileFormat) (origin : Option String) (text : String) :
    Option (List (String × Raw)) :=
  match format with
  | .toml => (Toml.parse? text).map (Raw.ofTomlEntries origin)
  | .json =>
    match (Json.parse? text).bind (Raw.ofJson? origin jsonDepth) with
    | some (.table _ entries) => some entries
    | _ => none

end FileFormat

/-- The settings that layers give, the first one below all others. -/
def Settings.ofLayers (layers : List (List (String × Raw))) : Except SettingsError Settings :=
  Settings.ofRaw (.table none (layers.foldl (fun old new => Raw.layer new old) []))

/-- The settings in a text. -/
def Settings.ofTomlText (text : String) : Except SettingsError Settings :=
  match FileFormat.toml.layer? none text with
  | none => .error .badSyntax
  | some entries => Settings.ofLayers [entries]

/-! ## Files -/

/-- The file that a name means: the file of this name, or the one with an extension added that
belongs to a format. -/
def findSettingsFile (fs : FileSystem) (name : Path) : Except SettingsError (Path × FileFormat) :=
  let full := fs.cwd.toPath.join name
  if fs.isFile full then
    match full.extension?.bind FileFormat.ofExtension? with
    | some format => .ok (full, format)
    | none => .error (.unknownFormat full.spelling)
  else
    let candidates := [("toml", FileFormat.toml), ("json", FileFormat.json)].filterMap
      fun (extension, format) => (full.withSuffix? ("." ++ extension)).map fun p => (p, format)
    match candidates.find? fun (p, _) => fs.isFile p with
    | some found => .ok found
    | none => .error (.noFile name.spelling)

/-- A settings file as it is found: where it is, its format, and its text. -/
structure SettingsFile where
  path : Path
  format : FileFormat
  text : String
deriving DecidableEq, Repr

namespace SettingsFile

/-- The file that a name means, with its text. -/
def read (fs : FileSystem) (name : Path) : Except SettingsError SettingsFile := do
  let (path, format) ← findSettingsFile fs name
  match fs.readFile path with
  | .error cause => .error (.unreadable cause)
  | .ok data =>
    match Text.decode? data with
    | some cs => .ok { path := path, format := format, text := String.ofList cs }
    | none => .error .notText

/-- The layer of a file. It comes from the file as seen from the working directory. -/
def layer (fs : FileSystem) (f : SettingsFile) : Except SettingsError (List (String × Raw)) :=
  match f.format.layer? (some (f.path.relativeTo fs.cwd.toPath).spelling) f.text with
  | some entries => .ok entries
  | none => .error .badSyntax

end SettingsFile

/-! ## The environment -/

/-- The variables of a process. -/
abbrev Environment := List (String × String)

/-- What the names of variables that set something begin with. -/
def variableLead : String := "buildlore__"

/-- The settings that are lists, with commas between the items. -/
def listSettings : List String :=
  ["extra_flags", "make.fixed_args", "precompile.system_includes"]

/-- The text with a dot in the place of every two underscores. -/
def dotted : List Char → List Char
  | '_' :: '_' :: cs => '.' :: dotted cs
  | c :: cs => c :: dotted cs
  | [] => []

/-- The name of the setting that a variable sets, if it sets one. -/
def settingName? (v : String) : Option String :=
  let lead := v.toList.take variableLead.length
  if lead.map Char.toLower = variableLead.toList then
    some (Text.lower (String.ofList (dotted (v.toList.drop variableLead.length))))
  else none

/-- The parts of a text between commas. -/
def commaParts : List Char → List (List Char)
  | [] => [[]]
  | c :: cs =>
    if c = ',' then [] :: commaParts cs
    else
      match commaParts cs with
      | [] => [[c]]
      | s :: ss => (c :: s) :: ss

/-- Where the settings of the environment are said to come from. -/
def environmentOrigin : String := "the environment"

/-- The setting that the value of a variable stands for. -/
def variableSetting (name value : String) : Raw :=
  let origin := some environmentOrigin
  let word := Text.lower value
  if word = "true" then .scalar origin (.boolean true)
  else if word = "false" then .scalar origin (.boolean false)
  else
    match Number.int? 64 value.toList, Binary64.ofText? value.toList with
    | some n, _ => .scalar origin (.integer n)
    | none, some x => .scalar origin (.float x)
    | none, none =>
      if listSettings.contains name then
        .array origin ((commaParts value.toList).map fun part =>
          .scalar origin (.text (String.ofList part)))
      else .scalar origin (.text value)

/-- What the environment sets. -/
def environmentLayer (env : Environment) : List (String × Raw) :=
  env.filterMap fun (v, value) =>
    (settingName? v).map fun name => (name, variableSetting name value)

/-- The home directory of a user whose environment names none: the system knows it. -/
def systemHome : String := "/root"

/-- The directory of the user's settings files. -/
def settingsDirectory (env : Environment) : Path :=
  match (env.lookup "XDG_CONFIG_HOME").filter fun dir => Path.isAbsolute ⟨dir⟩ with
  | some dir => ⟨dir⟩
  | none =>
    let home := ((env.lookup "HOME").filter fun home => !home.isEmpty).getD systemHome
    Path.join ⟨home⟩ ⟨".config"⟩

/-- The settings file of the user. -/
def defaultFile (env : Environment) : Path :=
  ((settingsDirectory env).join ⟨"buildlore"⟩).join ⟨"buildlore.toml"⟩

/-! ## All sources -/

/-- The layer of the named file, or of the user's own, which may be missing or unreadable. -/
def chosenLayer (fs : FileSystem) (env : Environment) (file : Option Path) :
    Except SettingsError (List (String × Raw)) :=
  match file with
  | some name => do (← SettingsFile.read fs name).layer fs
  | none =>
    match SettingsFile.read fs (defaultFile env) with
    | .ok f => f.layer fs
    | .error _ => .ok []

/-- The settings of a session. -/
def Settings.load (fs : FileSystem) (env : Environment) (file : Option Path) :
    Except SettingsError Settings := do
  let entries ← chosenLayer fs env file
  Settings.ofLayers [entries, environmentLayer env]

end BuildTrace
