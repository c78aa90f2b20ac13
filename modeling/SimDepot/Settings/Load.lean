import SimDepot.Files.Tree
import SimDepot.Settings.Decode
import SimDepot.Toml.Text

/-!
# Loading settings

Settings are read from a TOML file, which an environment variable may name, and accepted only when
they are valid.

Reference: `load_settings`, `load_default_settings`.
-/

namespace SimDepot.Settings

/-- The file that is read where no other is named. -/
def defaultPath : String := "config.toml"

/-- The settings that a text describes, as the file `path` holds it. -/
def parse (path text : String) : Except SettingsFlaw Settings :=
  match Toml.read? text with
  | none => .error (.unparsable path .malformed)
  | some d => (decode d).mapError (.unparsable path)

/-- The valid settings in a file. -/
def load (files : FileTree) (path : String) : Except SettingsFlaw Settings := do
  let text ← (files.readText path).mapError (.unreadable path)
  let settings ← parse path text
  settings.validate
  return settings

/-- The valid settings in the file that the environment names, if it names one. -/
def loadDefault (files : FileTree) (environment : Option String) : Except SettingsFlaw Settings :=
  load files (environment.getD defaultPath)

end SimDepot.Settings
