import FunctionHost.Files
import FunctionHost.Settings.File
import FunctionHost.Text.Utf8
import FunctionHost.Toml.Reader
import FunctionHost.Toml.Shape
/-!
# Reading settings files

From the text of a settings file, or from the path of one, to validated settings.
-/
namespace FunctionHost
namespace SettingsFile

/-- The refusal of a text that is no configuration text at all. -/
def notConfiguration : String := "not a configuration text"

/-- **The settings that a text holds**, validated. -/
def ofText (text : String) : Except SettingsError SettingsFile :=
  match Toml.parse? text with
  | none => .error (.malformed notConfiguration)
  | some members =>
    match Toml.conform shape (.table .headed members) with
    | .error reason => .error (.malformed reason)
    | .ok document =>
      let f := ofDocument document
      f.validate.map fun _ => f

/-- The settings that a file holds, validated. -/
def ofFile (files : Files) (path : String) : Except SettingsError SettingsFile :=
  match files path with
  | .error fault => .error (.unreadable path fault.message)
  | .ok bytes =>
    match Utf8.decode? bytes with
    | none => .error (.unreadable path ReadFault.notText.message)
    | some text => ofText text

end SettingsFile
end FunctionHost
