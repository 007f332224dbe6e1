/-
  CallTracing/Settings/File.lean
  ==============================
  **Settings from a file.**  The file has to be there and to be text before its name is looked at;
  the extension then says which format it is in.  An extension is what follows the last dot of a
  name, if something stands before that dot.
-/
import CallTracing.Json.Document
import CallTracing.Text.Utf8
import CallTracing.Toml.Document
import CallTracing.Yaml.Node

namespace CallTracing

/-- A format for settings. -/
inductive SettingsFormat where
  | toml
  | yaml
  | json
deriving DecidableEq, Repr

namespace SettingsFormat

/-- The extension of a file name. -/
def extension? (name : String) : Option String :=
  match (name.toList.splitOn '.').reverse with
  | last :: before :: rest =>
    if before.isEmpty && rest.isEmpty then none else some (String.ofList last)
  | _ => none

/-- The format that an extension stands for. -/
def ofExtension? : String → Option SettingsFormat
  | "toml" => some .toml
  | "yaml" => some .yaml
  | "yml" => some .yaml
  | "json" => some .json
  | _ => none

/-- The settings that a text of the format describes. -/
def settings? : SettingsFormat → String → Option Settings
  | .toml => Toml.settings?
  | .yaml => Yaml.settings?
  | .json => Json.settings?

end SettingsFormat

namespace Settings

/-- Why a file was not read. -/
def missingFile : SettingsError := .transport "No such file or directory (os error 2)"

/-- Why the bytes of a file are no text. -/
def notText : SettingsError := .transport "stream did not contain valid UTF-8"

/-- Why the name of a file says nothing. -/
def unsupportedFormat : SettingsError :=
  .file "Unsupported file format. Use .toml, .yaml, .yml, or .json"

/-- The settings of a file, given its name and, if it is there, its bytes. -/
def ofFile (name : String) (content : Option (List UInt8)) : Except SettingsError Settings :=
  match content with
  | none => .error missingFile
  | some bytes =>
    match Text.Utf8.decode? bytes with
    | none => .error notText
    | some text =>
      match (SettingsFormat.extension? name).bind SettingsFormat.ofExtension? with
      | none => .error unsupportedFormat
      | some format =>
        match format.settings? text with
        | some settings => .ok settings
        | none => .error .malformed

end Settings

end CallTracing
