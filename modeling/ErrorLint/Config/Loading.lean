/-
This file finds the configuration of a project: that of its configuration file, or the
recommended one if there is no such file. A setting from outside may replace the preset
or take it away.
-/

import ErrorLint.Config.Toml

namespace ErrorLint.Config

variable (library : TomlLibrary)

/-- The name of the configuration file in the root of a project. -/
def fileName : String := "throwlint.toml"

/-- Reads a file with the given bytes, without checking what it says. A file that is
missing or is no text is not found. -/
def ofFile (path : String) (content : Option ByteArray) : Except ConfigError Config :=
  match content.bind String.fromUTF8? with
  | some text => parse library path text
  | none => .error (.fileNotFound path)

/-- Replaces the preset by the one that a setting names, or takes it away. A setting
that names no preset is ignored. -/
def override (config : Config) (setting : String) : Config :=
  if Preset.normalize setting = "none" then { config with preset := none }
  else
    match Preset.ofText setting with
    | .ok preset => { config with preset := some preset }
    | .error _ => config

/-- The configuration of the project at a root, given the bytes of its configuration
file and the setting from outside. -/
def load (root : String) (content : Option ByteArray) (setting : Option String) :
    Except ConfigError Config := do
  let config ←
    match content with
    | some _ => ofFile library (root ++ "/" ++ fileName) content
    | none => .ok recommended
  let config := (setting.map config.override).getD config
  config.validate
  return config

end ErrorLint.Config
