import FeatureFlags.Config.Decode
import FeatureFlags.Yaml.Value.Load

/-!
# Configuration files

A configuration file is one YAML document. Its values are found by dot paths
(`flagsmith.cache.cache_ttl_secs`): each part names a key of a mapping, and no part may
be empty. The client settings are read from a section of the file, or from the whole
document, and then validated.
-/

namespace FeatureFlags

open Yaml

/-- A loaded configuration file. -/
structure ConfigFile where
  value : YamlValue
  deriving Inhabited

namespace ConfigFile

/-- Loads a configuration file from its text. -/
def load (text : String) : Except ConfigError ConfigFile :=
  match YamlValue.load text with
  | .ok value => .ok ⟨value⟩
  | .error e => .error (.yamlParse e.message)

/-- The keys of a dot path: the texts between its dots, empty ones included. -/
def segments (path : String) : List String :=
  (path.toList.splitOn '.').map String.ofList

/-- The value at the end of some keys. -/
def lookupPath : YamlValue → List String → Option YamlValue
  | _, [] => none
  | v, key :: rest =>
    if key.isEmpty then none
    else
      match v with
      | .mapping _ =>
        match v.get? key, rest with
        | some found, [] => some found
        | some found, _ => lookupPath found rest
        | none, _ => none
      | _ => none

/-- The value at a dot path. -/
def lookup (f : ConfigFile) (path : String) : Option YamlValue :=
  lookupPath f.value (segments path)

end ConfigFile

namespace ClientSettings

/-- Settings read from a YAML value, not yet validated. -/
def ofValue (v : YamlValue) : Except ConfigError ClientSettings :=
  match ClientSettings.ofYaml v with
  | .ok c => .ok c
  | .error m => .error (.yamlParse m)

/-- Settings read from a YAML value and validated. -/
def fromValue (v : YamlValue) : Except ConfigError ClientSettings := do
  let c ← ofValue v
  c.validate
  pure c

/-- Settings read from a section of a configuration file's text and validated. -/
def loadSection (text path : String) : Except ConfigError ClientSettings := do
  let file ← ConfigFile.load text
  match file.lookup path with
  | some v => fromValue v
  | none => throw (.missingSection path)

end ClientSettings

end FeatureFlags
