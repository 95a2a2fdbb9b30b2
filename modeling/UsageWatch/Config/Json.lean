import UsageWatch.Config.Settings
import UsageWatch.Json.Fields
import UsageWatch.Json.Printer
import UsageWatch.Json.Reader
/-!
# Configurations in JSON
-/

namespace UsageWatch

def Setting.toJson : Setting → Json
  | .number n => .ofNat n
  | .flag b => .bool b
  | .text s => .ofString s
  | .numbers entries => .ofMembers (entries.map fun (k, n) => (k, .ofNat n))

namespace Json

def settingReader : SettingReader Json where
  counter := counter?
  port j := (j.word? 16).map UInt16.ofNat
  flag := bool?
  text := text?
  entries := entries?

end Json

namespace Config

def toJson (c : Config) : Json := .ofMembers (c.settings.map fun (k, s) => (k, s.toJson))

def ofJson? (j : Json) : Option Config := decode? Json.settingReader j

def renderJson (c : Config) : String := c.toJson.pretty

def parseJson? (s : String) : Option Config := (Json.parse? s).bind ofJson?

end Config

end UsageWatch
