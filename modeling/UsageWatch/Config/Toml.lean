import UsageWatch.Config.Settings
import UsageWatch.Toml.Quoted
import UsageWatch.Toml.Section
/-!
# Configurations in TOML

Numbers are read as 64-bit numbers with a sign, so that a number in the upper
half of the unsigned range can be written but not read. Groups of settings
follow the single ones.
-/

namespace UsageWatch

namespace Toml

def word? (bits : Nat) : Toml → Option Nat
  | .integer n => if 0 ≤ n ∧ n.toNat < Nat.pow 2 bits then some n.toNat else none
  | _ => none

/-- A date has parts, but none that a setting could be named for. -/
def entries? : Toml → Option (Entries Toml)
  | .table _ entries => some (.named (entries.map fun (k, v) => (some k, v)))
  | .array items => some (.positional items)
  | .moment => some (.named [])
  | _ => none

def settingReader : SettingReader Toml where
  counter v := (v.word? 64).map UInt64.ofNat
  port v := (v.word? 16).map UInt16.ofNat
  flag
    | .boolean b => some b
    | _ => none
  text
    | .text s => some s
    | _ => none
  entries := entries?

def entryLine (key value : String) : String := key ++ " = " ++ value ++ "\n"

def settingLine (key : String) : Setting → String
  | .number n => entryLine key (toString n)
  | .flag b => entryLine key (if b then "true" else "false")
  | .text s => entryLine key (String.ofList (quoted s.toList))
  | .numbers _ => ""

def groupLines (key : String) : Setting → String
  | .numbers entries =>
    "\n[" ++ key ++ "]\n" ++ String.join (entries.map fun (k, n) => entryLine k (toString n))
  | _ => ""

end Toml

namespace Config

def renderToml (c : Config) : String :=
  String.join (c.settings.map fun (k, s) => Toml.settingLine k s)
    ++ String.join (c.settings.map fun (k, s) => Toml.groupLines k s)

def parseToml? (s : String) : Option Config := do
  let entries ← Toml.parse? s
  decode? Toml.settingReader (.table false entries)

end Config

end UsageWatch
