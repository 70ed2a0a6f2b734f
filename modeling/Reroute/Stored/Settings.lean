import Reroute.Settings
import Reroute.Stored.Basic

/-!
Stored settings. Fields that are not there have their defaults.
-/

namespace Reroute

namespace Options

def toStored (options : Options) : Stored := .ofFields [("max_passes", .whole options.maxPasses)]

def ofStored? (s : Stored) : Option Options := do
  let field ← s.fields? ["max_passes"] true
  let default : Options := {}
  return { maxPasses := ← Stored.orDefault Stored.count? default.maxPasses (field "max_passes") }

end Options

namespace Settings

def toStored (settings : Settings) : Stored := .ofFields [
  ("enabled", .bool settings.enabled), ("rules", .text settings.rules),
  ("options", settings.options.toStored)]

def ofStored? (s : Stored) : Option Settings := do
  let field ← s.fields? ["enabled", "rules", "options"] true
  let default : Settings := {}
  return {
    enabled := ← Stored.orDefault Stored.bool? default.enabled (field "enabled")
    rules := ← Stored.orDefault Stored.text? default.rules (field "rules")
    options := ← Stored.orDefault Options.ofStored? default.options (field "options") }

end Settings

end Reroute
