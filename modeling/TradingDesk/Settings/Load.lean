import TradingDesk.Settings.EnvFile
import TradingDesk.Settings.File

/-! Loading settings: a file, then the environment, which has the last word. -/

namespace TradingDesk
namespace Settings

/-- The environment's variables take the place of what the file says. A blank token counts as none. -/
def withEnvironment (environment : Table String) (s : Settings) : Settings :=
  { s with
    api := { s.api with
      baseUrl := (environment.get? "DESK_API_URL").getD s.api.baseUrl
      wsUrl := (environment.get? "DESK_WS_URL").getD s.api.wsUrl }
    app := { s.app with logLevel := (environment.get? "LOG_LEVEL").getD s.app.logLevel }
    token := (environment.get? "DESK_API_TOKEN").filter fun t => !Text.isBlankText t }

def load (file : Option String) (environment : Table String) : Except SettingsError Settings := do
  let written ← match file with
    | some text => ofText text
    | none => .ok {}
  let s := written.withEnvironment environment
  s.validate
  return s

end Settings
end TradingDesk
