import Flowline.Run.Settings

/-!
Settings of the built-in nodes and of the program as a whole. Whatever is left out keeps its
default.
-/

namespace Flowline

open Json.Decoder (string natural float)

/-- `userAgent` is sent with every request; the timeouts are in seconds. -/
structure HttpDefaults where
  timeoutSecs : Nat := 30
  connectTimeoutSecs : Nat := 10
  userAgent : String := "FlowDrop/0.1.0"
deriving DecidableEq

namespace HttpDefaults

def toJson (defaults : HttpDefaults) : Json :=
  Json.ofFields [
    ("timeout_secs", Json.ofNat defaults.timeoutSecs),
    ("connect_timeout_secs", Json.ofNat defaults.connectTimeoutSecs),
    ("user_agent", .string defaults.userAgent)]

def decoder : Json.Decoder HttpDefaults :=
  Json.Record.make HttpDefaults.mk
    |>.field "timeout_secs" (natural UInt64.size "u64") (.default 30)
    |>.field "connect_timeout_secs" (natural UInt64.size "u64") (.default 10)
    |>.field "user_agent" string (.default "FlowDrop/0.1.0")
    |>.decoder "HttpDefaults"

end HttpDefaults

structure ChatDefaults where
  model : String := "flowdrop-echo"
  temperature : Float := (Decimal.mk false 7 (-1)).toFloat
deriving DecidableEq

namespace ChatDefaults

def toJson (defaults : ChatDefaults) : Json :=
  Json.ofFields [
    ("model", .string defaults.model), ("temperature", Json.ofFloat defaults.temperature)]

def decoder : Json.Decoder ChatDefaults :=
  let fallback : ChatDefaults := {}
  Json.Record.make ChatDefaults.mk
    |>.field "model" string (.default fallback.model)
    |>.field "temperature" float (.default fallback.temperature)
    |>.decoder "ChatModelDefaults"

end ChatDefaults

structure NodeSettings where
  http : HttpDefaults := {}
  chat : ChatDefaults := {}
deriving DecidableEq

namespace NodeSettings

def toJson (settings : NodeSettings) : Json :=
  Json.ofFields [("http", settings.http.toJson), ("chat_model", settings.chat.toJson)]

def decoder : Json.Decoder NodeSettings :=
  Json.Record.make NodeSettings.mk
    |>.field "http" HttpDefaults.decoder (.default {})
    |>.field "chat_model" ChatDefaults.decoder (.default {})
    |>.decoder "NodesConfig"

end NodeSettings

structure Settings where
  run : RunSettings := {}
  nodes : NodeSettings := {}
deriving DecidableEq

namespace Settings

def toJson (settings : Settings) : Json :=
  Json.ofFields [("orchestrator", settings.run.toJson), ("nodes", settings.nodes.toJson)]

def decoder : Json.Decoder Settings :=
  Json.Record.make Settings.mk
    |>.field "orchestrator" RunSettings.decoder (.default {})
    |>.field "nodes" NodeSettings.decoder (.default {})
    |>.decoder "AppConfig"

end Settings

end Flowline
