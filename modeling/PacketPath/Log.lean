set_option autoImplicit false

/-! # Logging

Messages have a level. A provider decides where a message goes: it is printed as a line, forwarded
under the name of a severity, recorded, or dropped.
-/

namespace PacketPath

inductive LogLevel
  | note
  | warn
  | error
deriving DecidableEq, Inhabited

namespace LogLevel

/-- The tag in front of a printed message. -/
def tag : LogLevel → String
  | note => "[NOTE]"
  | warn => "[WARN]"
  | error => "[ERROR]"

/-- The severity under which a message is forwarded. -/
def severity : LogLevel → String
  | note => "INFO"
  | warn => "WARNING"
  | error => "ERROR"

end LogLevel

/-- One logged message. -/
structure LogRecord where
  level : LogLevel
  text : String
deriving DecidableEq, Inhabited

/-- Where messages go. -/
inductive LogProvider
  | printing
  | forwarding
  | recording
  | silent
deriving DecidableEq

/-- What has been logged so far, by destination. -/
structure LogOutput where
  printed : String := ""
  forwarded : List (String × String) := []
  recorded : List LogRecord := []
deriving DecidableEq

/-- Logs one message through a provider. -/
def LogOutput.log (out : LogOutput) (provider : LogProvider) (message : LogRecord) : LogOutput :=
  match provider with
  | .printing =>
    { out with printed := out.printed ++ message.level.tag ++ " " ++ message.text ++ "\n" }
  | .forwarding =>
    { out with forwarded := out.forwarded ++ [(message.level.severity, message.text)] }
  | .recording => { out with recorded := out.recorded ++ [message] }
  | .silent => out

/-- What a list of messages leaves behind. -/
def LogProvider.logAll (provider : LogProvider) (messages : List LogRecord) : LogOutput :=
  messages.foldl (fun out message => out.log provider message) {}

end PacketPath
