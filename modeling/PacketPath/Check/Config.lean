set_option autoImplicit false

/-! # Checker options

Three switches, set by keyword. Setting an unknown keyword fails and changes nothing; a list of
settings is applied from the default options on, in order, up to the first failure.
-/

namespace PacketPath

/-- The options of a checker. -/
structure CheckConfig where
  /-- Log every dropped packet, not only the first. -/
  verbose : Bool := false
  /-- Count the drops per reason. -/
  details : Bool := false
  /-- Verify the transport checksum. -/
  checksum : Bool := true
deriving DecidableEq, Inhabited

/-- Why a setting is refused. -/
inductive ConfigError
  | unknownOption (keyword : String)
deriving DecidableEq

def ConfigError.message : ConfigError → String
  | .unknownOption keyword => "unknown option: " ++ keyword

namespace CheckConfig

/-- The keywords, in the order in which the options are written out. -/
def keywords : List String := ["VERBOSE", "DETAILS", "CHECKSUM"]

/-- Sets the option that a keyword names. -/
def set (config : CheckConfig) (keyword : String) (value : Bool) :
    Except ConfigError CheckConfig :=
  if keyword = "VERBOSE" then .ok { config with verbose := value }
  else if keyword = "DETAILS" then .ok { config with details := value }
  else if keyword = "CHECKSUM" then .ok { config with checksum := value }
  else .error (.unknownOption keyword)

/-- Applies settings in order. -/
def setAll (config : CheckConfig) : List (String × Bool) → Except ConfigError CheckConfig
  | [] => .ok config
  | (keyword, value) :: rest =>
    match config.set keyword value with
    | .ok config => config.setAll rest
    | .error e => .error e

/-- The options that a list of settings gives. -/
def ofKeywords (settings : List (String × Bool)) : Except ConfigError CheckConfig :=
  setAll {} settings

end CheckConfig

end PacketPath
