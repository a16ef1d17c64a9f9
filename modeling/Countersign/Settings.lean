/-
Module: Countersign.Settings
Purpose: The settings of the service and how they are read from named texts.
Main exports: Settings, Settings.read, EnvironmentFault, Settings.ofEnvironment, Settings.origins,
  Settings.value
-/
import Countersign.Schema.Checked
import Countersign.Text.Blank
import Countersign.Text.Utf8

namespace Countersign

/-- How the service is set up. -/
structure Settings where
  storeAddress : String := "mongodb://localhost:27017"
  storeName : String := "trade_approvals_dev"
  logsPath : Option String := none
  logLevel : String := "INFO"
  corsOrigins : String := "*"
  leaseSeconds : Int := 30
  leaseAttempts : Int := 40
  leasePause : Double := Double.ofDecimal false 5 (-2)
  seedRules : Bool := false
  environment : String := "development"
  debug : Bool := true
deriving DecidableEq, Repr

namespace Settings

/-- A double, or a text that spells one. -/
def number : Reader Double
  | .text s =>
      Reader.whole s <|
        match Numeral.readFieldDouble? s with
        | some x => .accepted x
        | none => .fail .numberText (.text s)
  | v => .fail .notNumber v

/-- The settings that texts give, by their names in small letters. -/
def read (given : Fields) : Checked Settings :=
  let defaults : Settings := {}
  let text (name default : String) := given.optional name default Reader.text
  Settings.mk
    <$> text "mongo_uri" defaults.storeAddress
    <*> text "mongo_db" defaults.storeName
    <*> given.optional "logs_path" none (Reader.nullable Reader.text)
    <*> text "log_level" defaults.logLevel
    <*> text "cors_origins" defaults.corsOrigins
    <*> given.optional "approval_lock_seconds" defaults.leaseSeconds Reader.int
    <*> given.optional "approval_lock_attempts" defaults.leaseAttempts Reader.int
    <*> given.optional "approval_lock_retry_seconds" defaults.leasePause number
    <*> given.optional "seed_default_rules" defaults.seedRules Reader.bool
    <*> text "environment" defaults.environment
    <*> given.optional "debug" defaults.debug Reader.bool

/-! ### The environment -/

/-- Why a name and a text cannot stand in an environment. -/
inductive EnvironmentFault where
  /-- What stands for a text is none. -/
  | notText
  /-- A text holds a half of a pair that stands for no byte. -/
  | notEncodable
  /-- A text holds the character 0, which ends texts there. -/
  | zeroByte
  /-- A name holds an equals sign, which ends names there. -/
  | equalsInName
  /-- A name is empty. -/
  | emptyName
deriving DecidableEq, Repr

/-- What an environment keeps of a text. -/
def environmentText (s : String) : Except EnvironmentFault String :=
  match Text.throughBytes? s with
  | some kept => .ok kept
  | none => .error .notEncodable

/-- What an environment keeps of a name and the text that it is given. -/
def environmentEntry (name : String) : Value → Except EnvironmentFault (String × Value)
  | .text s => do
      let name ← environmentText name
      let s ← environmentText s
      if name.contains '\x00' || s.contains '\x00' then throw .zeroByte
      else if name.contains '=' then throw .equalsInName
      else if name.isEmpty then throw .emptyName
      else return (name, .text s)
  | _ => .error .notText

/-- The settings that an environment gives, in which the case of names does not count. -/
def ofEnvironment (given : Fields) : Except EnvironmentFault (Checked Settings) := do
  let kept ← given.mapM fun (name, v) => environmentEntry name v
  return read (Fields.putAll [] ((Fields.putAll [] kept).map fun (name, v) => (Text.lower name, v)))

/-- The origins that may call the service. -/
def origins (settings : Settings) : List String :=
  (settings.corsOrigins.splitOn ",").map Text.strip

def value (settings : Settings) : Value :=
  .record ([("mongo_uri", .text settings.storeAddress), ("mongo_db", .text settings.storeName)]
    ++ (match settings.logsPath with
      | some path => [("logs_path", .text path)]
      | none => [])
    ++ [("log_level", .text settings.logLevel), ("cors_origins", .text settings.corsOrigins),
      ("approval_lock_seconds", .int settings.leaseSeconds),
      ("approval_lock_attempts", .int settings.leaseAttempts),
      ("approval_lock_retry_seconds", .float settings.leasePause),
      ("seed_default_rules", .bool settings.seedRules),
      ("environment", .text settings.environment), ("debug", .bool settings.debug)])

end Settings

end Countersign
