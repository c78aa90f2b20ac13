import SimDepot.Directory.Basic
import SimDepot.Document.Basic
import SimDepot.Files.Failure

/-!
# Flaws of settings

Why settings were not accepted: their file cannot be read, its text does not describe settings, or
the settings contradict themselves.
-/

namespace SimDepot

/-- How messages call a service of a role. -/
def Role.title : Role → String
  | registry => "registry"
  | vendor => "profile vendor"

/-- Why settings are not accepted. -/
inductive SettingsFlaw
  /-- The file cannot be read. -/
  | unreadable (path : String) (failure : FileFailure)
  /-- The text of the file does not describe settings. -/
  | unparsable (path : String) (fault : Fault)
  /-- Two services of one role have the same name. -/
  | duplicateName (role : Role)
  /-- A permission names a registry that is not listed. -/
  | unknownRegistry (vendor registry : String)
  /-- A permission names a vendor that is not listed. -/
  | unknownVendor (registry vendor : String)
  /-- Reconciliation would run without pause. -/
  | zeroInterval
  /-- A flaw known by its text only. -/
  | stated (text : String)
  deriving DecidableEq, Repr

namespace SettingsFlaw

/-- What is told of a fault in the text of a settings file: a field that is missing, a value of the
wrong type and a value out of range are named, anything else is not. -/
def detail : Fault → String
  | .missingField name => ": " ++ (Fault.missingField name).message
  | .invalidType found wanted => ": " ++ (Fault.invalidType found wanted).message
  | .invalidValue found wanted => ": " ++ (Fault.invalidValue found wanted).message
  | _ => ""

/-- The text of a flaw. -/
def message : SettingsFlaw → String
  | unreadable path failure => "Failed to read config file " ++ path ++ ": " ++ failure.message
  | unparsable path fault => "Failed to parse " ++ path ++ detail fault
  | duplicateName role => "Duplicate " ++ role.title ++ " name in config"
  | unknownRegistry vendor registry =>
    "Permission for vendor '" ++ vendor ++ "' names unknown registry '" ++ registry ++ "'"
  | unknownVendor registry vendor =>
    "Permission for registry '" ++ registry ++ "' names unknown vendor '" ++ vendor ++ "'"
  | zeroInterval => "reconciliation.interval_secs must be positive"
  | stated text => text

end SettingsFlaw

end SimDepot
