import SimDepot.Text.Worded

/-!
# The three axes of a SIM

A SIM moves along three axes that do not determine each other: what its registry knows, whether its
vendor has released a profile, and whether it has been handed to a consumer.
-/

namespace SimDepot

/-- What the subscriber registry knows of a SIM. -/
inductive RegistryState
  /-- The registry does not treat the SIM as live. -/
  | notActivated
  /-- The registry has been told that the SIM is live. -/
  | activated
  deriving DecidableEq, Repr

/-- Whether the vendor has released a usable profile. -/
inductive VendorState
  /-- Raw stock. -/
  | available
  /-- A profile was released and its matching id is known. -/
  | released
  deriving DecidableEq, Repr

/-- Whether a SIM has been handed to a consumer. -/
inductive ProvisionState
  /-- Nobody has claimed the SIM. -/
  | available
  /-- One allocation has claimed the SIM. -/
  | provisioned
  deriving DecidableEq, Repr

namespace RegistryState

/-- The word for a registry state. -/
def word : RegistryState → String
  | notActivated => "NOT_ACTIVATED"
  | activated => "ACTIVATED"

instance : Worded RegistryState := ⟨word, [notActivated, activated], "RegistryState"⟩

theorem ofWord?_word (s : RegistryState) : Worded.ofWord? s.word = some s := by
  cases s <;> decide

end RegistryState

namespace VendorState

/-- The word for a vendor state. -/
def word : VendorState → String
  | available => "AVAILABLE"
  | released => "RELEASED"

instance : Worded VendorState := ⟨word, [available, released], "VendorState"⟩

theorem ofWord?_word (s : VendorState) : Worded.ofWord? s.word = some s := by
  cases s <;> decide

end VendorState

namespace ProvisionState

/-- The word for a provision state. -/
def word : ProvisionState → String
  | available => "AVAILABLE"
  | provisioned => "PROVISIONED"

instance : Worded ProvisionState := ⟨word, [available, provisioned], "ProvisionState"⟩

theorem ofWord?_word (s : ProvisionState) : Worded.ofWord? s.word = some s := by
  cases s <;> decide

end ProvisionState

end SimDepot
