import SimDepot.Flow.Action

/-!
# Looking up SIMs

SIMs are found by identity, by card number, and, where several may match, as the one with the
smallest identity.

Reference: `get_by_id`, `get_by_iccid`, `get_by_imsi`, `get_by_msisdn`, `find_next_unprovisioned`,
`find_pending_activation`.
-/

namespace SimDepot.Stock

open SimDepot.Action

/-- The first SIM that satisfies a question, or the error that tells what is missing. -/
def find (q : SimQuery) (missing : Missing) : Action Sim := do
  expect (← read (.sim q)) (.notFound missing)

/-- The SIM with an identity. -/
def withId (id : SimId) : Action Sim := find (.withId id) (.simWithId id)

/-- The SIM with a card number. -/
def withIccid (iccid : String) : Action Sim := find (.withIccid iccid) (.simWithIccid iccid)

/-- The first SIM with a subscriber identity. -/
def withImsi (imsi : String) : Action Sim := find (.withImsi imsi) (.simWithImsi imsi)

/-- The first SIM with a subscriber number. -/
def withMsisdn (msisdn : String) : Action Sim := find (.withMsisdn msisdn) (.simWithMsisdn msisdn)

/-- The next raw SIM of a pool. It is only looked at. -/
def nextRaw (pool : Pool) : Action Sim := find (.raw pool) (.rawSim pool)

/-- The pending SIMs of a registry, in the order of identities. -/
def pending (registry : RegistryId) : Action (List Sim) := read (.pendingSims registry)

end SimDepot.Stock
