import SimDepot.Proofs.Lifecycle.Operation
import SimDepot.Proofs.Session.Turn

/-!
# Which services operations call

Four requests go to external services. Operations that hand SIMs out tell a registry that a SIM is
live, a suspension tells it that one is not, a pass asks vendors for releases, and an inquiry about
health asks registries how they are. No operation makes a call of another kind, whatever its
requests are answered, and all other operations make no calls at all: `Operation.asks_action`.

Everything else an operation asks is for the store and the clock. The lemmas before it go through
the parts of operations once, for any `Q` that holds of every request which is no call.
-/

namespace SimDepot

/-- The request goes to a service. -/
def Request.isCall : Request → Bool
  | activate .. | suspend .. | release .. | probe _ => true
  | _ => false

/-- The calls that an operation can make. -/
def Operation.calls : Operation → Request → Bool
  | allocate .., .activate .. | activate .., .activate .. => true
  | suspend _, .suspend .. | reconcile _, .release .. | inquire .health, .probe _ => true
  | _, _ => false

open SimDepot.Action

variable {Q : Request → Prop} {bindings : Bindings}

/-- A claim reads, claims and waits. -/
theorem Stock.asks_claim {pool : Pool} (hQ : ∀ r, r.isCall = false →
    (∀ c, r = .write c → ∃ id, c = .changeSim id .claim) → Q r) : Asks Q (Stock.claim pool) := by
  have hplain : ∀ r : Request, r.isCall = false → r.isWrite = false → Q r := by
    intro r hcall hwrite
    refine hQ r hcall fun c hc => ?_
    rw [hc] at hwrite
    cases hwrite
  have hclaim : ∀ id, Q (.write (.changeSim id .claim)) := fun id =>
    hQ _ rfl fun c hc => ⟨id, (Request.write.inj hc).symm⟩
  have htry : Asks Q (tryClaim pool) := by
    refine asks_inTransaction (hplain _ rfl rfl) (hplain _ rfl rfl)
      (asks_bind (asks_read (hplain _ rfl rfl)) fun found => ?_)
    have hback : ∀ ended : ClaimAttempt, Asks Q (do rollback; return ended) := fun _ =>
      asks_bind (asks_rollback (hplain _ rfl rfl)) fun _ => asks_pure
    cases found with
    | none => exact hback _
    | some c =>
      refine asks_bind (asks_write (hclaim c.id)) fun n => asks_ite (hback _) ?_
      exact asks_bind (asks_bind (asks_read (hplain _ rfl rfl)) fun _ => asks_expect) fun _ =>
        asks_bind (asks_commit (hplain _ rfl rfl)) fun _ => asks_pure
  have hwithin : ∀ left number, Asks Q (claimWithin pool number left) := by
    intro left
    induction left with
    | zero => exact fun _ => asks_throw
    | succ left ih =>
      intro number
      refine asks_bind (asks_attempt htry) fun res => ?_
      match res with
      | .ok (.claimed sim) => exact asks_pure
      | .ok .nothingReady => exact asks_throw
      | .ok .lost => exact ih _
      | .error e =>
        cases e with
        | store failure =>
          exact asks_ite (asks_bind (asks_pause (hplain _ rfl rfl)) fun _ => ih _) asks_throw
        | _ => exact asks_throw
  exact hwithin _ _

theorem Service.asks_health (hprobe : ∀ registry, Q (.probe registry)) :
    (health bindings).Asks Q := by
  have hall : ∀ services, (probeAll services).Asks Q := by
    intro services
    induction services with
    | nil => trivial
    | cons service rest ih =>
      exact Flow.Asks.bind (Flow.asks_request (hprobe _)) fun _ =>
        Flow.Asks.bind ih fun _ => trivial
  exact hall _

section Parts

variable (hQ : ∀ r : Request, r.isCall = false → Q r)

include hQ

namespace Directory

theorem asks_withId {role : Role} {id : Int} : Asks Q (withId role id) :=
  asks_bind (asks_read (hQ _ rfl)) fun _ => asks_expect

theorem asks_named {role : Role} {name : String} : Asks Q (named role name) :=
  asks_bind (asks_read (hQ _ rfl)) fun _ => asks_expect

theorem asks_checkPermission {vendor : VendorId} {registry : RegistryId} :
    Asks Q (checkPermission vendor registry) :=
  asks_bind (asks_read (hQ _ rfl)) fun _ => asks_bind asks_expect fun _ => asks_pure

theorem asks_add {role : Role} {name : String} : Asks Q (add role name) :=
  asks_ite asks_throw (asks_insert (hQ _ rfl) fun _ => asks_read (hQ _ rfl))

theorem asks_ensure {role : Role} {name : String} : Asks Q (ensure role name) := by
  refine asks_tryCatch (asks_add hQ) fun e => ?_
  cases e with
  | alreadyExists _ => exact asks_named hQ
  | _ => exact asks_throw

theorem asks_permit {vendor : VendorId} {registry : RegistryId} :
    Asks Q (permit vendor registry) :=
  asks_bind (asks_withId hQ) fun _ => asks_bind (asks_withId hQ) fun _ =>
    asks_insert (hQ _ rfl) fun _ => asks_read (hQ _ rfl)

end Directory

namespace Batch

theorem asks_withId {id : BatchId} : Asks Q (withId id) :=
  asks_bind (asks_read (hQ _ rfl)) fun _ => asks_expect

theorem asks_start {importer : String} {registry : RegistryId} {vendor : VendorId} :
    Asks Q (start importer registry vendor) :=
  asks_bind (asks_now (hQ _ rfl)) fun _ => asks_insert (hQ _ rfl) fun _ => asks_read (hQ _ rfl)

theorem asks_close {id : BatchId} {size : Nat} {status : BatchStatus} :
    Asks Q (close id size status) :=
  asks_ite asks_throw (asks_ite asks_throw (asks_bind (asks_now (hQ _ rfl)) fun _ =>
    asks_bind (asks_write (hQ _ rfl)) fun _ => asks_bind (asks_withId hQ) fun _ =>
      asks_ite asks_throw asks_pure))

end Batch

namespace Stock

theorem asks_find {q : SimQuery} {missing : Missing} : Asks Q (find q missing) :=
  asks_bind (asks_read (hQ _ rfl)) fun _ => asks_expect

theorem asks_update {id : SimId} {change : SimChange} : Asks Q (update id change) :=
  asks_bind (asks_write (hQ _ rfl)) fun _ => asks_bind (asks_read (hQ _ rfl)) fun _ =>
    asks_bind asks_expect fun _ => asks_ite asks_throw asks_pure

theorem asks_markSuspended {id : SimId} : Asks Q (markSuspended id) :=
  asks_bind (asks_now (hQ _ rfl)) fun _ => asks_update hQ

theorem asks_insertAll {drafts : List SimDraft} : Asks Q (insertAll drafts) :=
  asks_ite asks_pure (asks_inTransaction (hQ _ rfl) (hQ _ rfl)
    (asks_bind (asks_forM fun _ => asks_writeOr (hQ _ rfl)) fun _ =>
      asks_bind (asks_commit (hQ _ rfl)) fun _ => asks_pure))

end Stock

namespace Feed

theorem asks_importAll {records : List FeedRecord} {registry : RegistryId} {vendor : VendorId}
    {importer : String} : Asks Q (importAll records registry vendor importer) := by
  have hstore : ∀ batch, Asks Q (store records registry vendor batch) := by
    intro batch
    unfold store
    split
    · exact asks_throw
    · exact Stock.asks_insertAll hQ
  refine asks_bind (Directory.asks_withId hQ) fun _ => asks_bind (Directory.asks_withId hQ) fun _ =>
    asks_bind (Directory.asks_checkPermission hQ) fun _ => asks_bind (Batch.asks_start hQ)
      fun batch => asks_bind (asks_attempt (hstore batch.id)) fun res => ?_
  cases res with
  | ok size => exact Batch.asks_close hQ
  | error e => exact asks_bind (asks_attempt (Batch.asks_close hQ)) fun _ => asks_throw

end Feed

namespace Reconcile

theorem asks_record {id : SimId} {release : Release} : Asks Q (record id release) := by
  refine asks_bind (asks_attempt (Stock.asks_update hQ)) fun res => ?_
  match res with
  | .ok _ =>
    dsimp only
    split
    · exact asks_pure
    · exact asks_bind (asks_attempt (Stock.asks_update hQ)) fun _ => asks_pure
  | .error e =>
    cases e with
    | notUpdated _ => exact asks_pure
    | _ => exact asks_throw

variable (hrelease : ∀ vendor sim, Q (.release vendor sim))

include hrelease

theorem asks_releaseNext {pool : Pool} : Asks Q (releaseNext bindings pool) := by
  refine asks_bind (asks_attempt (Stock.asks_find hQ)) fun res => ?_
  match res with
  | .ok sim =>
    exact asks_bind asks_expect fun _ =>
      asks_bind (Flow.asks_request (hrelease sim.vendorId sim)) fun _ => asks_record hQ
  | .error e =>
    cases e with
    | notFound _ => exact asks_pure
    | _ => exact asks_throw

theorem asks_topUp {budget : Nat} {report : PoolReport} :
    (topUp bindings report budget).Asks Q := by
  induction budget generalizing report with
  | zero => trivial
  | succ budget ih =>
    refine Flow.Asks.bind (asks_releaseNext hQ hrelease) fun res => ?_
    match res with
    | .ok .released => exact ih
    | .ok .alreadyReleased => exact ih
    | .ok .exhausted => trivial
    | .error e => trivial

theorem asks_pool {tuning : Tuning} {pool : Pool} :
    (Reconcile.pool bindings tuning pool).Asks Q := by
  refine Flow.Asks.bind (asks_bind (asks_read (hQ _ rfl)) fun _ => asks_pure) fun res => ?_
  match res with
  | .ok figures =>
    dsimp only
    split
    · trivial
    · exact asks_topUp hQ hrelease
  | .error e => trivial

theorem asks_poolsOf {tuning : Tuning} {registry : RegistryId} {profiles : List String} :
    (poolsOf bindings tuning registry profiles).Asks Q := by
  induction profiles with
  | nil => trivial
  | cons profile rest ih =>
    exact Flow.Asks.bind (asks_pool hQ hrelease) fun _ => Flow.Asks.bind ih fun _ => trivial

theorem asks_pass {tuning : Tuning} : Asks Q (pass bindings tuning) := by
  have hregistries : ∀ entries, Asks Q (registries bindings tuning entries) := by
    intro entries
    induction entries with
    | nil => exact asks_pure
    | cons entry rest ih =>
      exact asks_bind (asks_read (hQ _ rfl)) fun _ =>
        asks_bind (asks_ofFlow (asks_poolsOf hQ hrelease)) fun _ =>
          asks_bind ih fun _ => asks_pure
  exact asks_bind (asks_read (hQ _ rfl)) fun _ => asks_bind (hregistries _) fun _ => asks_pure

end Reconcile

namespace Handout

theorem asks_activateFound {registry : RegistryId} {iccid : String} {msisdn : Option String}
    {sim : Sim} (hactivate : ∀ registry iccid msisdn, Q (.activate registry iccid msisdn)) :
    Asks Q (activateFound bindings registry iccid msisdn sim) := by
  refine asks_ite asks_throw (asks_ite asks_throw (asks_ite asks_throw
    (asks_bind asks_expect fun msisdn => asks_bind (asks_bind asks_expect fun _ => asks_pure)
      fun _ => ?_)))
  have hrest : Asks Q (do
      Action.activate registry sim.iccid msisdn
      let activated ← Stock.setRegistryState sim.id .activated
      return SimDetails.describe bindings activated) :=
    asks_bind (Flow.asks_request (hactivate _ _ _)) fun _ =>
      asks_bind (Stock.asks_update hQ) fun _ => asks_pure
  exact asks_ite (asks_bind (Stock.asks_update hQ) fun _ => hrest) hrest

theorem asks_allocate {pool : Pool} {msisdn : String}
    (hactivate : ∀ registry iccid msisdn, Q (.activate registry iccid msisdn)) :
    Asks Q (allocate bindings pool msisdn) :=
  asks_bind (asks_bind asks_expect fun _ => asks_pure) fun _ => asks_ite asks_throw
    (asks_bind (Stock.asks_claim fun r hcall _ => hQ r hcall) fun _ =>
      asks_bind (Stock.asks_update hQ) fun _ =>
        asks_bind (Flow.asks_request (hactivate _ _ _)) fun _ =>
          asks_bind (Stock.asks_update hQ) fun _ => asks_pure)

theorem asks_suspend {iccid : String} (hsuspend : ∀ registry iccid, Q (.suspend registry iccid)) :
    Asks Q (suspend bindings iccid) :=
  asks_bind (Stock.asks_find hQ) fun _ =>
    asks_bind (asks_bind asks_expect fun _ => asks_pure) fun _ =>
      asks_bind (Flow.asks_request (hsuspend _ _)) fun _ =>
        asks_bind (Stock.asks_markSuspended hQ) fun _ => asks_pure

end Handout

/-- An inquiry calls services only when it is about health. -/
theorem Inquiry.asks_action (q : Inquiry)
    (hcall : ∀ r, (Operation.inquire q).calls r → Q r) : Asks Q (q.action bindings) := by
  cases q with
  | sim q missing => exact Stock.asks_find hQ
  | details iccid => exact asks_bind (Stock.asks_find hQ) fun _ => asks_pure
  | pending registry => exact asks_bind (asks_read (hQ _ rfl)) fun _ => asks_pure
  | figures pool => exact asks_bind (asks_read (hQ _ rfl)) fun _ => asks_pure
  | entryNamed role name => exact Directory.asks_named hQ
  | entryWithId role id => exact Directory.asks_withId hQ
  | permission vendor registry => exact Directory.asks_checkPermission hQ
  | batch id => exact Batch.asks_withId hQ
  | health => exact asks_ofFlow (Service.asks_health fun _ => hcall _ rfl)
  | entries _ | profileTypes _ | batches _ => exact asks_read (hQ _ rfl)

/-- Besides what it asks the store and the clock, an operation makes calls of its own kind only. -/
theorem Operation.asks_action (o : Operation) (hcall : ∀ r, o.calls r → Q r) :
    Asks Q (o.action bindings) := by
  cases o with
  | addEntry role name => exact Directory.asks_add hQ
  | ensureEntry role name => exact Directory.asks_ensure hQ
  | permit vendor registry => exact Directory.asks_permit hQ
  | importFeed records registry vendor importer => exact Feed.asks_importAll hQ
  | reconcile tuning => exact Reconcile.asks_pass hQ fun _ _ => hcall _ rfl
  | allocate pool msisdn => exact Handout.asks_allocate hQ fun _ _ _ => hcall _ rfl
  | activate registry iccid msisdn =>
    exact asks_bind (Stock.asks_find hQ) fun _ =>
      Handout.asks_activateFound hQ fun _ _ _ => hcall _ rfl
  | suspend iccid => exact Handout.asks_suspend hQ fun _ _ => hcall _ rfl
  | inquire q => exact q.asks_action hQ hcall
  | claim pool => exact Stock.asks_claim fun r hr _ => hQ r hr
  | markSuspended id => exact Stock.asks_markSuspended hQ
  | startBatch importer registry vendor => exact Batch.asks_start hQ
  | closeBatch id size status => exact Batch.asks_close hQ
  | setEid _ _ | setMsisdn _ _ | setRegistryState _ _ | setVendorState _ _ | setReleased _ _
  | setProvisionState _ _ => exact Stock.asks_update hQ

end Parts

end SimDepot
