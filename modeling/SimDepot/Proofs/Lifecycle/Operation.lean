import SimDepot.Feed.Import
import SimDepot.Handout.Allocation
import SimDepot.Proofs.Directory.Names
import SimDepot.Proofs.Session.Discipline
import SimDepot.Reconcile.Pass
import SimDepot.Service.Health

/-!
# Operations

All that callers can ask of the depot, and which commands each operation gives. The operations of
the facade take SIMs in, release, hand out, activate and suspend them; beneath it every step can be
made on its own. SIMs are stored by imports only.
-/

namespace SimDepot

/-- What callers can ask without changing anything. -/
inductive Inquiry
  /-- The first SIM that satisfies a question, or the error that tells what is missing. -/
  | sim (q : SimQuery) (missing : Missing)
  /-- The SIM with a card number, and its activation code. -/
  | details (iccid : String)
  /-- The pending SIMs of a registry, and their activation codes. -/
  | pending (registry : RegistryId)
  /-- The figures of a pool. -/
  | figures (pool : Pool)
  /-- The entries of a role. -/
  | entries (role : Role)
  /-- The entry of a role with a name. -/
  | entryNamed (role : Role) (name : String)
  /-- The entry of a role with an identity. -/
  | entryWithId (role : Role) (id : Int)
  /-- Whether a vendor is permitted for a registry. -/
  | permission (vendor : VendorId) (registry : RegistryId)
  /-- The profile types of the SIMs of a registry. -/
  | profileTypes (registry : RegistryId)
  /-- The batch with an identity. -/
  | batch (id : BatchId)
  /-- The batches of a registry. -/
  | batches (registry : RegistryId)
  /-- The health of the registry services. -/
  | health

namespace Inquiry

/-- What an inquiry returns. -/
abbrev Value : Inquiry → Type
  | sim .. => Sim
  | details _ => SimDetails
  | pending _ => List SimDetails
  | figures _ => PoolFigures
  | entries _ => List Entry
  | entryNamed .. | entryWithId .. => Entry
  | permission .. => Unit
  | profileTypes _ => List String
  | batch _ => Batch
  | batches _ => List Batch
  | health => List (String × Bool)

/-- What is done for an inquiry. -/
def action (bindings : Bindings) : (q : Inquiry) → Action q.Value
  | sim q missing => Stock.find q missing
  | details iccid => SimDetails.withIccid bindings iccid
  | pending registry => SimDetails.pending bindings registry
  | figures pool => PoolFigures.read pool
  | entries role => Directory.list role
  | entryNamed role name => Directory.named role name
  | entryWithId role id => Directory.withId role id
  | permission vendor registry => Directory.checkPermission vendor registry
  | profileTypes registry => Directory.profileTypes registry
  | batch id => Batch.withId id
  | batches registry => Batch.ofRegistry registry
  | health => .ofFlow (Service.health bindings)

end Inquiry

/-- The change assigns a blank subscriber number. -/
def SimChange.assignsBlank : SimChange → Bool
  | setMsisdn msisdn => Text.isBlank msisdn
  | _ => false

/-- What callers can ask of the depot. -/
inductive Operation
  /-- Stores an entry. -/
  | addEntry (role : Role) (name : String)
  /-- Stores an entry, or finds the one that has its name. -/
  | ensureEntry (role : Role) (name : String)
  /-- Permits a vendor for a registry. -/
  | permit (vendor : VendorId) (registry : RegistryId)
  /-- Imports a feed. -/
  | importFeed (records : List FeedRecord) (registry : RegistryId) (vendor : VendorId)
    (importer : String)
  /-- Runs a pass over all pools. -/
  | reconcile (tuning : Tuning)
  /-- Claims a SIM and activates it. -/
  | allocate (pool : Pool) (msisdn : String)
  /-- Activates a claimed SIM. -/
  | activate (registry : RegistryId) (iccid : String) (msisdn : Option String)
  /-- Suspends a SIM. -/
  | suspend (iccid : String)
  /-- Asks something. -/
  | inquire (q : Inquiry)
  /-- Claims a SIM, and no more. -/
  | claim (pool : Pool)
  /-- Records the identity of the chip. -/
  | setEid (id : SimId) (eid : String)
  /-- Assigns the subscriber number. -/
  | setMsisdn (id : SimId) (msisdn : String)
  /-- Records what the registry knows. -/
  | setRegistryState (id : SimId) (state : RegistryState)
  /-- Records a suspension. -/
  | markSuspended (id : SimId)
  /-- Moves the vendor axis. -/
  | setVendorState (id : SimId) (state : VendorState)
  /-- Records a release. -/
  | setReleased (id : SimId) (matchingId : String)
  /-- Moves the claim axis. -/
  | setProvisionState (id : SimId) (state : ProvisionState)
  /-- Opens a batch. -/
  | startBatch (importer : String) (registry : RegistryId) (vendor : VendorId)
  /-- Closes a batch. -/
  | closeBatch (id : BatchId) (size : Nat) (status : BatchStatus)

namespace Operation

/-- What an operation returns. -/
abbrev Value : Operation → Type
  | addEntry .. | ensureEntry .. => Entry
  | permit .. => Permission
  | importFeed .. | startBatch .. | closeBatch .. => Batch
  | reconcile _ => PassReport
  | allocate .. | activate .. | suspend _ => SimDetails
  | inquire q => q.Value
  | claim _ | setEid .. | setMsisdn .. | setRegistryState .. | markSuspended _ | setVendorState ..
  | setReleased .. | setProvisionState .. => Sim

/-- What is done for an operation. -/
def action (bindings : Bindings) : (o : Operation) → Action o.Value
  | addEntry role name => Directory.add role name
  | ensureEntry role name => Directory.ensure role name
  | permit vendor registry => Directory.permit vendor registry
  | importFeed records registry vendor importer => Feed.importAll records registry vendor importer
  | reconcile tuning => Reconcile.pass bindings tuning
  | allocate pool msisdn => Handout.allocate bindings pool msisdn
  | activate registry iccid msisdn => Handout.activate bindings registry iccid msisdn
  | suspend iccid => Handout.suspend bindings iccid
  | inquire q => q.action bindings
  | claim pool => Stock.claim pool
  | setEid id eid => Stock.setEid id eid
  | setMsisdn id msisdn => Stock.setMsisdn id msisdn
  | setRegistryState id state => Stock.setRegistryState id state
  | markSuspended id => Stock.markSuspended id
  | setVendorState id state => Stock.setVendorState id state
  | setReleased id matchingId => Stock.setReleased id matchingId
  | setProvisionState id state => Stock.setProvisionState id state
  | startBatch importer registry vendor => Batch.start importer registry vendor
  | closeBatch id size status => Batch.close id size status

/-- An operation that is known begins with what is done for it. -/
theorem exists_run_eq_bind {o o' : Operation} (h : o = o') (bindings : Bindings) :
    ∃ f, (o.action bindings).run = (o'.action bindings).run >>= f := by
  cases h
  exact ⟨pure, (Flow.bind_pure _).symm⟩

/-- The operation is one of the facade, or one that fills the directory. -/
def isFacade : Operation → Bool
  | addEntry .. | ensureEntry .. | permit .. | importFeed .. | reconcile _ | allocate ..
  | activate .. | suspend _ | inquire _ => true
  | _ => false

/-- The changes of SIMs that an operation can make. -/
def changes : Operation → SimChange → Bool
  | reconcile _, .release _ | reconcile _, .setEid _ => true
  | allocate .., .claim | allocate .., .setMsisdn _ => true
  | allocate .., .setRegistryState .activated => true
  | activate .., .setMsisdn _ | activate .., .setRegistryState .activated => true
  | suspend _, .suspend _ | markSuspended _, .suspend _ => true
  | claim _, .claim | setEid .., .setEid _ | setMsisdn .., .setMsisdn _ => true
  | setRegistryState .., .setRegistryState _ | setVendorState .., .setVendorState _ => true
  | setReleased .., .release _ | setProvisionState .., .setProvisionState _ => true
  | _, _ => false

/-- The commands that an operation can give. -/
inductive Gives : Operation → Command → Prop
  /-- An entry is stored under its trimmed name. -/
  | entry {role : Role} {name : String} :
    Gives (addEntry role name) (.addEntry role (Text.trim name))
  /-- So it is where one is only ensured. -/
  | ensured {role : Role} {name : String} :
    Gives (ensureEntry role name) (.addEntry role (Text.trim name))
  /-- A permission is stored. -/
  | permission {vendor : VendorId} {registry : RegistryId} :
    Gives (permit vendor registry) (.addPermission ⟨vendor, registry⟩)
  /-- An import opens a batch. -/
  | opening {records : List FeedRecord} {registry : RegistryId} {vendor : VendorId}
    {importer : String} (time : Timestamp) :
    Gives (importFeed records registry vendor importer) (.openBatch importer registry vendor time)
  /-- An import stores SIMs of its feed. -/
  | intake {records : List FeedRecord} {registry : RegistryId} {vendor : VendorId}
    {importer : String} {batch : BatchId} {chunk : List SimDraft}
    (hchunk : chunk ⊆ records.map fun r => r.draft registry vendor batch) :
    Gives (importFeed records registry vendor importer) (.addSims chunk)
  /-- An import closes a batch with an outcome, and a size that can be recorded. -/
  | closing {records : List FeedRecord} {registry : RegistryId} {vendor : VendorId}
    {importer : String} {id : BatchId} {size : Nat} {status : BatchStatus} (time : Timestamp)
    (hstatus : status ≠ .started) (hsize : size ≤ Batch.maxSize) :
    Gives (importFeed records registry vendor importer) (.closeBatch id size status time)
  /-- A batch is opened on its own. -/
  | started {importer : String} {registry : RegistryId} {vendor : VendorId} (time : Timestamp) :
    Gives (startBatch importer registry vendor) (.openBatch importer registry vendor time)
  /-- A batch is closed on its own, as imports do it. -/
  | closed {id : BatchId} {size : Nat} {status : BatchStatus} (time : Timestamp)
    (hstatus : status ≠ .started) (hsize : size ≤ Batch.maxSize) :
    Gives (closeBatch id size status) (.closeBatch id size status time)
  /-- A SIM is changed in a way of the operation. Those of the facade assign no blank numbers. -/
  | change {o : Operation} {id : SimId} {change : SimChange} (hchange : o.changes change)
    (hnumber : o.isFacade → change.assignsBlank = false) : Gives o (.changeSim id change)

end Operation

/-- A SIM that an import stores: raw stock that nobody has claimed. -/
structure SimDraft.IsFresh (d : SimDraft) : Prop where
  /-- The registry does not know it. -/
  registryState : d.registryState = .notActivated
  /-- The vendor has not released it. -/
  vendorState : d.vendorState = .available
  /-- Nobody has claimed it. -/
  provisionState : d.provisionState = .available
  /-- It has no matching id. -/
  matchingId : d.matchingId = none
  /-- Its chip is not known. -/
  eid : d.eid = none
  /-- The table chooses its identity. -/
  id? : d.id? = none

namespace Command

/-- The SIMs that a command stores, if any, are as imports store them. -/
def StoresFresh (c : Command) : Prop := ∀ drafts, c = .addSims drafts → ∀ d ∈ drafts, d.IsFresh

theorem storesFresh_of_ne {c : Command} (hc : ∀ drafts, c ≠ .addSims drafts) : c.StoresFresh :=
  fun drafts h => absurd h (hc drafts)

theorem storesFresh_changeSim (id : SimId) (change : SimChange) :
    (changeSim id change).StoresFresh :=
  storesFresh_of_ne (by simp)

/-- The entries that a command stores, if any, have trimmed names. -/
def StoresTrimmed (c : Command) : Prop :=
  ∀ role name, c = .addEntry role name → Text.trim name = name

theorem storesTrimmed_of_ne {c : Command} (hc : ∀ role name, c ≠ .addEntry role name) :
    c.StoresTrimmed :=
  fun role name h => absurd h (hc role name)

theorem storesTrimmed_addEntry (role : Role) (name : String) :
    (addEntry role (Text.trim name)).StoresTrimmed := by
  intro _ _ h
  cases h
  exact Text.trim_trim name

theorem storesFresh_addSims {records : List FeedRecord} {registry : RegistryId}
    {vendor : VendorId} {batch : BatchId} {chunk : List SimDraft}
    (hchunk : chunk ⊆ records.map fun r => r.draft registry vendor batch) :
    (addSims chunk).StoresFresh := by
  intro drafts hdrafts d hd
  cases hdrafts
  obtain ⟨r, -, rfl⟩ := List.mem_map.1 (hchunk hd)
  exact ⟨rfl, rfl, rfl, rfl, rfl, rfl⟩

end Command

namespace Handout

/-- An allocation that is refused at once makes no request; every other one begins with a claim. -/
theorem allocate_cases (bindings : Bindings) (pool : Pool) (msisdn : String) :
    (∃ e, allocate bindings pool msisdn = throw e) ∨
      allocate bindings pool msisdn = Stock.claim pool >>= confirm bindings pool msisdn := by
  unfold allocate requireRegistry
  cases hget : bindings.registries.get? pool.registry with
  | none => exact .inl ⟨_, rfl⟩
  | some binding =>
    by_cases hblank : Text.isBlank msisdn
    · refine .inl ⟨.notUpdated .blankNumber, ?_⟩
      simp only [hblank]
      rfl
    · refine .inr ?_
      simp only [hblank]
      rfl

/-- The requests of an allocation begin with those of a claim, if there are any. -/
theorem run_allocate (bindings : Bindings) (pool : Pool) (msisdn : String) :
    (∃ res, (allocate bindings pool msisdn).run = .done res) ∨
      ∃ f, (allocate bindings pool msisdn).run = (Stock.claim pool).run >>= f := by
  rcases allocate_cases bindings pool msisdn with ⟨e, he⟩ | hclaim
  · exact .inl ⟨_, congrArg ExceptT.run he⟩
  · exact .inr ⟨_, congrArg ExceptT.run hclaim⟩

end Handout

/-! ## The commands of each operation -/

section Issues

open SimDepot.Action

variable {P : Command → Prop} {bindings : Bindings}

namespace Directory

theorem issues_withId {role : Role} {id : Int} : Issues P false (withId role id) :=
  issues_bind issues_read fun _ => issues_expect

theorem issues_named {role : Role} {name : String} : Issues P false (named role name) :=
  issues_bind issues_read fun _ => issues_expect

theorem issues_checkPermission {vendor : VendorId} {registry : RegistryId} :
    Issues P false (checkPermission vendor registry) :=
  issues_bind issues_read fun _ => issues_bind issues_expect fun _ => issues_pure

theorem issues_add {role : Role} {name : String} (hP : P (.addEntry role (Text.trim name))) :
    Issues P false (add role name) :=
  issues_ite (fun _ => issues_throw) fun _ => issues_insert hP fun _ => issues_read

theorem issues_ensure {role : Role} {name : String} (hP : P (.addEntry role (Text.trim name))) :
    Issues P false (ensure role name) := by
  refine issues_tryCatch (issues_add hP) fun e => ?_
  cases e with
  | alreadyExists _ => exact issues_named
  | _ => exact issues_throw

theorem issues_permit {vendor : VendorId} {registry : RegistryId}
    (hP : P (.addPermission ⟨vendor, registry⟩)) : Issues P false (permit vendor registry) :=
  issues_bind issues_withId fun _ => issues_bind issues_withId fun _ =>
    issues_insert hP fun _ => issues_read

end Directory

namespace Batch

theorem issues_withId {id : BatchId} : Issues P false (withId id) :=
  issues_bind issues_read fun _ => issues_expect

theorem issues_start {importer : String} {registry : RegistryId} {vendor : VendorId}
    (hP : ∀ time, P (.openBatch importer registry vendor time)) :
    Issues P false (start importer registry vendor) :=
  issues_bind issues_now fun time => issues_insert (hP time) fun _ => issues_read

/-- A batch is closed with an outcome only, and with a size that it can record. -/
theorem issues_close {id : BatchId} {size : Nat} {status : BatchStatus}
    (hP : ∀ time, status ≠ .started → size ≤ maxSize → P (.closeBatch id size status time)) :
    Issues P false (close id size status) :=
  issues_ite (fun _ => issues_throw) fun hstatus => issues_ite (fun _ => issues_throw) fun hsize =>
    issues_bind issues_now fun time =>
      issues_bind (issues_write (hP time hstatus (Nat.le_of_not_lt hsize))) fun _ =>
        issues_bind issues_withId fun _ => issues_ite (fun _ => issues_throw) fun _ => issues_pure

end Batch

namespace Stock

theorem issues_find {within : Bool} {q : SimQuery} {missing : Missing} :
    Issues P within (find q missing) :=
  issues_bind issues_read fun _ => issues_expect

theorem issues_update {within : Bool} {id : SimId} {change : SimChange}
    (hP : P (.changeSim id change)) : Issues P within (update id change) :=
  issues_bind (issues_write hP) fun _ => issues_bind issues_read fun _ =>
    issues_bind issues_expect fun _ => issues_ite (fun _ => issues_throw) fun _ => issues_pure

theorem issues_markSuspended {id : SimId} (hP : ∀ time, P (.changeSim id (.suspend time))) :
    Issues P false (markSuspended id) :=
  issues_bind issues_now fun time => issues_update (hP time)

theorem issues_tryClaim {pool : Pool} (hP : ∀ id, P (.changeSim id .claim)) :
    Issues P false (tryClaim pool) := by
  refine issues_inTransaction (closes_bind issues_read fun found => ?_)
  cases found with
  | none => exact closes_return closes_rollback
  | some candidate =>
    refine closes_bind (issues_write (hP candidate.id)) fun claimed => closes_ite ?_ ?_
    · exact closes_return closes_rollback
    · exact closes_bind issues_find fun _ => closes_return closes_commit

theorem issues_claim {pool : Pool} (hP : ∀ id, P (.changeSim id .claim)) :
    Issues P false (claim pool) := by
  have hwithin : ∀ left number, Issues P false (claimWithin pool number left) := by
    intro left
    induction left with
    | zero => exact fun _ => issues_throw
    | succ left ih =>
      intro number
      refine issues_bind (issues_attempt (issues_tryClaim hP)) fun res => ?_
      match res with
      | .ok (.claimed sim) => exact issues_pure
      | .ok .nothingReady => exact issues_throw
      | .ok .lost => exact ih _
      | .error e =>
        cases e with
        | store failure =>
          exact issues_ite (fun _ => issues_bind issues_pause fun _ => ih _) fun _ => issues_throw
        | _ => exact issues_throw
  exact hwithin _ _

/-- Taking SIMs in stores these SIMs, some at a time. -/
theorem issues_insertAll {drafts : List SimDraft}
    (hP : ∀ chunk, chunk ⊆ drafts → P (.addSims chunk)) : Issues P false (insertAll drafts) := by
  refine issues_ite (fun _ => issues_pure) fun _ => issues_inTransaction ?_
  refine closes_bind (issues_forM fun chunk hchunk => issues_writeOr (hP chunk fun d hd => ?_))
    fun _ => closes_return closes_commit
  rw [← flatten_chunks chunkSize (by decide) drafts]
  exact List.mem_flatten.2 ⟨chunk, hchunk, hd⟩

end Stock

namespace Feed

variable {records : List FeedRecord} {registry : RegistryId} {vendor : VendorId}

section Intake

variable {importer : String} (hopen : ∀ time, P (.openBatch importer registry vendor time))
  (hclose : ∀ id size status time, status ≠ .started → size ≤ Batch.maxSize →
    P (.closeBatch id size status time))
  (hadd : ∀ batch chunk, chunk ⊆ records.map (fun r => r.draft registry vendor batch) →
    P (.addSims chunk))

include hopen hclose hadd

/-- It opens a batch, stores SIMs under it and closes it. -/
theorem issues_intake : Issues P false (intake records registry vendor importer) := by
  have hstore : ∀ batch, Issues P false (store records registry vendor batch) := by
    intro batch
    unfold store
    split
    · exact issues_throw
    · exact Stock.issues_insertAll (hadd batch)
  refine issues_bind (Batch.issues_start hopen) fun batch =>
    issues_bind (issues_attempt (hstore batch.id)) fun res => ?_
  cases res with
  | ok size => exact Batch.issues_close (hclose _ _ _)
  | error e =>
    exact issues_bind (issues_attempt (Batch.issues_close (hclose _ _ _))) fun _ => issues_throw

theorem issues_importAll : Issues P false (importAll records registry vendor importer) := by
  rw [importAll]
  exact issues_bind Directory.issues_withId fun _ => issues_bind Directory.issues_withId fun _ =>
    issues_bind Directory.issues_checkPermission fun _ => issues_intake hopen hclose hadd

end Intake

end Feed

namespace Reconcile

theorem issues_record {id : SimId} {release : Release}
    (hrelease : ∀ matchingId, P (.changeSim id (.release matchingId)))
    (heid : ∀ eid, P (.changeSim id (.setEid eid))) : Issues P false (record id release) := by
  refine issues_bind (issues_attempt (Stock.issues_update (hrelease _))) fun res => ?_
  match res with
  | .ok _ =>
    dsimp only
    split
    · exact issues_pure
    · exact issues_bind (issues_attempt (Stock.issues_update (heid _))) fun _ => issues_pure
  | .error e =>
    cases e with
    | notUpdated _ => exact issues_pure
    | _ => exact issues_throw

variable (hrelease : ∀ id matchingId, P (.changeSim id (.release matchingId)))
  (heid : ∀ id eid, P (.changeSim id (.setEid eid)))

include hrelease heid

theorem issues_releaseNext {pool : Pool} : Issues P false (releaseNext bindings pool) := by
  refine issues_bind (issues_attempt Stock.issues_find) fun res => ?_
  match res with
  | .ok sim =>
    exact issues_bind issues_expect fun _ => issues_bind issues_release fun _ =>
      issues_record (hrelease _) (heid _)
  | .error e =>
    cases e with
    | notFound _ => exact issues_pure
    | _ => exact issues_throw

theorem issues_topUp {budget : Nat} {report : PoolReport} :
    (topUp bindings report budget).Issues P false := by
  induction budget generalizing report with
  | zero => exact Flow.issues_done
  | succ budget ih =>
    refine Flow.Issues.bind (issues_releaseNext hrelease heid) fun res => ?_
    match res with
    | .ok .released => exact ih
    | .ok .alreadyReleased => exact ih
    | .ok .exhausted => exact Flow.issues_done
    | .error e => exact Flow.issues_done

theorem issues_pool {tuning : Tuning} {pool : Pool} :
    (Reconcile.pool bindings tuning pool).Issues P false := by
  refine Flow.Issues.bind (issues_bind issues_read fun _ => issues_pure) fun res => ?_
  match res with
  | .ok figures =>
    dsimp only
    split
    · exact Flow.issues_done
    · exact issues_topUp hrelease heid
  | .error e => exact Flow.issues_done

theorem issues_poolsOf {tuning : Tuning} {registry : RegistryId} {profiles : List String} :
    (poolsOf bindings tuning registry profiles).Issues P false := by
  induction profiles with
  | nil => exact Flow.issues_done
  | cons profile rest ih =>
    exact Flow.Issues.bind (issues_pool hrelease heid) fun _ =>
      Flow.Issues.bind ih fun _ => Flow.issues_done

theorem issues_pass {tuning : Tuning} : Issues P false (pass bindings tuning) := by
  have hregistries : ∀ entries, Issues P false (registries bindings tuning entries) := by
    intro entries
    induction entries with
    | nil => exact issues_pure
    | cons entry rest ih =>
      exact issues_bind issues_read fun _ =>
        issues_bind (issues_ofFlow (issues_poolsOf hrelease heid)) fun _ =>
          issues_bind ih fun _ => issues_pure
  exact issues_bind issues_read fun _ => issues_bind (hregistries _) fun _ => issues_pure

end Reconcile

namespace Service

theorem issues_health : (health bindings).Issues P false := by
  have hall : ∀ services, (probeAll services).Issues P false := by
    intro services
    induction services with
    | nil => exact Flow.issues_done
    | cons service rest ih =>
      exact Flow.Issues.bind (Flow.issues_request (by simp) (by simp) fun _ => rfl) fun _ =>
        Flow.Issues.bind ih fun _ => Flow.issues_done
  exact hall _

end Service

namespace Handout

theorem issues_requireRegistry {registry : RegistryId} :
    Issues P false (requireRegistry bindings registry) :=
  issues_bind issues_expect fun _ => issues_pure

theorem issues_confirm {pool : Pool} {msisdn : String} {sim : Sim}
    (hmsisdn : ∀ id, P (.changeSim id (.setMsisdn msisdn)))
    (hactivated : ∀ id, P (.changeSim id (.setRegistryState .activated))) :
    Issues P false (confirm bindings pool msisdn sim) :=
  issues_bind (Stock.issues_update (hmsisdn _)) fun _ => issues_bind Action.issues_activate fun _ =>
    issues_bind (Stock.issues_update (hactivated _)) fun _ => issues_pure

/-- An allocation assigns the number that it is given, which is not blank. -/
theorem issues_allocate {pool : Pool} {msisdn : String} (hclaim : ∀ id, P (.changeSim id .claim))
    (hmsisdn : Text.isBlank msisdn = false → ∀ id, P (.changeSim id (.setMsisdn msisdn)))
    (hactivated : ∀ id, P (.changeSim id (.setRegistryState .activated))) :
    Issues P false (allocate bindings pool msisdn) :=
  issues_bind issues_requireRegistry fun _ => issues_ite (fun _ => issues_throw) fun hblank =>
    issues_bind (Stock.issues_claim hclaim) fun _ =>
      issues_confirm (hmsisdn (eq_false_of_ne_true hblank)) hactivated

/-- The number to activate a SIM with is the stored one, or not blank. -/
theorem stored_or_not_isBlank {given stored : Option String} {msisdn : String}
    (h : effectiveMsisdn? given stored = some msisdn) :
    stored = some msisdn ∨ Text.isBlank msisdn = false := by
  unfold effectiveMsisdn? at h
  rcases Option.or_eq_some_iff.1 h with hgiven | ⟨-, hstored⟩
  · exact .inr (by simpa using (Option.filter_eq_some_iff.1 hgiven).2)
  · exact .inl hstored

/-- A SIM that was found is activated only when it is claimed, and is assigned a number only when
this is not blank. -/
theorem issues_activateFound {registry : RegistryId} {iccid : String} {msisdn : Option String}
    {sim : Sim}
    (hmsisdn : ∀ msisdn, Text.isBlank msisdn = false → P (.changeSim sim.id (.setMsisdn msisdn)))
    (hactivated : sim.provisionState = .provisioned →
      P (.changeSim sim.id (.setRegistryState .activated))) :
    Issues P false (activateFound bindings registry iccid msisdn sim) := by
  refine issues_ite (fun _ => issues_throw) fun _ => issues_ite (fun _ => issues_throw) fun _ =>
    issues_ite (fun _ => issues_throw) fun hclaimed => issues_expect_bind fun msisdn hnumber =>
      issues_bind issues_requireRegistry fun _ => ?_
  have hrest : Issues P false (do
      Action.activate registry sim.iccid msisdn
      let activated ← Stock.setRegistryState sim.id .activated
      return SimDetails.describe bindings activated) :=
    issues_bind Action.issues_activate fun _ =>
      issues_bind (Stock.issues_update (hactivated (Decidable.of_not_not hclaimed))) fun _ =>
        issues_pure
  refine issues_ite
    (fun hnew => issues_bind (Stock.issues_update (hmsisdn msisdn ?_)) fun _ => hrest)
    fun _ => hrest
  exact (stored_or_not_isBlank hnumber).resolve_left hnew

theorem issues_activate {registry : RegistryId} {iccid : String} {msisdn : Option String}
    (hmsisdn : ∀ id msisdn, Text.isBlank msisdn = false → P (.changeSim id (.setMsisdn msisdn)))
    (hactivated : ∀ id, P (.changeSim id (.setRegistryState .activated))) :
    Issues P false (activate bindings registry iccid msisdn) :=
  issues_bind Stock.issues_find fun _ =>
    issues_activateFound (hmsisdn _) fun _ => hactivated _

theorem issues_suspend {iccid : String}
    (hsuspend : ∀ id time, P (.changeSim id (.suspend time))) :
    Issues P false (suspend bindings iccid) :=
  issues_bind Stock.issues_find fun _ => issues_bind issues_requireRegistry fun _ =>
    issues_bind Action.issues_suspend fun _ =>
      issues_bind (Stock.issues_markSuspended (hsuspend _)) fun _ => issues_pure

end Handout

/-- An inquiry gives no commands. -/
theorem Inquiry.issues_action (q : Inquiry) : Issues P false (q.action bindings) := by
  cases q with
  | sim q missing => exact Stock.issues_find
  | details iccid => exact issues_bind Stock.issues_find fun _ => issues_pure
  | pending registry => exact issues_bind issues_read fun _ => issues_pure
  | figures pool => exact issues_bind issues_read fun _ => issues_pure
  | entries role => exact issues_read
  | entryNamed role name => exact Directory.issues_named
  | entryWithId role id => exact Directory.issues_withId
  | permission vendor registry => exact Directory.issues_checkPermission
  | profileTypes registry => exact issues_read
  | batch id => exact Batch.issues_withId
  | batches registry => exact issues_read
  | health => exact issues_ofFlow Service.issues_health

/-- An operation gives its own commands only. -/
theorem Operation.issues_gives (o : Operation) : Issues o.Gives false (o.action bindings) := by
  cases o with
  | addEntry role name => exact Directory.issues_add .entry
  | ensureEntry role name => exact Directory.issues_ensure .ensured
  | permit vendor registry => exact Directory.issues_permit .permission
  | importFeed records registry vendor importer =>
    exact Feed.issues_importAll .opening (fun _ _ _ => .closing) fun _ _ => .intake
  | reconcile tuning =>
    exact Reconcile.issues_pass (fun _ _ => .change rfl fun _ => rfl)
      fun _ _ => .change rfl fun _ => rfl
  | allocate pool msisdn =>
    exact Handout.issues_allocate (fun _ => .change rfl fun _ => rfl)
      (fun hblank _ => .change rfl fun _ => hblank) fun _ => .change rfl fun _ => rfl
  | activate registry iccid msisdn =>
    exact Handout.issues_activate (fun _ _ hblank => .change rfl fun _ => hblank)
      fun _ => .change rfl fun _ => rfl
  | suspend iccid => exact Handout.issues_suspend fun _ _ => .change rfl fun _ => rfl
  | inquire q => exact q.issues_action
  | claim pool => exact Stock.issues_claim fun _ => .change rfl nofun
  | markSuspended id => exact Stock.issues_markSuspended fun _ => .change rfl nofun
  | startBatch importer registry vendor => exact Batch.issues_start .started
  | closeBatch id size status => exact Batch.issues_close .closed
  | setRegistryState id state => cases state <;> exact Stock.issues_update (.change rfl nofun)
  | setEid _ _ | setMsisdn _ _ | setVendorState _ _ | setReleased _ _ | setProvisionState _ _ =>
    exact Stock.issues_update (.change rfl nofun)

/-- What an operation can give changes a SIM in a way of its own, or it leaves the SIMs that are
stored as they are, stores raw stock only, and stores entries under trimmed names only. -/
theorem Operation.Gives.cases {o : Operation} {c : Command} (h : o.Gives c) :
    (∃ id change, o.changes change ∧ c = .changeSim id change) ∨
      (∀ id change, c ≠ .changeSim id change) ∧ c.StoresFresh ∧ c.StoresTrimmed := by
  cases h with
  | change hchange => exact .inl ⟨_, _, hchange, rfl⟩
  | entry | ensured =>
    exact .inr ⟨by simp, Command.storesFresh_of_ne (by simp), Command.storesTrimmed_addEntry _ _⟩
  | intake hchunk =>
    exact .inr ⟨by simp, Command.storesFresh_addSims hchunk, Command.storesTrimmed_of_ne (by simp)⟩
  | permission | opening _ | closing _ _ _ | started _ | closed _ _ _ =>
    exact .inr ⟨by simp, Command.storesFresh_of_ne (by simp), Command.storesTrimmed_of_ne (by simp)⟩

/-- An operation gives commands that change SIMs in its own ways, and commands that leave the SIMs
that are stored as they are, store raw stock only, and store entries under trimmed names only. -/
theorem Operation.issues_tidy (o : Operation)
    (hother : ∀ c : Command, c.StoresFresh → c.StoresTrimmed →
      (∀ id change, c ≠ .changeSim id change) → P c)
    (hchange : ∀ id change, o.changes change → P (.changeSim id change)) :
    Issues P false (o.action bindings) := by
  refine Flow.Obeys.widen o.issues_gives fun c hc => ?_
  rcases hc.cases with ⟨id, change, hchanges, rfl⟩ | ⟨hc, hfresh, htrimmed⟩
  · exact hchange id change hchanges
  · exact hother c hfresh htrimmed hc

/-- The same where the names of entries do not matter. -/
theorem Operation.issues_action (o : Operation)
    (hother : ∀ c : Command, c.StoresFresh → (∀ id change, c ≠ .changeSim id change) → P c)
    (hchange : ∀ id change, o.changes change → P (.changeSim id change)) :
    Issues P false (o.action bindings) :=
  o.issues_tidy (fun c hfresh _ => hother c hfresh) hchange

end Issues

end SimDepot
