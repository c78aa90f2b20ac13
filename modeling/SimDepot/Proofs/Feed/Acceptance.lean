import SimDepot.Proofs.Directory.Upkeep
import SimDepot.Proofs.Feed.Intake

/-!
# Which feeds an import accepts

An import that nobody disturbs stores the whole feed or nothing of it. `Feed.Ending` lists how it
ends and what it leaves, in the order in which the conditions are looked at: the registry, the
vendor, the permission, blank fields, card numbers that are not free. The conditions exclude each
other, and none is left out; `Feed.importAll_ending` says that every import ends like this, and that
it succeeds exactly for the feeds that meet all of them.
-/

namespace SimDepot

/-! ## What a record has to say -/

namespace FeedRecord

/-- No field of the record that may not be blank is blank. -/
structure IsComplete (r : FeedRecord) : Prop where
  /-- It has a card number. -/
  iccid : ¬ Text.isBlank r.iccid
  /-- It has a subscriber identity. -/
  imsi : ¬ Text.isBlank r.imsi
  /-- It has a profile type. -/
  profileType : ¬ Text.isBlank r.profileType

/-- The field is the first one that may not be blank and is. -/
def FirstBlank (r : FeedRecord) : RecordField → Prop
  | .iccid => Text.isBlank r.iccid
  | .imsi => ¬ Text.isBlank r.iccid ∧ Text.isBlank r.imsi
  | .profileType => ¬ Text.isBlank r.iccid ∧ ¬ Text.isBlank r.imsi ∧ Text.isBlank r.profileType

/-- The SIM is what the record describes, stored by the import `batch`. -/
structure StoredAs (r : FeedRecord) (batch : Batch) (sim : Sim) : Prop where
  /-- The card number is trimmed. -/
  iccid : sim.iccid = Text.trim r.iccid
  /-- The subscriber identity is trimmed. -/
  imsi : sim.imsi = Text.trim r.imsi
  /-- The profile type is trimmed. -/
  profileType : sim.profileType = Text.trim r.profileType
  /-- A subscriber number that is not blank is kept as it is. -/
  msisdn : ∀ m, sim.msisdn = some m ↔ r.msisdn = some m ∧ ¬ Text.isBlank m
  /-- The chip is not known. -/
  eid : sim.eid = none
  /-- It belongs to the registry of the import. -/
  registryId : sim.registryId = batch.registryId
  /-- It is supplied by the vendor of the import. -/
  vendorId : sim.vendorId = batch.vendorId
  /-- The import stored it. -/
  batchId : sim.batchId = batch.id
  /-- The registry does not know it. -/
  registryState : sim.registryState = .notActivated
  /-- The vendor has not released it. -/
  vendorState : sim.vendorState = .available
  /-- Nobody has claimed it. -/
  provisionState : sim.provisionState = .available
  /-- It has no matching id. -/
  matchingId : sim.matchingId = none
  /-- It is not suspended. -/
  suspendedAt : sim.suspendedAt = none

theorem blankField?_eq_none_iff {r : FeedRecord} : r.blankField? = none ↔ r.IsComplete := by
  unfold blankField?
  constructor
  · intro h
    split at h
    · cases h
    next hiccid =>
      split at h
      · cases h
      next himsi =>
        split at h
        · cases h
        next hprofile => exact ⟨hiccid, himsi, hprofile⟩
  · rintro ⟨hiccid, himsi, hprofile⟩
    rw [if_neg hiccid, if_neg himsi, if_neg hprofile]

theorem firstBlank_of_blankField? {r : FeedRecord} {field : RecordField}
    (h : r.blankField? = some field) : r.FirstBlank field := by
  unfold blankField? at h
  split at h
  next hiccid =>
    cases h
    exact hiccid
  next hiccid =>
    split at h
    next himsi =>
      cases h
      exact ⟨hiccid, himsi⟩
    next himsi =>
      split at h
      next hprofile =>
        cases h
        exact ⟨hiccid, himsi, hprofile⟩
      next => cases h

theorem storedAs_draft {r : FeedRecord} {batch : Batch} {sim : Sim}
    (h : sim.toSimData = (r.draft batch.registryId batch.vendorId batch.id).toSimData) :
    r.StoredAs batch sim := by
  have hmsisdn : ∀ m, sim.msisdn = some m ↔ r.msisdn = some m ∧ ¬ Text.isBlank m := by
    intro m
    have hfilter : sim.msisdn = r.msisdn.filter fun m => !Text.isBlank m :=
      congrArg SimData.msisdn h
    rw [hfilter, Option.filter_eq_some_iff]
    simp
  refine ⟨?_, ?_, ?_, hmsisdn, ?_, ?_, ?_, ?_, ?_, ?_, ?_, ?_, ?_⟩ <;> rw [h] <;> rfl

end FeedRecord

namespace Feed

open SimDepot.Action

/-- The line with the number `line` is the first one with a blank field, and `field` the first of
its blank fields. -/
def FirstBlank (records : List FeedRecord) (line : Nat) (field : RecordField) : Prop :=
  ∃ early r late, records = early ++ r :: late ∧ (∀ e ∈ early, e.IsComplete) ∧
    line = early.length + 1 ∧ r.FirstBlank field

theorem blankField?_eq_none_iff {line : Nat} {records : List FeedRecord} :
    blankField? line records = none ↔ ∀ r ∈ records, r.IsComplete := by
  induction records generalizing line with
  | nil => simp [blankField?]
  | cons r rest ih =>
    rw [List.forall_mem_cons, ← FeedRecord.blankField?_eq_none_iff]
    cases hr : r.blankField? with
    | none => simp [blankField?, hr, ih]
    | some field => simp [blankField?, hr]

theorem firstBlank_of_blankField? {start line : Nat} {records : List FeedRecord}
    {field : RecordField} (h : blankField? start records = some (line, field)) :
    ∃ early r late, records = early ++ r :: late ∧ (∀ e ∈ early, e.IsComplete) ∧
      line = early.length + start ∧ r.FirstBlank field := by
  induction records generalizing start with
  | nil => cases h
  | cons r rest ih =>
    cases hr : r.blankField? with
    | some found =>
      simp only [blankField?, hr, Option.some.injEq, Prod.mk.injEq] at h
      obtain ⟨rfl, rfl⟩ := h
      exact ⟨[], r, rest, rfl, by simp, by simp, FeedRecord.firstBlank_of_blankField? hr⟩
    | none =>
      simp only [blankField?, hr] at h
      obtain ⟨early, r', late, rfl, hearly, hline, hfield⟩ := ih h
      refine ⟨r :: early, r', late, rfl, ?_, ?_, hfield⟩
      · rw [List.forall_mem_cons]
        exact ⟨FeedRecord.blankField?_eq_none_iff.1 hr, hearly⟩
      · rw [hline, List.length_cons]
        omega

/-! ## How an import ends -/

section Spec

variable (s : Store) (records : List FeedRecord) (registry : RegistryId) (vendor : VendorId)
  (importer : String)

/-- The registry and the vendor exist, and the vendor may supply the registry. -/
structure Admitted : Prop where
  /-- The registry exists. -/
  hasRegistry : s.registries.hasId registry
  /-- The vendor exists. -/
  hasVendor : s.vendors.hasId vendor
  /-- The vendor may supply the registry. -/
  permitted : ⟨vendor, registry⟩ ∈ s.permissions

/-- The card numbers, trimmed, differ from each other, and none of them is stored. -/
structure Unused : Prop where
  /-- They differ from each other. -/
  nodup : (records.map fun r => Text.trim r.iccid).Nodup
  /-- None of them is stored. -/
  fresh : ∀ r ∈ records, ∀ sim ∈ s.sims.rows, sim.iccid ≠ Text.trim r.iccid

/-- The store has identities left for a batch and for `count` SIMs. -/
structure HasRoom (count : Nat) : Prop where
  /-- There is an identity left for a batch. -/
  batch : s.batches.last < maxId
  /-- There are as many left for SIMs. -/
  sims : s.sims.last + count ≤ maxId
  /-- A batch can record this number. -/
  size : count ≤ Batch.maxSize

/-- A batch of the import was added, with this size and outcome. -/
structure Closed (s' : Store) (batch : Batch) (size : Nat) (status : BatchStatus) : Prop where
  /-- It is the only batch that was added. -/
  added : Batch.Added s.batches s'.batches batch
  /-- It names the importer. -/
  importer : batch.importer = importer
  /-- It names the registry. -/
  registryId : batch.registryId = registry
  /-- It names the vendor. -/
  vendorId : batch.vendorId = vendor
  /-- The number of SIMs that were stored. -/
  size : batch.size = size
  /-- The outcome. -/
  status : batch.status = status
  /-- It is closed. -/
  endedAt : batch.endedAt.isSome

/-- Every record was stored, in order. -/
structure Completed (s' : Store) (batch : Batch) : Prop where
  /-- The batch says so. -/
  closed : Closed s registry vendor importer s' batch records.length .completed
  /-- The SIMs that were stored are followed by those of the feed, in the order of the records. -/
  sims : ∃ new, s'.sims.rows = s.sims.rows ++ new ∧
    List.Forall₂ (fun r sim => r.StoredAs batch sim) records new
  /-- Identities ascend, from those that were stored to the new ones. -/
  ascending : s'.sims.rows.Pairwise fun a b => a.id < b.id
  /-- Nothing else has changed. -/
  rest : s' = { s with batches := s'.batches, sims := s'.sims }

/-- Nothing was stored but the batch that says so. -/
structure Failed (s' : Store) : Prop where
  /-- There is a batch of size zero. -/
  closed : ∃ batch, Closed s registry vendor importer s' batch 0 .failed
  /-- Nothing else has changed. -/
  rest : s' = { s with batches := s'.batches }

/-- How an import ends, and what lasts then. -/
inductive Ending : Except Error Batch → Store → Prop
  /-- The registry does not exist. -/
  | noRegistry (h : ¬ s.registries.hasId registry) :
    Ending (.error (.notFound (.entryWithId .registry registry))) s
  /-- The vendor does not exist. -/
  | noVendor (hregistry : s.registries.hasId registry) (h : ¬ s.vendors.hasId vendor) :
    Ending (.error (.notFound (.entryWithId .vendor vendor))) s
  /-- The vendor may not supply the registry. -/
  | forbidden (hregistry : s.registries.hasId registry) (hvendor : s.vendors.hasId vendor)
    (h : ⟨vendor, registry⟩ ∉ s.permissions) :
    Ending (.error (.forbidden (.supply vendor registry))) s
  /-- A record is not complete. -/
  | blank {line : Nat} {field : RecordField} {s' : Store} (hadmitted : Admitted s registry vendor)
    (h : FirstBlank records line field) (hfailed : Failed s registry vendor importer s') :
    Ending (.error (.notCreated (.blankField line field))) s'
  /-- A card number is not free. -/
  | taken {s' : Store} (hadmitted : Admitted s registry vendor)
    (hcomplete : ∀ r ∈ records, r.IsComplete) (h : ¬ Unused s records)
    (hfailed : Failed s registry vendor importer s') :
    Ending (.error (.alreadyExists (.sim "sim_resources.iccid"))) s'
  /-- All is well. -/
  | completed {batch : Batch} {s' : Store} (hadmitted : Admitted s registry vendor)
    (hcomplete : ∀ r ∈ records, r.IsComplete) (hunused : Unused s records)
    (h : Completed s records registry vendor importer s' batch) : Ending (.ok batch) s'

end Spec

section Import

variable {s s₁ : Store} {records : List FeedRecord} {registry : RegistryId} {vendor : VendorId}
  {importer : String}

theorem not_complete_of_firstBlank {line : Nat} {field : RecordField}
    (h : FirstBlank records line field) : ¬ ∀ r ∈ records, r.IsComplete := by
  obtain ⟨early, r, late, rfl, -, -, hfield⟩ := h
  intro hall
  have hr := hall r (by simp)
  cases field with
  | iccid => exact hr.iccid hfield
  | imsi => exact hr.imsi hfield.2
  | profileType => exact hr.profileType hfield.2.2

/-- An import succeeds exactly where nothing stands against it. -/
theorem Ending.isOk_iff {res : Except Error Batch} {s' : Store}
    (h : Ending s records registry vendor importer res s') : res.isOk ↔
      Admitted s registry vendor ∧ (∀ r ∈ records, r.IsComplete) ∧ Unused s records := by
  have hno : ∀ e : Error, ¬ (.error e : Except Error Batch).isOk := fun _ => nofun
  cases h with
  | noRegistry h => exact iff_of_false (hno _) fun hall => h hall.1.hasRegistry
  | noVendor _ h => exact iff_of_false (hno _) fun hall => h hall.1.hasVendor
  | forbidden _ _ h => exact iff_of_false (hno _) fun hall => h hall.1.permitted
  | blank _ h _ => exact iff_of_false (hno _) fun hall => not_complete_of_firstBlank h hall.2.1
  | taken _ _ h _ => exact iff_of_false (hno _) fun hall => h hall.2.2
  | completed hadmitted hcomplete hunused _ =>
    exact iff_of_true rfl ⟨hadmitted, hcomplete, hunused⟩

/-- The store takes the SIMs of a feed exactly when their card numbers are free. -/
theorem accepts_drafts_iff {batch : BatchId} (hsims : s₁.sims = s.sims) :
    s₁.Accepts (records.map fun r => r.draft registry vendor batch) ↔ Unused s records := by
  have hiccids : (records.map fun r => r.draft registry vendor batch).map (·.iccid) =
      records.map fun r => Text.trim r.iccid := by
    rw [List.map_map]
    rfl
  constructor
  · rintro ⟨hnodup, hfresh⟩
    rw [hiccids] at hnodup
    rw [hsims] at hfresh
    exact ⟨hnodup, fun r hr => hfresh _ (List.mem_map_of_mem hr)⟩
  · rintro ⟨hnodup, hfresh⟩
    refine ⟨hiccids ▸ hnodup, fun d hd => ?_⟩
    obtain ⟨r, hr, rfl⟩ := List.mem_map.1 hd
    rw [hsims]
    exact hfresh r hr

theorem hasReferences_of_admitted (hadmitted : Admitted s registry vendor) {t : Table Batch}
    {batch : Batch} (hadded : Batch.Added s.batches t batch) (r : FeedRecord) :
    { s with batches := t }.hasReferences (r.draft registry vendor batch.id).toSimData := by
  have hfound : t.withId? batch.id = some batch := by
    refine Table.withId?_eq_some_iff.2 ⟨?_, rfl⟩
    rw [hadded.rows]
    simp
  show (s.registries.hasId registry && s.vendors.hasId vendor &&
    (t.withId? batch.id).isSome) = true
  rw [hadmitted.hasRegistry, hadmitted.hasVendor, hfound]
  rfl

/-- The SIMs that were stored for a feed are what its records describe. -/
theorem forall₂_storedAs {b : Batch} {last : Int} :
    List.Forall₂ (fun r sim => r.StoredAs b sim) records (SimData.numbered last
      ((records.map fun r => r.draft b.registryId b.vendorId b.id).map (·.toSimData))) := by
  induction records generalizing last with
  | nil => exact .nil
  | cons r rest ih => exact .cons (FeedRecord.storedAs_draft rfl) ih

/-! ### The steps -/

/-- Once the batch is open, storing the feed stores all of it or fails. -/
theorem alone_store (hadmitted : Admitted s registry vendor) (hroom : HasRoom s records.length)
    {t : Table Batch} {batch : Batch} (hadded : Batch.Added s.batches t batch)
    {post : Except Error Nat → Standing → Store → Prop}
    (hblank : ∀ line field, FirstBlank records line field →
      post (.error (.notCreated (.blankField line field))) .outside { s with batches := t })
    (htaken : (∀ r ∈ records, r.IsComplete) → ¬ Unused s records →
      post (.error (.alreadyExists (.sim "sim_resources.iccid"))) .outside
        { s with batches := t })
    (hstored : (∀ r ∈ records, r.IsComplete) → Unused s records →
      ∀ s', Store.Grown { s with batches := t } s' (SimData.numbered s.sims.last
        ((records.map fun r => r.draft registry vendor batch.id).map (·.toSimData))) →
      post (.ok records.length) .outside s') :
    Alone post (store records registry vendor batch.id) .outside { s with batches := t } := by
  unfold store
  cases hline : blankField? 1 records with
  | some found =>
    exact alone_throw (hblank _ _ (firstBlank_of_blankField? hline))
  | none =>
    have hcomplete := blankField?_eq_none_iff.1 hline
    have hid : ∀ d ∈ records.map fun r => r.draft registry vendor batch.id, d.id? = none := by
      intro d hd
      obtain ⟨r, -, rfl⟩ := List.mem_map.1 hd
      rfl
    have href : ∀ d ∈ records.map fun r => r.draft registry vendor batch.id,
        { s with batches := t }.hasReferences d.toSimData := by
      intro d hd
      obtain ⟨r, -, rfl⟩ := List.mem_map.1 hd
      exact hasReferences_of_admitted hadmitted hadded r
    have haccepts : Store.Accepts { s with batches := t }
        (records.map fun r => r.draft registry vendor batch.id) ↔ Unused s records :=
      accepts_drafts_iff rfl
    refine Flow.Alone.mono (Stock.alone_insertAll hid href ?_) fun res st s' hres => ?_
    · rw [List.length_map]
      exact hroom.sims
    · obtain ⟨rfl, hinserted⟩ := hres
      cases hinserted with
      | stored hdrafts hgrown _ =>
        rw [List.length_map]
        exact hstored hcomplete (haccepts.1 hdrafts) s' hgrown
      | taken hnot => exact htaken hcomplete fun hunused => hnot (haccepts.2 hunused)

/-- Closing the batch of an import that failed. -/
theorem alone_fail {batch : Batch} {t : Table Batch} (hadded : Batch.Added s.batches t batch)
    (hrunning : batch.status = .started) (himporter : batch.importer = importer)
    (hregistry : batch.registryId = registry) (hvendor : batch.vendorId = vendor) {e : Error}
    {post : Except Error Batch → Standing → Store → Prop}
    (h : ∀ s', Failed s registry vendor importer s' → post (.error e) .outside s') :
    Alone post (do
      let _ ← attempt (Batch.close batch.id 0 .failed)
      throw e) .outside { s with batches := t } := by
  refine alone_bind (alone_attempt (Batch.alone_close (s := { s with batches := t }) hadded hrunning
    (by simp) (by simp) fun time t' hclosed => alone_throw (h _ ⟨⟨batch.closed 0 .failed time, ?_⟩,
      rfl⟩)))
  exact ⟨hclosed, himporter, hregistry, hvendor, rfl, rfl, rfl⟩

/-- What comes of an import that nobody disturbs. -/
theorem alone_importAll (hroom : HasRoom s records.length) :
    Alone (fun res _ s' => Ending s records registry vendor importer res s')
      (importAll records registry vendor importer) .outside s := by
  refine alone_bind (Directory.alone_withId (fun _ hregistry => ?_) .noRegistry)
  refine alone_bind (Directory.alone_withId (fun _ hvendor => ?_) (.noVendor hregistry))
  refine alone_bind (Directory.alone_checkPermission (fun hpermission => ?_)
    (.forbidden hregistry hvendor))
  have hadmitted : Admitted s registry vendor := ⟨hregistry, hvendor, hpermission⟩
  refine alone_bind (Batch.alone_start hroom.batch fun time t hadded => ?_)
  refine alone_bind (alone_attempt (alone_store hadmitted hroom hadded ?_ ?_ ?_))
  · intro line field hblank
    exact alone_fail hadded rfl rfl rfl rfl fun s' hfailed => .blank hadmitted hblank hfailed
  · intro hcomplete hnot
    exact alone_fail hadded rfl rfl rfl rfl fun s' hfailed =>
      .taken hadmitted hcomplete hnot hfailed
  · intro hcomplete hunused s' hgrown
    have hadded' : Batch.Added s.batches s'.batches
        (Batch.opened (s.batches.last + 1) importer registry vendor time) := by
      rw [hgrown.rest]
      exact hadded
    refine Batch.alone_close hadded' rfl (by simp) hroom.size fun time' t' hclosed => ?_
    refine .completed hadmitted hcomplete hunused
      ⟨⟨hclosed, rfl, rfl, rfl, rfl, rfl, rfl⟩, ⟨_, hgrown.rows, ?_⟩, s'.sims.sorted, ?_⟩
    · exact forall₂_storedAs (b := (Batch.opened (s.batches.last + 1) importer registry vendor
        time).closed records.length .completed time')
    · show { s' with batches := t' } = _
      rw [hgrown.rest]

/-- While nobody else writes and nothing goes wrong, an import comes to an end, whatever the clock
shows, and it ends in one of six ways. It succeeds exactly for a registry and a vendor that exist
and are permitted for each other, and a feed without blank fields whose trimmed card numbers are
free and differ from each other. A store that has run out of identities fails like a full disk; this
is the one way of going wrong that `HasRoom` has to exclude. -/
theorem importAll_ending (s : Store) (records : List FeedRecord) (registry : RegistryId)
    (vendor : VendorId) (importer : String) (hroom : HasRoom s records.length) :
    (∃ res s', (importAll records registry vendor importer).run.ComesTo s res s') ∧
      ∀ res s', (importAll records registry vendor importer).run.ComesTo s res s' →
        Ending s records registry vendor importer res s' ∧
          (res.isOk ↔ Admitted s registry vendor ∧ (∀ r ∈ records, r.IsComplete) ∧
            Unused s records) := by
  refine ⟨Flow.exists_comesTo _ _, fun res s' hcomes => ?_⟩
  obtain ⟨-, hending⟩ := Flow.post_of_comesTo (alone_importAll hroom) hcomes
  exact ⟨hending, hending.isOk_iff⟩

end Import

/-- A depot without SIMs, whose first vendor may supply the second registry and no other. -/
def supplied : Store :=
  { Store.empty with
    registries := ⟨[⟨1, "Registry"⟩, ⟨2, "Other registry"⟩], 2, by decide, by decide, by decide⟩
    vendors := ⟨[⟨1, "Vendor"⟩, ⟨2, "Other vendor"⟩], 2, by decide, by decide, by decide⟩
    permissions := [⟨1, 2⟩]
    nodup_permissions := by decide }

/-- A feed with white space around a card number, and with a blank subscriber number. -/
def twoRecords : List FeedRecord :=
  [⟨" 8947 ", "2420", some " ", "P"⟩, ⟨"8948", "2421", some " 4790", "P"⟩]

theorem completed_twoRecords : HasRoom supplied twoRecords.length ∧
    ∃ batch s', (importAll twoRecords 2 1 "feed").run.ComesTo supplied (.ok batch) s' ∧
      Completed supplied twoRecords 2 1 "feed" s' batch := by
  have hroom : HasRoom supplied twoRecords.length := ⟨by decide, by decide, by decide⟩
  have hcomplete : ∀ r ∈ twoRecords, r.IsComplete := by
    exact blankField?_eq_none_iff.1 (by decide +kernel : blankField? 1 twoRecords = none)
  have hunused : Unused supplied twoRecords := ⟨by decide +kernel, by decide +kernel⟩
  obtain ⟨⟨res, s', hcomes⟩, hends⟩ := importAll_ending supplied twoRecords 2 1 "feed" hroom
  obtain ⟨hending, hok⟩ := hends res s' hcomes
  have hsuccess := hok.2 ⟨⟨by decide, by decide, by decide⟩, hcomplete, hunused⟩
  cases hending with
  | @completed batch _ _ _ _ h => exact ⟨hroom, batch, s', hcomes, h⟩
  | _ => cases hsuccess

end Feed

end SimDepot
