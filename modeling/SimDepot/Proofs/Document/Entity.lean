import SimDepot.Batch.Json
import SimDepot.Directory.Json
import SimDepot.Json.Text
import SimDepot.Proofs.Document.Retelling
import SimDepot.Proofs.Json.Text
import SimDepot.Proofs.Time.Rfc3339
import SimDepot.Sim.Json

/-!
# Entities in JSON

What an entity is written as is decoded as that entity, and so is every text that tells the same
members: in another order, without the nulls that may be missing, or with more than the entity has
fields for (`RoundTrips`). It holds of SIMs, batches, entries and permissions
(`entities_roundTrip`), whatever their texts, states and times are; identities and sizes have to
fit in 64 bits.

The records differ in their fields only. One argument (`RoundTrips.of_fields`) asks of a record
that its decoder reads each field off the value that the record is written with.
-/

namespace SimDepot

open Document Json

/-- The integer fits in 64 bits with sign. -/
def FitsInt64 (i : Int) : Prop := minId ≤ i ∧ i ≤ maxId

/-! ## Single values -/

namespace Decode

theorem int64_integer {i : Int} (h : FitsInt64 i) : int64 (.integer i) = .ok i := by
  simp only [int64, integerWithin, if_pos (show minId ≤ i ∧ i ≤ maxId from h)]

theorem option_string_ofText? (s : Option String) :
    option string (Json.ofText? s).document = .ok s := by
  cases s <;> rfl

theorem worded_word {α : Type} [Worded α] {a : α}
    (h : Worded.ofWord? (Worded.word a) = some a) : worded (.text (Worded.word a)) = .ok a := by
  rw [worded, word, h]

theorem timestamp_write (t : Timestamp) : timestamp (.text (Rfc3339.write t)) = .ok t := by
  simp only [timestamp, Rfc3339.read?_write]

theorem option_timestamp_write (t : Option Timestamp) :
    option timestamp (Json.ofText? (t.map Rfc3339.write)).document = .ok t := by
  cases t with
  | none => rfl
  | some t =>
    simp only [Option.map_some, Json.ofText?, Json.document, option, timestamp_write, Except.map]

end Decode

/-! ## Records -/

/-- The members of an object, as a reader tells them. -/
def Json.told : Json → List (Option String × Document)
  | .object members => memberDocuments members
  | _ => []

/-- The written form of a value is decoded as the value, and so is every object and every text that
retells it. -/
structure RoundTrips {α : Type} (shape : Shape) (decode : Decoder α) (j : Json) (a : α) : Prop where
  written : Json.decode decode j.write = .ok a
  rewritten : ∀ members : List (String × Json), MembersFit members →
    shape.Retells j.told (memberDocuments members) →
    Json.decode decode (Json.object members).write = .ok a
  retold : ∀ text members, Json.read text = (.mapping members true, true) →
    shape.Retells j.told members → Json.decode decode text = .ok a

/-- The decoder reads the field off the value that it is written with. -/
def ReadsAs {α : Type} (members : List (String × Json)) (name : String) (dec : Decoder α) (a : α) :
    Prop :=
  dec ((Json.object members).document.member name) = .ok a

theorem map_fst_memberDocuments (members : List (String × Json)) :
    (memberDocuments members).map (·.1) = (members.map (·.1)).map some := by
  induction members with
  | nil => rfl
  | cons m members ih =>
    simp only [memberDocuments, List.map_cons, ih]

section Fields

variable {α : Type} {shape : Shape} {members : List (String × Json)} {name : String}

theorem ReadsAs.fault? {dec : Decoder α} {a : α} {presence : Presence}
    (h : ReadsAs members name dec a) :
    (Field.of name dec presence).fault? ((Json.object members).document.member name) = none := by
  rw [ReadsAs] at h
  simp only [Field.of, Decoder.fault?, h]

/-- A record round-trips when it is written with all of its fields, in order, and its decoder builds
it from what they are written with. -/
theorem RoundTrips.of_fields {build : Found → Except Fault α} {a : α} (surplus : Surplus)
    (hnames : shape.HasDistinctNames) (hkeys : members.map (·.1) = shape.fields.map Field.name)
    (hfit : MembersFit members)
    (hflawless : ∀ f ∈ shape.fields,
      f.fault? ((Json.object members).document.member f.name) = none)
    (hbuild : ∀ found : Found,
      (∀ {β : Type} {name : String} {dec : Decoder β} {b : β}, (shape.field? name).isSome →
        ReadsAs members name dec b → found.get name dec = .ok b) → build found = .ok a) :
    RoundTrips shape (fun d => shape.read surplus d >>= build) (.object members) a := by
  have hkeys' : (memberDocuments members).map (·.1) = shape.fields.map fun f => some f.name := by
    rw [map_fst_memberDocuments, hkeys, List.map_map]
    rfl
  have hretold : ∀ text members', Json.read text = (.mapping members' true, true) →
      shape.Retells (memberDocuments members) members' →
      Json.decode (fun d => shape.read surplus d >>= build) text = .ok a := by
    intro text members' htext hretells
    have htells := (Shape.tells_members hnames hkeys' true).retells hretells
    obtain ⟨found, hread, hget⟩ := Shape.exists_read_of_tells hnames htells hflawless surplus
    have hbuilt : build found = .ok a := hbuild found fun hname h => (hget _ _ hname).trans h
    simp only [Json.decode, htext, hread, bind, Except.bind, hbuilt, if_true]
  refine ⟨hretold _ _ (Json.read_write hfit) .same, fun members' hfit' => ?_, hretold⟩
  exact hretold _ _ (Json.read_write (j := .object members') hfit')

end Fields

/-! ## The entities -/

theorem FitsInt64.fits {i : Int} (h : FitsInt64 i) : Fits (.integer i) := by
  obtain ⟨hlow, hhigh⟩ := h
  refine ⟨hlow, Int.le_trans hhigh (by decide)⟩

theorem Json.fits_ofText? (s : Option String) : Fits (Json.ofText? s) := by
  cases s <;> exact trivial

theorem Sim.roundTrips {s : Sim} (hid : FitsInt64 s.id) (hregistry : FitsInt64 s.registryId)
    (hvendor : FitsInt64 s.vendorId) (hbatch : FitsInt64 s.batchId) :
    RoundTrips shape decode s.json s := by
  let members := s.members Rfc3339.write
  have hid' : ReadsAs members "id" Decode.int64 s.id := Decode.int64_integer hid
  have hiccid : ReadsAs members "iccid" Decode.string s.iccid := rfl
  have himsi : ReadsAs members "imsi" Decode.string s.imsi := rfl
  have hmsisdn : ReadsAs members "msisdn" (Decode.option Decode.string) s.msisdn :=
    Decode.option_string_ofText? s.msisdn
  have heid : ReadsAs members "eid" (Decode.option Decode.string) s.eid :=
    Decode.option_string_ofText? s.eid
  have hprofile : ReadsAs members "profile_type" Decode.string s.profileType := rfl
  have hregistry' : ReadsAs members "registry_id" Decode.int64 s.registryId :=
    Decode.int64_integer hregistry
  have hvendor' : ReadsAs members "vendor_id" Decode.int64 s.vendorId :=
    Decode.int64_integer hvendor
  have hbatch' : ReadsAs members "batch_id" Decode.int64 s.batchId := Decode.int64_integer hbatch
  have hregistryState : ReadsAs members "registry_state" Decode.worded s.registryState :=
    Decode.worded_word s.registryState.ofWord?_word
  have hvendorState : ReadsAs members "vendor_state" Decode.worded s.vendorState :=
    Decode.worded_word s.vendorState.ofWord?_word
  have hprovisionState : ReadsAs members "provision_state" Decode.worded s.provisionState :=
    Decode.worded_word s.provisionState.ofWord?_word
  have hmatching : ReadsAs members "matching_id" (Decode.option Decode.string) s.matchingId :=
    Decode.option_string_ofText? s.matchingId
  have hsuspended :
      ReadsAs members "suspended_at" (Decode.option Decode.timestamp) s.suspendedAt :=
    Decode.option_timestamp_write s.suspendedAt
  refine RoundTrips.of_fields .refused (by unfold Shape.HasDistinctNames; decide) rfl
    ⟨hid.fits, trivial, trivial, fits_ofText? _, fits_ofText? _, trivial, hregistry.fits,
      hvendor.fits, hbatch.fits, trivial, trivial, trivial, fits_ofText? _, fits_ofText? _,
      trivial⟩ ?flawless ?build
  case flawless =>
    simp only [shape, List.forall_mem_cons]
    exact ⟨hid'.fault?, hiccid.fault?, himsi.fault?, hmsisdn.fault?, heid.fault?, hprofile.fault?,
      hregistry'.fault?, hvendor'.fault?, hbatch'.fault?, hregistryState.fault?,
      hvendorState.fault?, hprovisionState.fault?, hmatching.fault?, hsuspended.fault?, nofun⟩
  case build =>
    intro found hget
    rw [hget rfl hid', hget rfl hiccid, hget rfl himsi, hget rfl hmsisdn, hget rfl heid,
      hget rfl hprofile, hget rfl hregistry', hget rfl hvendor', hget rfl hbatch',
      hget rfl hregistryState, hget rfl hvendorState, hget rfl hprovisionState,
      hget rfl hmatching, hget rfl hsuspended]
    rfl

theorem Batch.roundTrips {b : Batch} (hid : FitsInt64 b.id) (hregistry : FitsInt64 b.registryId)
    (hvendor : FitsInt64 b.vendorId) (hsize : FitsInt64 b.size) :
    RoundTrips shape decode b.json b := by
  let members : List (String × Json) := [
    ("id", .integer b.id), ("importer", .text b.importer), ("registry_id", .integer b.registryId),
    ("vendor_id", .integer b.vendorId), ("size", .integer b.size), ("status", .text b.status.word),
    ("started_at", .text (Rfc3339.write b.startedAt)),
    ("ended_at", .ofText? (b.endedAt.map Rfc3339.write))]
  have hid' : ReadsAs members "id" Decode.int64 b.id := Decode.int64_integer hid
  have himporter : ReadsAs members "importer" Decode.string b.importer := rfl
  have hregistry' : ReadsAs members "registry_id" Decode.int64 b.registryId :=
    Decode.int64_integer hregistry
  have hvendor' : ReadsAs members "vendor_id" Decode.int64 b.vendorId :=
    Decode.int64_integer hvendor
  have hsize' : ReadsAs members "size" Decode.int64 b.size := Decode.int64_integer hsize
  have hstatus : ReadsAs members "status" Decode.worded b.status :=
    Decode.worded_word b.status.ofWord?_word
  have hstarted : ReadsAs members "started_at" Decode.timestamp b.startedAt :=
    Decode.timestamp_write b.startedAt
  have hended : ReadsAs members "ended_at" (Decode.option Decode.timestamp) b.endedAt :=
    Decode.option_timestamp_write b.endedAt
  refine RoundTrips.of_fields .refused (by unfold Shape.HasDistinctNames; decide) rfl
    ⟨hid.fits, trivial, hregistry.fits, hvendor.fits, hsize.fits, trivial, trivial,
      fits_ofText? _, trivial⟩ ?flawless ?build
  case flawless =>
    simp only [shape, List.forall_mem_cons]
    exact ⟨hid'.fault?, himporter.fault?, hregistry'.fault?, hvendor'.fault?, hsize'.fault?,
      hstatus.fault?, hstarted.fault?, hended.fault?, nofun⟩
  case build =>
    intro found hget
    rw [hget rfl hid', hget rfl himporter, hget rfl hregistry', hget rfl hvendor',
      hget rfl hsize', hget rfl hstatus, hget rfl hstarted, hget rfl hended]
    rfl

theorem Entry.roundTrips {e : Entry} (hid : FitsInt64 e.id) :
    RoundTrips shape decode e.json e := by
  let members : List (String × Json) := [("id", .integer e.id), ("name", .text e.name)]
  have hid' : ReadsAs members "id" Decode.int64 e.id := Decode.int64_integer hid
  have hname : ReadsAs members "name" Decode.string e.name := rfl
  refine RoundTrips.of_fields .refused (by unfold Shape.HasDistinctNames; decide) rfl
    ⟨hid.fits, trivial, trivial⟩ ?flawless ?build
  case flawless =>
    simp only [shape, List.forall_mem_cons]
    exact ⟨hid'.fault?, hname.fault?, nofun⟩
  case build =>
    intro found hget
    rw [hget rfl hid', hget rfl hname]
    rfl

theorem Permission.roundTrips {p : Permission} (hvendor : FitsInt64 p.vendorId)
    (hregistry : FitsInt64 p.registryId) : RoundTrips shape decode p.json p := by
  let members : List (String × Json) :=
    [("vendor_id", .integer p.vendorId), ("registry_id", .integer p.registryId)]
  have hvendor' : ReadsAs members "vendor_id" Decode.int64 p.vendorId :=
    Decode.int64_integer hvendor
  have hregistry' : ReadsAs members "registry_id" Decode.int64 p.registryId :=
    Decode.int64_integer hregistry
  refine RoundTrips.of_fields .refused (by unfold Shape.HasDistinctNames; decide) rfl
    ⟨hvendor.fits, hregistry.fits, trivial⟩ ?flawless ?build
  case flawless =>
    simp only [shape, List.forall_mem_cons]
    exact ⟨hvendor'.fault?, hregistry'.fault?, nofun⟩
  case build =>
    intro found hget
    rw [hget rfl hvendor', hget rfl hregistry']
    rfl

/-- Every entity is decoded from what it is written as, and from whatever retells that. -/
theorem entities_roundTrip :
    (∀ s : Sim, FitsInt64 s.id → FitsInt64 s.registryId → FitsInt64 s.vendorId →
      FitsInt64 s.batchId → RoundTrips Sim.shape Sim.decode s.json s) ∧
    (∀ b : Batch, FitsInt64 b.id → FitsInt64 b.registryId → FitsInt64 b.vendorId →
      FitsInt64 b.size → RoundTrips Batch.shape Batch.decode b.json b) ∧
    (∀ e : Entry, FitsInt64 e.id → RoundTrips Entry.shape Entry.decode e.json e) ∧
    ∀ p : Permission, FitsInt64 p.vendorId → FitsInt64 p.registryId →
      RoundTrips Permission.shape Permission.decode p.json p :=
  ⟨fun _ => Sim.roundTrips, fun _ => Batch.roundTrips, fun _ => Entry.roundTrips,
    fun _ => Permission.roundTrips⟩

/-- An open batch, told in the reverse order, without the null for its end and with a remark. -/
theorem decode_reversed_batch :
    (FitsInt64 minId ∧ FitsInt64 3 ∧ FitsInt64 maxId ∧ FitsInt64 0) ∧
    Json.decode Batch.decode
      (Json.object [("started_at", .text "2024-02-29T23:59:60.000000001Z"),
        ("status", .text "STARTED"), ("size", .integer 0), ("vendor_id", .integer maxId),
        ("registry_id", .integer 3), ("importer", .text "a\"\\\n\x01\u00e9"),
        ("id", .integer minId), ("remark", .array [.null, .object [("id", .integer 1)]])]).write =
      .ok ⟨minId, "a\"\\\n\x01\u00e9", 3, maxId, 0, .started,
        ⟨⟨2024, 2, 29, by decide⟩, ⟨23, 59, 60, 1, by decide⟩⟩, none⟩ := by
  have hids : FitsInt64 minId ∧ FitsInt64 3 ∧ FitsInt64 maxId ∧ FitsInt64 0 := by
    unfold FitsInt64
    decide
  let b : Batch := ⟨minId, "a\"\\\n\x01\u00e9", 3, maxId, 0, .started,
    ⟨⟨2024, 2, 29, by decide⟩, ⟨23, 59, 60, 1, by decide⟩⟩, none⟩
  have hclock : Rfc3339.write b.startedAt = "2024-02-29T23:59:60.000000001Z" := by decide
  have hround := entities_roundTrip.2.1 b hids.1 hids.2.1 hids.2.2.1 hids.2.2.2
  refine ⟨hids, hround.rewritten _ ?fits ?retells⟩
  case fits =>
    simp only [MembersFit, Fits, AllFit]
    decide
  case retells =>
    rw [← hclock]
    have homitted : Batch.shape.Retells b.json.told (b.json.told.take 7 ++ []) :=
      .omitted .same rfl rfl
    have hadded : Batch.shape.Retells b.json.told
        ((some "remark", (Json.array [.null, .object [("id", .integer 1)]]).document) ::
          (b.json.told.take 7 ++ [])) := homitted.added rfl rfl
    exact hadded.permuted (List.reverse_perm _).symm

end SimDepot
