import SimDepot.Batch.Basic
import SimDepot.Document.Record
import SimDepot.Json.Basic

/-!
# Import batches as JSON

A batch is an object with all of its fields; the time of closing is null while the batch is open.
-/

namespace SimDepot.Batch

/-- The fields of a batch. -/
def shape : Shape where
  title := "Model"
  fields := [
    .of "id" Decode.int64,
    .of "importer" Decode.string,
    .of "registry_id" Decode.int64,
    .of "vendor_id" Decode.int64,
    .of "size" Decode.int64,
    .of "status" (Decode.worded (α := BatchStatus)),
    .of "started_at" Decode.timestamp,
    .of "ended_at" (Decode.option Decode.timestamp) .nullable]

/-- The JSON form of a batch; `clock` writes the times. -/
def jsonWith (clock : Timestamp → String) (b : Batch) : Json :=
  .object [
    ("id", .integer b.id),
    ("importer", .text b.importer),
    ("registry_id", .integer b.registryId),
    ("vendor_id", .integer b.vendorId),
    ("size", .integer b.size),
    ("status", .text b.status.word),
    ("started_at", .text (clock b.startedAt)),
    ("ended_at", .ofText? (b.endedAt.map clock))]

/-- The JSON form of a batch. -/
def json (b : Batch) : Json := b.jsonWith Rfc3339.write

/-- The batch that a document describes. -/
def decode : Decoder Batch := fun d => do
  let found ← shape.read .refused d
  return {
    id := ← found.get "id" Decode.int64
    importer := ← found.get "importer" Decode.string
    registryId := ← found.get "registry_id" Decode.int64
    vendorId := ← found.get "vendor_id" Decode.int64
    size := ← found.get "size" Decode.int64
    status := ← found.get "status" Decode.worded
    startedAt := ← found.get "started_at" Decode.timestamp
    endedAt := ← found.get "ended_at" (Decode.option Decode.timestamp) }

end SimDepot.Batch
