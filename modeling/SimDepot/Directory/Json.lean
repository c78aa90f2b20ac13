import SimDepot.Directory.Basic
import SimDepot.Document.Record
import SimDepot.Json.Basic

/-!
# Entries and permissions as JSON

An entry is an object with its identity and its name, a permission one with the two identities.
-/

namespace SimDepot

namespace Entry

/-- The fields of an entry. -/
def shape : Shape where
  title := "Model"
  fields := [.of "id" Decode.int64, .of "name" Decode.string]

/-- The JSON form of an entry. -/
def json (e : Entry) : Json :=
  .object [("id", .integer e.id), ("name", .text e.name)]

/-- The entry that a document describes. -/
def decode : Decoder Entry := fun d => do
  let found ← shape.read .refused d
  return { id := ← found.get "id" Decode.int64, name := ← found.get "name" Decode.string }

end Entry

namespace Permission

/-- The fields of a permission. -/
def shape : Shape where
  title := "Model"
  fields := [.of "vendor_id" Decode.int64, .of "registry_id" Decode.int64]

/-- The JSON form of a permission. -/
def json (p : Permission) : Json :=
  .object [("vendor_id", .integer p.vendorId), ("registry_id", .integer p.registryId)]

/-- The permission that a document describes. -/
def decode : Decoder Permission := fun d => do
  let found ← shape.read .refused d
  return {
    vendorId := ← found.get "vendor_id" Decode.int64
    registryId := ← found.get "registry_id" Decode.int64 }

end Permission

end SimDepot
