import SimDepot.Document.Record
import SimDepot.Error.Cause
import SimDepot.Json.Text
import SimDepot.Text.Blank

/-!
# Records of a feed

A feed lists SIMs to import, one record each. `FeedRecord.blankField?` finds what keeps a record
from being imported: the first of its fields that may not be blank and is.

Reference: `validate`.
-/

namespace SimDepot

/-- One SIM of a feed. -/
structure FeedRecord where
  /-- Number of the card. -/
  iccid : String
  /-- Identity of the subscriber. -/
  imsi : String
  /-- Number of the subscriber, if the feed assigns one. -/
  msisdn : Option String
  /-- Name of the profile type. -/
  profileType : String
  deriving DecidableEq, Repr

namespace FeedRecord

/-- The fields of a record. -/
def shape : Shape where
  title := "SimRecord"
  fields := [
    .of "iccid" Decode.string,
    .of "imsi" Decode.string,
    .of "msisdn" (Decode.option Decode.string) .defaulted,
    .of "profile_type" Decode.string]

/-- The record that a document describes. -/
def decode (surplus : Surplus) : Decoder FeedRecord := fun d => do
  let found ← shape.read surplus d
  return {
    iccid := ← found.get "iccid" Decode.string
    imsi := ← found.get "imsi" Decode.string
    msisdn := ← found.getD "msisdn" (Decode.option Decode.string) none
    profileType := ← found.get "profile_type" Decode.string }

/-- The records that a text describes. -/
def decodeText (s : String) : Except Fault (List FeedRecord) :=
  Json.decode (Decode.list (decode .malformed)) s

/-- The first field that may not be blank and is. -/
def blankField? (r : FeedRecord) : Option RecordField :=
  if Text.isBlank r.iccid then some .iccid
  else if Text.isBlank r.imsi then some .imsi
  else if Text.isBlank r.profileType then some .profileType
  else none

end FeedRecord

end SimDepot
