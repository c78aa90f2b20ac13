import SimDepot.Document.Record
import SimDepot.Settings.Basic

/-!
# Settings as documents

The four sections may each be left out, and so may the timeouts and the numbers that tune
reconciliation.
-/

namespace SimDepot

namespace RegistrySettings

/-- The fields of a registry. -/
def shape : Shape where
  title := "RegistryConfig"
  fields := [
    .of "name" Decode.string,
    .of "endpoint" Decode.string,
    .of "api_key" Decode.string,
    .of "user_id" Decode.string,
    .of "timeout_secs" Decode.uint64 .defaulted]

/-- The registry that a document describes. -/
def decode (surplus : Surplus) : Decoder RegistrySettings := fun d => do
  let found ← shape.read surplus d
  return {
    name := ← found.get "name" Decode.string
    endpoint := ← found.get "endpoint" Decode.string
    apiKey := ← found.get "api_key" Decode.string
    userId := ← found.get "user_id" Decode.string
    timeoutSecs := ← found.getD "timeout_secs" Decode.uint64 defaultTimeoutSecs }

end RegistrySettings

namespace VendorSettings

/-- The fields of a vendor. -/
def shape : Shape where
  title := "ProfileVendorConfig"
  fields := [
    .of "name" Decode.string,
    .of "es2plus_endpoint" Decode.string,
    .of "activation_host" Decode.string,
    .of "requester_id" Decode.string,
    .of "timeout_secs" Decode.uint64 .defaulted]

/-- The vendor that a document describes. -/
def decode (surplus : Surplus) : Decoder VendorSettings := fun d => do
  let found ← shape.read surplus d
  return {
    name := ← found.get "name" Decode.string
    endpoint := ← found.get "es2plus_endpoint" Decode.string
    activationHost := ← found.get "activation_host" Decode.string
    requesterId := ← found.get "requester_id" Decode.string
    timeoutSecs := ← found.getD "timeout_secs" Decode.uint64 defaultTimeoutSecs }

end VendorSettings

namespace PermissionSettings

/-- The fields of a permission. -/
def shape : Shape where
  title := "PermissionConfig"
  fields := [.of "vendor" Decode.string, .of "registry" Decode.string]

/-- The permission that a document describes. -/
def decode (surplus : Surplus) : Decoder PermissionSettings := fun d => do
  let found ← shape.read surplus d
  return {
    vendor := ← found.get "vendor" Decode.string
    registry := ← found.get "registry" Decode.string }

end PermissionSettings

namespace Tuning

/-- The fields of the tuning. -/
def shape : Shape where
  title := "ReconciliationConfig"
  fields := [
    .of "interval_secs" Decode.uint64 .defaulted,
    .of "low_water_mark" Decode.uint64 .defaulted,
    .of "max_to_allocate" Decode.uint64 .defaulted]

/-- The tuning that a document describes. -/
def decode (surplus : Surplus) : Decoder Tuning := fun d => do
  let found ← shape.read surplus d
  return {
    intervalSecs := ← found.getD "interval_secs" Decode.uint64 default.intervalSecs
    lowWaterMark := ← found.getD "low_water_mark" Decode.uint64 default.lowWaterMark
    maxToAllocate := ← found.getD "max_to_allocate" Decode.uint64 default.maxToAllocate }

end Tuning

namespace Settings

/-- The sections of settings. -/
def shape : Shape where
  title := "Settings"
  fields := [
    .of "registries" (Decode.list (RegistrySettings.decode .ignored)) .defaulted,
    .of "profile_vendors" (Decode.list (VendorSettings.decode .ignored)) .defaulted,
    .of "permissions" (Decode.list (PermissionSettings.decode .ignored)) .defaulted,
    .of "reconciliation" (Tuning.decode .ignored) .defaulted]

/-- The settings that a document describes. -/
def decode : Decoder Settings := fun d => do
  let found ← shape.read .ignored d
  return {
    registries := ← found.getD "registries" (Decode.list (RegistrySettings.decode .ignored)) []
    vendors := ← found.getD "profile_vendors" (Decode.list (VendorSettings.decode .ignored)) []
    permissions :=
      ← found.getD "permissions" (Decode.list (PermissionSettings.decode .ignored)) []
    tuning := ← found.getD "reconciliation" (Tuning.decode .ignored) .default }

end Settings

end SimDepot
