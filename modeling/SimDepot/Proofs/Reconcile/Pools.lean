import SimDepot.Proofs.Reconcile.Supply
import SimDepot.Proofs.Text.Order

/-!
# The pools of a store

A pass lists the registries, and then for each the profile types of its SIMs. Where the registry of
every SIM exists, these are the pools that have a SIM, each once, in ascending order.
-/

namespace SimDepot

/-- The order of pools: by registry, and within a registry by the bytes of the profile type. -/
def Pool.Precedes (a b : Pool) : Prop :=
  a.registry < b.registry ∨ a.registry = b.registry ∧ Text.bytes a.profile < Text.bytes b.profile

namespace Store

variable {s : Store} {pool : Pool} {registry : RegistryId}

/-- The pools of a registry, in the order of profile types. -/
def poolsOf (s : Store) (registry : RegistryId) : List Pool :=
  (Query.eval s (.profileTypes registry)).map fun profile => ⟨registry, profile⟩

/-- All pools, in the order of registries and profile types. -/
def pools (s : Store) : List Pool := s.registries.rows.flatMap fun entry => s.poolsOf entry.id

theorem mem_poolsOf : pool ∈ s.poolsOf registry ↔
    pool.registry = registry ∧ ∃ r ∈ s.sims.rows, r.pool = pool := by
  obtain ⟨registry', profile⟩ := pool
  simp only [poolsOf, Query.eval, List.mem_map, Text.mem_distinctNames, Table.select,
    List.mem_filter, beq_iff_eq, Pool.mk.injEq]
  constructor
  · rintro ⟨_, ⟨r, ⟨hr, rfl⟩, rfl⟩, rfl, rfl⟩
    exact ⟨rfl, r, hr, rfl⟩
  · rintro ⟨rfl, r, hr, hpool⟩
    cases hpool
    exact ⟨_, ⟨r, ⟨hr, rfl⟩, rfl⟩, rfl, rfl⟩

theorem pairwise_poolsOf : (s.poolsOf registry).Pairwise Pool.Precedes :=
  List.pairwise_map.2 ((Text.pairwise_distinctNames _).imp fun hlt => .inr ⟨rfl, hlt⟩)

/-- Where registries of SIMs exist, the pools are those that have a SIM. -/
theorem mem_pools (hs : s.Referential) :
    pool ∈ s.pools ↔ ∃ r ∈ s.sims.rows, r.pool = pool := by
  simp only [pools, List.mem_flatMap, mem_poolsOf]
  constructor
  · rintro ⟨_, _, _, hsim⟩
    exact hsim
  · rintro ⟨r, hr, rfl⟩
    have hrefs := hs.sim r hr
    simp only [hasReferences, Bool.and_eq_true] at hrefs
    obtain ⟨entry, hentry⟩ := Option.isSome_iff_exists.1 hrefs.1.1
    obtain ⟨hmem, hid⟩ := Table.withId?_eq_some_iff.1 hentry
    exact ⟨entry, hmem, hid.symm, r, hr, rfl⟩

theorem pairwise_pools (s : Store) : s.pools.Pairwise Pool.Precedes := by
  refine List.pairwise_flatMap.2 ⟨fun entry _ => pairwise_poolsOf, s.registries.sorted.imp ?_⟩
  intro entry entry' hlt a ha b hb
  left
  rw [(mem_poolsOf.1 ha).1, (mem_poolsOf.1 hb).1]
  exact hlt

theorem nodup_pools (s : Store) : s.pools.Nodup := by
  refine s.pairwise_pools.imp ?_
  rintro a b (hlt | ⟨-, hlt⟩) rfl
  · exact lt_irrefl _ hlt
  · exact List.lt_irrefl _ hlt

/-! ### Pools after calls -/

/-- Calls of vendor services leave the profile types as they are. -/
theorem eval_profileTypes_supplyAll (s : Store) (calls : List ReleaseCall) (registry : RegistryId) :
    Query.eval (s.supplyAll calls) (.profileTypes registry) =
      Query.eval s (.profileTypes registry) := by
  have hregistry : ∀ r, (ReleaseCall.applyAll calls r).registryId = r.registryId := fun r =>
    congrArg Pool.registry (ReleaseCall.pool_applyAll calls r)
  have hprofile : ∀ r, (ReleaseCall.applyAll calls r).profileType = r.profileType := fun r =>
    congrArg Pool.profile (ReleaseCall.pool_applyAll calls r)
  show Text.distinctNames (((s.sims.rows.map (ReleaseCall.applyAll calls)).filter
    fun sim => sim.registryId == registry).map (·.profileType)) = _
  rw [List.filter_map, List.map_map]
  refine congrArg Text.distinctNames ?_
  have hfilter : ((fun sim : Sim => sim.registryId == registry) ∘ ReleaseCall.applyAll calls) =
      fun sim : Sim => sim.registryId == registry := funext fun r => by
    rw [Function.comp_apply, hregistry]
  rw [hfilter]
  exact List.map_congr_left fun r _ => hprofile r

theorem poolsOf_supplyAll (s : Store) (calls : List ReleaseCall) (registry : RegistryId) :
    (s.supplyAll calls).poolsOf registry = s.poolsOf registry := by
  rw [poolsOf, eval_profileTypes_supplyAll, poolsOf]

end Store

end SimDepot
