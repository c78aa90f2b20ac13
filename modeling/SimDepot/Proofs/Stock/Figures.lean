import SimDepot.Proofs.Session.Alone
import SimDepot.Stock.Figures

/-!
# Figures of a pool, SIM by SIM

The store counts the SIMs of a pool by two axes at once, and the figures are put together from the
groups that are not empty. `PoolFigures.ofGroups_groups` says that this counts every SIM where it
belongs: raw stock whether it is claimed or not, released SIMs by whether they are claimed. So the
last three figures always add up to the first one.
-/

namespace SimDepot

/-- Released and claimed. -/
def SimData.isTaken (s : SimData) : Bool :=
  s.vendorState == .released && s.provisionState == .provisioned

/-- The SIMs of a pool, in the order of identities. -/
def Store.rowsOf (s : Store) (pool : Pool) : List Sim := s.sims.select fun sim => sim.pool == pool

theorem Store.mem_rowsOf {s : Store} {pool : Pool} {r : Sim} :
    r ∈ s.rowsOf pool ↔ r ∈ s.sims.rows ∧ r.pool = pool := by
  simp [rowsOf, Table.select]

theorem Store.pairwise_rowsOf (s : Store) (pool : Pool) :
    (s.rowsOf pool).Pairwise fun a b => a.id < b.id := s.sims.sorted.filter _

namespace PoolFigures

/-- The figures of a list of SIMs. -/
def ofSims (sims : List Sim) : PoolFigures where
  total := sims.length
  raw := sims.countP fun r => r.isRaw
  ready := sims.countP fun r => r.isReady
  claimed := sims.countP fun r => r.isTaken

/-- An empty group adds nothing. -/
theorem add_of_count_eq_zero {f : PoolFigures} {g : PoolGroup} (h : g.count = 0) : f.add g = f := by
  obtain ⟨vendor, provision, count⟩ := g
  cases vendor <;> cases provision <;> simp_all [add]

/-- Whether empty groups are left out does not count. -/
theorem ofGroups_filter (groups : List PoolGroup) :
    ofGroups (groups.filter fun g => g.count != 0) = ofGroups groups := by
  unfold ofGroups
  generalize zero = f
  induction groups generalizing f with
  | nil => rfl
  | cons g rest ih =>
    by_cases hcount : g.count = 0
    · simp [hcount, add_of_count_eq_zero hcount, ih]
    · simp [hcount, ih]

/-- Every SIM is of one of three kinds. -/
theorem total_ofSims (sims : List Sim) :
    (ofSims sims).total = (ofSims sims).raw + (ofSims sims).ready + (ofSims sims).claimed := by
  simp only [ofSims]
  induction sims with
  | nil => rfl
  | cons r rest ih =>
    have hkind : (if r.isRaw then 1 else 0) + (if r.isReady then 1 else 0) +
        (if r.isTaken then 1 else 0) = 1 := by
      cases hvendor : r.vendorState <;> cases hprovision : r.provisionState <;>
        simp [SimData.isRaw, SimData.isReady, SimData.isTaken, hvendor, hprovision]
    simp only [List.length_cons, List.countP_cons]
    omega

/-- The groups of a list of SIMs have the figures of the list. -/
theorem ofGroups_groups (sims : List Sim) : ofGroups (Query.groups sims) = ofSims sims := by
  rw [Query.groups, ofGroups_filter, ofGroups, ofSims]
  induction sims with
  | nil => rfl
  | cons r rest ih =>
    cases hvendor : r.vendorState <;> cases hprovision : r.provisionState <;>
      simp_all [Query.axes, add, zero, SimData.isRaw, SimData.isReady, SimData.isTaken] <;> omega

end PoolFigures

/-- The figures of a pool. -/
def Store.figures (s : Store) (pool : Pool) : PoolFigures := .ofSims (s.rowsOf pool)

/-- Every SIM of a pool is of one of three kinds. -/
theorem Store.total_figures (s : Store) (pool : Pool) : (s.figures pool).total =
    (s.figures pool).raw + (s.figures pool).ready + (s.figures pool).claimed :=
  PoolFigures.total_ofSims _

/-- A question for the figures of a pool. -/
theorem eval_poolGroups (s : Store) (pool : Pool) :
    PoolFigures.ofGroups (Query.eval s (.poolGroups pool)) = s.figures pool :=
  PoolFigures.ofGroups_groups _

open SimDepot.Action in
/-- Reading the figures of a pool counts its SIMs and changes nothing. -/
theorem PoolFigures.alone_read {s : Store} {pool : Pool}
    {post : Except Error PoolFigures → Standing → Store → Prop}
    (h : post (.ok (s.figures pool)) .outside s) :
    Action.Alone post (PoolFigures.read pool) .outside s := by
  refine alone_bind (Action.alone_read (alone_pure ?_))
  rw [Standing.view_outside, eval_poolGroups]
  exact h

end SimDepot
