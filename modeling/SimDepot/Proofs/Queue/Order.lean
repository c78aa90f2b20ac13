import SimDepot.Proofs.Lifecycle.OneWay
import SimDepot.Proofs.Store.Gain

/-!
# The order of a pool

SIMs come to a pool under ascending identities, and both the vendor and the callers take them in
this order: what is released of a pool is a beginning of it, and so is what is claimed. The
discipline `inOrder` says so, and that each of these lists only ever goes on where it ended.

A SIM may be released or claimed only when all before it were. `Store.IsNext` is this condition; it
lasts, so whoever made sure of it once may act on it at any later time.
-/

namespace SimDepot

/-- How far a SIM has come in its pool. -/
inductive Stage
  /-- It is stored. -/
  | stored
  /-- The vendor has released it. -/
  | released
  /-- It is claimed. -/
  | claimed
  deriving DecidableEq

/-- A SIM has come to the stage. -/
def Stage.isReachedBy (s : SimData) : Stage → Bool
  | stored => true
  | released => s.vendorState == .released
  | claimed => s.provisionState == .provisioned

/-- The SIM is one of a pool and has come to the stage. -/
def Stage.holds (stage : Stage) (pool : Pool) (r : Sim) : Bool :=
  r.pool == pool && stage.isReachedBy r.toSimData

/-- The change brings a SIM to the stage. -/
def SimChange.reaches : SimChange → Stage → Bool
  | release _, .released | claim, .claimed => true
  | _, _ => false

namespace Stage

variable {stage : Stage} {pool : Pool} {r : Sim} {change : SimChange}

theorem holds_iff : stage.holds pool r ↔ r.pool = pool ∧ stage.isReachedBy r.toSimData := by
  simp [holds]

theorem holds_stored_iff : stored.holds pool r ↔ r.pool = pool := by
  simp [holds, isReachedBy]

/-- A change that takes nothing back brings a SIM to no other stage than its own. -/
theorem isReachedBy_apply (s : SimData) (hforward : change.isForward) :
    stage.isReachedBy (change.apply s) = (stage.isReachedBy s || change.reaches stage) := by
  cases change with
  | setRegistryState state =>
    cases state with
    | notActivated => cases hforward
    | activated => exact (Bool.or_false _).symm
  | setVendorState _ | setProvisionState _ => cases hforward
  | _ => cases stage <;> simp [isReachedBy, SimChange.reaches, SimChange.apply]

theorem holds_change (hforward : change.isForward) :
    stage.holds pool (r.change change) =
      (stage.holds pool r || (r.pool == pool && change.reaches stage)) := by
  unfold holds
  rw [Sim.toSimData_change, SimChange.pool_apply, isReachedBy_apply _ hforward,
    Bool.and_or_distrib_left]

end Stage

namespace Store

variable {s s' : Store} {pool : Pool} {stage : Stage} {id id' : SimId} {change : SimChange}

/-- The SIM with the identity `id` is one of a pool, and all of the pool before it have come to a
stage. -/
structure IsNext (s : Store) (pool : Pool) (stage : Stage) (id : SimId) : Prop where
  /-- It is one of the pool. -/
  mem : id ∈ s.idsWhere (Stage.stored.holds pool)
  /-- Those before it have come to the stage. -/
  before : ∀ id' ∈ s.idsWhere (Stage.stored.holds pool), id' < id →
    id' ∈ s.idsWhere (stage.holds pool)

/-- An identity is in one pool only. -/
theorem pool_unique {pool' : Pool} (h : id ∈ s.idsWhere (Stage.stored.holds pool))
    (h' : id ∈ s.idsWhere (Stage.stored.holds pool')) : pool = pool' := by
  obtain ⟨r, hr, hpool, rfl⟩ := mem_idsWhere.1 h
  have hpool' := (id_mem_idsWhere hr).1 h'
  exact (Stage.holds_stored_iff.1 hpool).symm.trans (Stage.holds_stored_iff.1 hpool')

/-- What has come to a stage after a change had come to it before, or the change brought it. -/
theorem mem_of_mem_changeSim (hforward : change.isForward)
    (h : id' ∈ (s.changeSim id change).1.idsWhere (stage.holds pool)) :
    id' ∈ s.idsWhere (stage.holds pool) ∨
      change.reaches stage ∧ id' = id ∧ id' ∈ s.idsWhere (Stage.stored.holds pool) := by
  obtain ⟨r, hr, rfl, hholds⟩ := mem_idsWhere_changeSim.1 h
  split at hholds
  next hchange =>
    rw [Stage.holds_change hforward, Bool.or_eq_true, Bool.and_eq_true] at hholds
    rcases hholds with hholds | ⟨hpool, hreaches⟩
    · exact .inl ((id_mem_idsWhere hr).2 hholds)
    · refine .inr ⟨hreaches, hchange.1, (id_mem_idsWhere hr).2 (Stage.holds_stored_iff.2 ?_)⟩
      exact beq_iff_eq.1 hpool
  next => exact .inl ((id_mem_idsWhere hr).2 hholds)

/-- What has come to a stage stays there. -/
theorem subset_changeSim (hforward : change.isForward) :
    s.idsWhere (stage.holds pool) ⊆ (s.changeSim id change).1.idsWhere (stage.holds pool) := by
  intro id' h
  obtain ⟨r, hr, hholds, rfl⟩ := mem_idsWhere.1 h
  refine mem_idsWhere_changeSim.2 ⟨r, hr, rfl, ?_⟩
  split
  · rw [Stage.holds_change hforward, hholds, Bool.true_or]
  · exact hholds

/-- A change leaves every pool the SIMs it has. -/
theorem stored_changeSim (s : Store) (id : SimId) (change : SimChange) (pool : Pool) :
    (s.changeSim id change).1.idsWhere (Stage.stored.holds pool) =
      s.idsWhere (Stage.stored.holds pool) := by
  refine idsWhere_changeSim fun r => ?_
  simp [Stage.holds, Stage.isReachedBy]

/-- New SIMs that are as imports store them come to the end of their pools, and to no later
stage. -/
theorem idsWhere_addSims {drafts : List SimDraft} (hfresh : ∀ d ∈ drafts, d.IsFresh)
    (h : s.addSims drafts = .ok s') (hstage : stage ≠ .stored) :
    s'.idsWhere (stage.holds pool) = s.idsWhere (stage.holds pool) := by
  have hgrown := grown_of_addSims (fun d hd => (hfresh d hd).id?) h
  rw [hgrown.idsWhere, List.filter_eq_nil_iff.2 fun r hr => ?_, List.map_nil, List.append_nil]
  have hdata := List.mem_map_of_mem (f := Sim.toSimData) hr
  rw [SimData.map_toSimData_numbered] at hdata
  obtain ⟨d, hd, hrd⟩ := List.mem_map.1 hdata
  have hd := hfresh d hd
  cases stage with
  | stored => exact absurd rfl hstage
  | released => simp [Stage.holds, Stage.isReachedBy, ← hrd, hd.vendorState]
  | claimed => simp [Stage.holds, Stage.isReachedBy, ← hrd, hd.provisionState]

theorem isPrefix_addSims {drafts : List SimDraft} (hfresh : ∀ d ∈ drafts, d.IsFresh)
    (h : s.addSims drafts = .ok s') (p : Sim → Bool) : s.idsWhere p <+: s'.idsWhere p := by
  rw [(grown_of_addSims (fun d hd => (hfresh d hd).id?) h).idsWhere]
  exact List.prefix_append _ _

end Store

/-- One more identity, at most, joins the beginning `A` of an ascending list `B`, and only the one
that comes next. -/
theorem isPrefix_of_next {A A' B : List Int} (hA : A.Pairwise (· < ·)) (hA' : A'.Pairwise (· < ·))
    (hB : B.Pairwise (· < ·)) (hAB : A <+: B) (hsub : A ⊆ A')
    (hnew : ∀ a ∈ A', a ∈ A ∨ a ∈ B ∧ ∀ b ∈ B, b < a → b ∈ A) : A <+: A' ∧ A' <+: B := by
  rw [isPrefix_iff_of_ascending hA hB] at hAB
  have hsubB : A' ⊆ B := fun a ha => (hnew a ha).elim (fun ha => hAB.1 ha) (·.1)
  refine ⟨(isPrefix_iff_of_ascending hA hA').2 ⟨hsub, fun a ha b hb hlt => ?_⟩,
    (isPrefix_iff_of_ascending hA' hB).2 ⟨hsubB, fun a ha b hb hlt => ?_⟩⟩
  · exact hAB.2 a ha b (hsubB hb) hlt
  · rcases hnew a ha with ha | ⟨-, hbefore⟩
    · exact hsub (hAB.2 a ha b hb hlt)
    · exact hsub (hbefore b hb hlt)

/-! ## The discipline -/

/-- What has come to a stage is a beginning of its pool, and goes on where it ended. -/
def inOrder : Discipline where
  inv s := ∀ pool stage, s.idsWhere (Stage.holds stage pool) <+:
    s.idsWhere (Stage.stored.holds pool)
  rel s s' := ∀ pool stage, s.idsWhere (Stage.holds stage pool) <+:
    s'.idsWhere (Stage.holds stage pool)
  refl _ _ _ := List.prefix_rfl
  trans h h' pool stage := (h pool stage).trans (h' pool stage)

/-- A SIM that is next stays next. -/
theorem lasting_isNext (pool : Pool) (stage : Stage) (id : SimId) :
    inOrder.Lasting (·.IsNext pool stage id) := by
  rintro s s' hrel ⟨hmem, hbefore⟩
  have hstored := hrel pool .stored
  refine ⟨hstored.subset hmem, fun id' hid' hlt => (hrel pool stage).subset (hbefore id' ?_ hlt)⟩
  rw [isPrefix_iff_of_ascending (s.pairwise_idsWhere _) (s'.pairwise_idsWhere _)] at hstored
  exact hstored.2 id hmem id' hid' hlt

/-- A change that takes nothing back keeps the order when it is made to a SIM that is next. -/
theorem keeps_inOrder_changeSim {F : Store → Prop} {id : SimId} {change : SimChange}
    (hforward : change.isForward)
    (hnext : ∀ stage, change.reaches stage → ∀ s, F s → ∃ pool, s.IsNext pool stage id) :
    inOrder.Keeps F (.changeSim id change) := by
  intro s s' a hinv hF hexec
  cases hexec
  have hstep : ∀ pool stage, s.idsWhere (Stage.holds stage pool) <+:
        (s.changeSim id change).1.idsWhere (Stage.holds stage pool) ∧
      (s.changeSim id change).1.idsWhere (Stage.holds stage pool) <+:
        s.idsWhere (Stage.stored.holds pool) := by
    intro pool stage
    refine isPrefix_of_next (s.pairwise_idsWhere _) (Store.pairwise_idsWhere _ _)
      (s.pairwise_idsWhere _) (hinv pool stage) (Store.subset_changeSim hforward) fun id' hid' => ?_
    refine (Store.mem_of_mem_changeSim hforward hid').imp_right ?_
    rintro ⟨hreaches, rfl, hmem⟩
    obtain ⟨pool', hnext'⟩ := hnext stage hreaches s hF
    obtain rfl := Store.pool_unique hmem hnext'.mem
    exact ⟨hmem, hnext'.before⟩
  refine ⟨fun pool stage => ?_, fun pool stage => (hstep pool stage).1⟩
  have hbegin := (hstep pool stage).2
  rw [← Store.stored_changeSim s id change] at hbegin
  exact hbegin

/-- A change that brings a SIM to no stage keeps the order. -/
theorem keeps_inOrder_of_not_reaches {F : Store → Prop} {id : SimId} {change : SimChange}
    (hforward : change.isForward) (hstill : ∀ stage, change.reaches stage = false) :
    inOrder.Keeps F (.changeSim id change) :=
  keeps_inOrder_changeSim hforward fun stage h => absurd h (by simp [hstill])

theorem keeps_inOrder_release {pool : Pool} {id : SimId} {matchingId : String} :
    inOrder.Keeps (·.IsNext pool .released id) (.changeSim id (.release matchingId)) := by
  refine keeps_inOrder_changeSim rfl fun stage hreaches s hF => ⟨pool, ?_⟩
  cases stage with
  | released => exact hF
  | stored | claimed => cases hreaches

theorem keeps_inOrder_claim {pool : Pool} {id : SimId} :
    inOrder.Keeps (·.IsNext pool .claimed id) (.changeSim id .claim) := by
  refine keeps_inOrder_changeSim rfl fun stage hreaches s hF => ⟨pool, ?_⟩
  cases stage with
  | claimed => exact hF
  | stored | released => cases hreaches

/-- Other commands keep the order when they store raw stock only. -/
theorem keeps_inOrder_other {F : Store → Prop} {c : Command} (hfresh : c.StoresFresh)
    (hother : ∀ id change, c ≠ .changeSim id change) : inOrder.Keeps F c := by
  intro s s' a hinv _ hexec
  rcases Command.exec_sims hexec with hsims | ⟨id, change, hc, -⟩ | ⟨drafts, hc, hadd⟩
  · refine ⟨fun pool stage => ?_, fun pool stage => ?_⟩
    · rw [Store.idsWhere_of_sims_eq hsims, Store.idsWhere_of_sims_eq hsims]
      exact hinv pool stage
    · rw [Store.idsWhere_of_sims_eq hsims]
  · exact absurd hc (hother id change)
  · have hfresh := hfresh drafts hc
    refine ⟨fun pool stage => ?_, fun pool stage => Store.isPrefix_addSims hfresh hadd _⟩
    by_cases hstage : stage = .stored
    · subst hstage
      exact List.prefix_rfl
    · rw [Store.idsWhere_addSims hfresh hadd hstage]
      exact (hinv pool stage).trans (Store.isPrefix_addSims hfresh hadd _)

/-- A SIM is next when those of its pool with smaller identities have come to the stage. -/
theorem isNext_of_forall_lt {s : Store} {pool : Pool} {stage : Stage} {c : Sim}
    (hc : c ∈ s.sims.rows) (hpool : c.pool = pool)
    (hbefore : ∀ r ∈ s.sims.rows, r.pool = pool → r.id < c.id → stage.isReachedBy r.toSimData) :
    s.IsNext pool stage c.id := by
  refine ⟨(Store.id_mem_idsWhere hc).2 (Stage.holds_stored_iff.2 hpool), fun id' hid' hlt => ?_⟩
  obtain ⟨r, hr, hstored, rfl⟩ := Store.mem_idsWhere.1 hid'
  have hrpool := Stage.holds_stored_iff.1 hstored
  exact (Store.id_mem_idsWhere hr).2 (Stage.holds_iff.2 ⟨hrpool, hbefore r hr hrpool hlt⟩)

/-- The first raw SIM of a pool is next to be released. -/
theorem isNext_released {s : Store} {pool : Pool} {c : Sim}
    (hfind : Query.eval s (.sim (.raw pool)) = some c) : s.IsNext pool .released c.id := by
  have hholds : c.pool = pool ∧ c.isRaw := by
    simpa [SimQuery.holds] using List.find?_some hfind
  refine isNext_of_forall_lt (List.mem_of_find?_eq_some hfind) hholds.1 fun r hr hpool hlt => ?_
  have hnot := Table.eq_false_of_lt_find? hfind hr hlt
  cases hstate : r.vendorState with
  | released => simp [Stage.isReachedBy, hstate]
  | available => simp [SimQuery.holds, hpool, SimData.isRaw, hstate] at hnot

/-- Where pools are in order, the first SIM of a pool that is ready is next to be claimed: those
before it are released, as it is itself, and not ready. -/
theorem isNext_claimed {s : Store} {pool : Pool} {c : Sim} (hs : inOrder.inv s)
    (hfirst : Stock.FirstReady pool s c) : s.IsNext pool .claimed c.id := by
  refine isNext_of_forall_lt hfirst.mem hfirst.pool_eq fun r hr hpool hlt => ?_
  have hreleased : r.id ∈ s.idsWhere (Stage.released.holds pool) := by
    have hprefix := hs pool .released
    rw [isPrefix_iff_of_ascending (s.pairwise_idsWhere _) (s.pairwise_idsWhere _)] at hprefix
    refine hprefix.2 c.id ((Store.id_mem_idsWhere hfirst.mem).2 ?_) r.id
      ((Store.id_mem_idsWhere hr).2 (Stage.holds_stored_iff.2 hpool)) hlt
    exact Stage.holds_iff.2 ⟨hfirst.pool_eq, by simp [Stage.isReachedBy, hfirst.released]⟩
  have hvendor : r.vendorState = .released := by
    simpa [Stage.isReachedBy] using
      (Stage.holds_iff.1 ((Store.id_mem_idsWhere hr).1 hreleased)).2
  have hnot := hfirst.first r hr hpool hlt
  cases hstate : r.provisionState with
  | provisioned => simp [Stage.isReachedBy, hstate]
  | available => simp [SimData.isReady, hvendor, hstate] at hnot

end SimDepot
