import SimDepot.Proofs.Reconcile.Release
import SimDepot.Proofs.Stock.Figures

/-!
# What vendors make of the stock

A call of a vendor service is answered with a release or with an error, and a release makes a raw
SIM a released one. `ReleaseCall.applyAll` says what calls, one after the other, make of a SIM, and
`Store.supplyAll` of a store. Calls about other SIMs leave a SIM as it is, so the SIMs of one pool
do not depend on calls about those of another, and calls about different SIMs may change places.
-/

namespace SimDepot

/-- A call of a vendor service, and its answer. -/
structure ReleaseCall where
  /-- The vendor. -/
  vendor : VendorId
  /-- The SIM to release. -/
  sim : Sim
  /-- What the vendor answered. -/
  answer : Except Error Release

/-- The call that a request was, with its answer, if it was one of a vendor service. -/
def Turn.releaseCall? : Turn → Option ReleaseCall
  | ⟨.release vendor sim, answer⟩ => some ⟨vendor, sim, answer⟩
  | _ => none

theorem Turn.releaseCall?_eq_none {turn : Turn}
    (h : ∀ vendor sim, turn.request ≠ .release vendor sim) : turn.releaseCall? = none := by
  unfold releaseCall?
  split
  · exact absurd rfl (h _ _)
  · rfl

/-- The calls of vendor services so far. -/
def Chronicle.releaseCalls {ι : Type} (h : Chronicle ι) : List ReleaseCall :=
  h.past.filterMap fun d => d.turn.releaseCall?

theorem Sim.isReleased_eq_not_isRaw (r : Sim) : r.isReleased = !r.isRaw := by
  cases hstate : r.vendorState <;> simp [isReleased, SimData.isRaw, hstate]

/-- The SIM when its vendor has released it. A chip that is known stays. -/
def Sim.supplied (r : Sim) (release : Release) : Sim :=
  { r with
    vendorState := .released
    matchingId := some release.matchingId
    eid := r.eid.or release.eid }

namespace ReleaseCall

/-- What a call makes of a SIM. -/
def apply (call : ReleaseCall) (r : Sim) : Sim :=
  match call.answer with
  | .ok release => if r.id = call.sim.id ∧ r.isRaw then r.supplied release else r
  | .error _ => r

/-- What calls, one after the other, make of a SIM. -/
def applyAll (calls : List ReleaseCall) (r : Sim) : Sim :=
  calls.foldl (fun r call => call.apply r) r

/-- The vendor released the SIM. -/
def succeeded (call : ReleaseCall) : Bool := call.answer.isOk

variable {call : ReleaseCall} {calls early late : List ReleaseCall} {r : Sim}

@[simp] theorem applyAll_nil (r : Sim) : applyAll [] r = r := rfl

@[simp] theorem applyAll_cons (call : ReleaseCall) (calls : List ReleaseCall) (r : Sim) :
    applyAll (call :: calls) r = applyAll calls (call.apply r) := rfl

theorem applyAll_append (early late : List ReleaseCall) (r : Sim) :
    applyAll (early ++ late) r = applyAll late (applyAll early r) := List.foldl_append

/-- A call that did not release the SIM leaves it as it is. -/
theorem apply_of_not_released (h : (call.succeeded && call.sim.id == r.id) = false) :
    call.apply r = r := by
  unfold apply
  cases hanswer : call.answer with
  | error e => rfl
  | ok release =>
    refine if_neg fun ⟨hid, _⟩ => ?_
    simp [succeeded, hanswer, Except.isOk, Except.toBool, hid] at h

/-- So does a call about a SIM that is no raw stock. -/
theorem apply_of_not_isRaw (h : r.isRaw = false) : call.apply r = r := by
  unfold apply
  cases call.answer with
  | error e => rfl
  | ok release => simp [h]

/-- What a release leaves as it is, a call leaves as it is. -/
theorem apply_of_supplied {γ : Type} (f : Sim → γ) (h : ∀ r release, f (r.supplied release) = f r)
    (call : ReleaseCall) (r : Sim) : f (call.apply r) = f r := by
  unfold apply
  split
  · split
    · exact h r _
    · rfl
  · rfl

theorem isRaw_apply (call : ReleaseCall) (r : Sim) :
    (call.apply r).isRaw = (r.isRaw && !(call.succeeded && call.sim.id == r.id)) := by
  cases hreleased : call.succeeded && call.sim.id == r.id with
  | false => rw [apply_of_not_released hreleased, Bool.not_false, Bool.and_true]
  | true =>
    rw [Bool.not_true, Bool.and_false]
    by_cases hraw : r.isRaw
    · obtain ⟨hok, hid⟩ := Bool.and_eq_true_iff.1 hreleased
      unfold apply
      cases hanswer : call.answer with
      | error e => simp [succeeded, hanswer, Except.isOk, Except.toBool] at hok
      | ok release =>
        simp only [(beq_iff_eq.1 hid).symm, hraw, and_self, if_true]
        rfl
    · rw [apply_of_not_isRaw (by simpa using hraw)]
      simpa using hraw

/-! ### Calls one after the other -/

/-- What a release leaves as it is, calls leave as it is. -/
theorem applyAll_of_supplied {γ : Type} (f : Sim → γ)
    (h : ∀ r release, f (r.supplied release) = f r) (calls : List ReleaseCall) (r : Sim) :
    f (applyAll calls r) = f r := by
  induction calls generalizing r with
  | nil => rfl
  | cons call rest ih => rw [applyAll_cons, ih, apply_of_supplied f h]

@[simp] theorem id_applyAll (calls : List ReleaseCall) (r : Sim) : (applyAll calls r).id = r.id :=
  applyAll_of_supplied Sim.id (fun _ _ => rfl) calls r

@[simp] theorem iccid_applyAll (calls : List ReleaseCall) (r : Sim) :
    (applyAll calls r).iccid = r.iccid := applyAll_of_supplied (·.iccid) (fun _ _ => rfl) calls r

@[simp] theorem pool_applyAll (calls : List ReleaseCall) (r : Sim) :
    (applyAll calls r).pool = r.pool := applyAll_of_supplied (·.pool) (fun _ _ => rfl) calls r

@[simp] theorem provisionState_applyAll (calls : List ReleaseCall) (r : Sim) :
    (applyAll calls r).provisionState = r.provisionState :=
  applyAll_of_supplied (·.provisionState) (fun _ _ => rfl) calls r

/-- The identities of the SIMs that were released, in the order of the calls. -/
def releasedIds (calls : List ReleaseCall) : List SimId :=
  (calls.filter (·.succeeded)).map (·.sim.id)

theorem mem_releasedIds_cons {id : SimId} : id ∈ releasedIds (call :: calls) ↔
    (call.succeeded && call.sim.id == id) = true ∨ id ∈ releasedIds calls := by
  unfold releasedIds
  cases hcall : call.succeeded <;> simp [hcall, @eq_comm _ id]

/-- Calls that release other SIMs, or none, leave a SIM as it is. -/
theorem applyAll_of_not_mem (h : r.id ∉ releasedIds calls) : applyAll calls r = r := by
  induction calls with
  | nil => rfl
  | cons call rest ih =>
    rw [mem_releasedIds_cons, not_or, Bool.not_eq_true] at h
    rw [applyAll_cons, apply_of_not_released h.1, ih h.2]

/-- Calls about other SIMs do not count. -/
theorem applyAll_filter {q : ReleaseCall → Bool}
    (h : ∀ call ∈ calls, q call = false → call.sim.id ≠ r.id) :
    applyAll (calls.filter q) r = applyAll calls r := by
  induction calls generalizing r with
  | nil => rfl
  | cons call rest ih =>
    have hrest : ∀ r' : Sim, r'.id = r.id → applyAll (rest.filter q) r' = applyAll rest r' :=
      fun r' hid => ih fun later hlater hq => hid ▸ h later (List.mem_cons_of_mem _ hlater) hq
    cases hq : q call with
    | true =>
      rw [List.filter_cons_of_pos hq, applyAll_cons, applyAll_cons]
      exact hrest _ (apply_of_supplied Sim.id (fun _ _ => rfl) call r)
    | false =>
      have hother : (call.succeeded && call.sim.id == r.id) = false := by
        simp [h call (List.mem_cons_self ..) hq]
      rw [List.filter_cons_of_neg (by simp [hq]), applyAll_cons, apply_of_not_released hother]
      exact hrest r rfl

/-- Of calls about several pools, those about one. -/
theorem filter_flatMap {pools : List Pool} (hnodup : pools.Nodup) {run : Pool → List ReleaseCall}
    (hrun : ∀ pool ∈ pools, ∀ call ∈ run pool, call.sim.pool = pool) {pool : Pool}
    (hpool : pool ∈ pools) :
    (pools.flatMap run).filter (fun call => call.sim.pool == pool) = run pool := by
  obtain ⟨early, late, rfl⟩ := List.append_of_mem hpool
  have hnone : ∀ others ⊆ early ++ pool :: late, pool ∉ others →
      (others.flatMap run).filter (fun call => call.sim.pool == pool) = [] := by
    intro others hsub hmem
    refine List.filter_eq_nil_iff.2 fun call hcall => ?_
    obtain ⟨other, hother, hcall⟩ := List.mem_flatMap.1 hcall
    rw [beq_iff_eq, hrun other (hsub hother) call hcall]
    rintro rfl
    exact hmem hother
  have hself : (run pool).filter (fun call => call.sim.pool == pool) = run pool :=
    List.filter_eq_self.2 fun call hcall => beq_iff_eq.2 (hrun pool hpool call hcall)
  have hapart := List.nodup_middle.1 hnodup
  rw [List.nodup_cons, List.mem_append, not_or] at hapart
  rw [List.flatMap_append, List.flatMap_cons, List.filter_append, List.filter_append, hself,
    hnone early (List.subset_append_left ..) hapart.1.1,
    hnone late (fun _ h => List.mem_append_right _ (List.mem_cons_of_mem _ h)) hapart.1.2,
    List.nil_append, List.append_nil]

/-- A SIM that is no raw stock stays as it is. -/
theorem applyAll_of_not_isRaw (h : r.isRaw = false) : applyAll calls r = r := by
  induction calls with
  | nil => rfl
  | cons call rest ih => rw [applyAll_cons, apply_of_not_isRaw h, ih]

/-- A SIM is raw stock after calls when it was before and none of them released it. -/
theorem isRaw_applyAll (calls : List ReleaseCall) (r : Sim) :
    (applyAll calls r).isRaw = (r.isRaw && decide (r.id ∉ releasedIds calls)) := by
  induction calls generalizing r with
  | nil => simp [releasedIds]
  | cons call rest ih =>
    have hid : (call.apply r).id = r.id := apply_of_supplied Sim.id (fun _ _ => rfl) call r
    rw [applyAll_cons, ih, isRaw_apply, hid]
    simp only [mem_releasedIds_cons, not_or, Bool.not_eq_true, Bool.decide_and, Bool.and_assoc]
    cases call.succeeded && call.sim.id == r.id <;> simp

/-- Calls about different SIMs may change places. -/
theorem applyAll_comm (h : ∀ a ∈ early, ∀ b ∈ late, a.sim.id ≠ b.sim.id) (r : Sim) :
    applyAll (early ++ late) r = applyAll (late ++ early) r := by
  have habout : ∀ {calls : List ReleaseCall}, r.id ∈ releasedIds calls →
      ∃ call ∈ calls, call.sim.id = r.id := by
    intro calls hmem
    obtain ⟨call, hcall, hid⟩ := List.mem_map.1 hmem
    exact ⟨call, (List.mem_filter.1 hcall).1, hid⟩
  rw [applyAll_append, applyAll_append]
  by_cases hearly : r.id ∈ releasedIds early
  · obtain ⟨a, ha, hid⟩ := habout hearly
    have hlate : r.id ∉ releasedIds late := fun hmem => by
      obtain ⟨b, hb, hid'⟩ := habout hmem
      exact h a ha b hb (hid.trans hid'.symm)
    rw [applyAll_of_not_mem hlate, applyAll_of_not_mem (r := applyAll early r)]
    rwa [id_applyAll]
  · rw [applyAll_of_not_mem hearly, applyAll_of_not_mem (r := applyAll late r)]
    rwa [id_applyAll]

end ReleaseCall

namespace Store

variable {s : Store} {pool : Pool} {calls early late : List ReleaseCall}

/-- The store after calls of vendor services, one after the other. -/
def supplyAll (s : Store) (calls : List ReleaseCall) : Store :=
  { s with
    sims := s.sims.mapRows (ReleaseCall.applyAll calls) (ReleaseCall.id_applyAll calls)
      fun r => congrArg some (ReleaseCall.iccid_applyAll calls r) }

theorem rows_supplyAll (s : Store) (calls : List ReleaseCall) :
    (s.supplyAll calls).sims.rows = s.sims.rows.map (ReleaseCall.applyAll calls) := rfl

/-- Stores with the same SIMs, which are otherwise the same. -/
theorem supplyAll_eq {s' : Store}
    (hrows : s'.sims.rows = s.sims.rows.map (ReleaseCall.applyAll calls))
    (hlast : s'.sims.last = s.sims.last) (hrest : s' = { s with sims := s'.sims }) :
    s' = s.supplyAll calls := by
  have hsims : s'.sims = (s.supplyAll calls).sims := Table.eq_of_rows hrows hlast
  rw [hrest, hsims]
  rfl

@[simp] theorem supplyAll_nil (s : Store) : s.supplyAll [] = s :=
  (supplyAll_eq (List.map_id' s.sims.rows).symm rfl rfl).symm

theorem supplyAll_append (s : Store) (early late : List ReleaseCall) :
    s.supplyAll (early ++ late) = (s.supplyAll early).supplyAll late := by
  refine supplyAll_eq ?_ rfl rfl
  rw [rows_supplyAll, rows_supplyAll, List.map_map]
  exact List.map_congr_left fun r _ => ReleaseCall.applyAll_append early late r

/-- Calls about different SIMs may change places. -/
theorem supplyAll_comm (h : ∀ a ∈ early, ∀ b ∈ late, a.sim.id ≠ b.sim.id) :
    s.supplyAll (early ++ late) = s.supplyAll (late ++ early) :=
  supplyAll_eq (List.map_congr_left fun r _ => ReleaseCall.applyAll_comm h r) rfl rfl

/-- A call that failed changes nothing. -/
theorem supplyAll_error (s : Store) (vendor : VendorId) (sim : Sim) (e : Error) :
    s.supplyAll [⟨vendor, sim, .error e⟩] = s :=
  (supplyAll_eq (List.map_id' s.sims.rows).symm rfl rfl).symm

theorem rowsOf_supplyAll (s : Store) (pool : Pool) (calls : List ReleaseCall) :
    (s.supplyAll calls).rowsOf pool = (s.rowsOf pool).map (ReleaseCall.applyAll calls) := by
  show (s.sims.rows.map (ReleaseCall.applyAll calls)).filter _ = _
  rw [List.filter_map]
  refine congrArg (List.map _) (List.filter_congr fun r _ => ?_)
  simp

/-- What calls make of a pool is what those about its SIMs make of it. -/
theorem rowsOf_supplyAll_filter (hcalls : ∀ call ∈ calls, call.sim ∈ s.sims.rows) (pool : Pool) :
    (s.supplyAll (calls.filter fun call => call.sim.pool == pool)).rowsOf pool =
      (s.supplyAll calls).rowsOf pool := by
  rw [rowsOf_supplyAll, rowsOf_supplyAll]
  refine List.map_congr_left fun r hr => ReleaseCall.applyAll_filter fun call hcall hother hid => ?_
  obtain ⟨hr, hpool⟩ := mem_rowsOf.1 hr
  rw [Table.id_inj (hcalls call hcall) hr hid, hpool, beq_self_eq_true] at hother
  cases hother

/-- Calls about SIMs of one pool leave the other pools as they are. -/
theorem rowsOf_supplyAll_of_ne {other : Pool} (hcalls : ∀ call ∈ calls, call.sim ∈ s.rowsOf pool)
    (hne : other ≠ pool) : (s.supplyAll calls).rowsOf other = s.rowsOf other := by
  have hnone : (calls.filter fun call => call.sim.pool == other) = [] :=
    List.filter_eq_nil_iff.2 fun call hcall => by
      rw [beq_iff_eq, (mem_rowsOf.1 (hcalls call hcall)).2]
      exact hne.symm
  rw [← rowsOf_supplyAll_filter fun call hcall => (mem_rowsOf.1 (hcalls call hcall)).1, hnone,
    supplyAll_nil]

/-- The raw stock of a pool. -/
def rawOf (s : Store) (pool : Pool) : List Sim := (s.rowsOf pool).filter fun r => r.isRaw

theorem mem_rawOf {r : Sim} : r ∈ s.rawOf pool ↔ r ∈ s.sims.rows ∧ r.pool = pool ∧ r.isRaw := by
  rw [rawOf, List.mem_filter, mem_rowsOf, and_assoc]

theorem pairwise_rawOf (s : Store) (pool : Pool) :
    (s.rawOf pool).Pairwise fun a b => a.id < b.id := (s.pairwise_rowsOf pool).filter _

/-- The question for raw stock finds the first raw SIM of the pool. -/
theorem eval_raw (s : Store) (pool : Pool) :
    Query.eval s (.sim (.raw pool)) = (s.rawOf pool).head? := by
  rw [rawOf, rowsOf, Table.select, List.filter_filter, List.head?_filter]
  show s.sims.rows.find? (fun r => r.pool == pool && r.isRaw) = _
  simp only [Bool.and_comm]

/-- What was released is no raw stock any more, and the rest of it is as it was. -/
theorem rawOf_supplyAll (s : Store) (pool : Pool) (calls : List ReleaseCall) :
    (s.supplyAll calls).rawOf pool =
      (s.rawOf pool).filter fun r => r.id ∉ ReleaseCall.releasedIds calls := by
  have hraw : ∀ r ∈ s.rowsOf pool, ((fun r : Sim => r.isRaw) ∘ ReleaseCall.applyAll calls) r =
      (decide (r.id ∉ ReleaseCall.releasedIds calls) && r.isRaw) := fun r _ =>
    (ReleaseCall.isRaw_applyAll calls r).trans (Bool.and_comm _ _)
  rw [rawOf, rowsOf_supplyAll, List.filter_map, List.filter_congr hraw, rawOf, List.filter_filter]
  refine (List.map_congr_left fun r hr => ?_).trans (List.map_id' _)
  refine ReleaseCall.applyAll_of_not_mem ?_
  simpa using (Bool.and_eq_true_iff.1 (List.mem_filter.1 hr).2).1

/-- The SIMs that were not released before, but are after calls about different raw SIMs, are those
that were released. -/
theorem perm_releasedIds (hraw : ∀ call ∈ calls, call.sim ∈ s.sims.rows ∧ call.sim.isRaw)
    (hnodup : (calls.map (·.sim.id)).Nodup) :
    (((s.supplyAll calls).idsWhere Sim.isReleased).filter
      fun id => id ∉ s.idsWhere Sim.isReleased).Perm (ReleaseCall.releasedIds calls) := by
  have hnot : ∀ r : Sim, r.isReleased = !r.isRaw := Sim.isReleased_eq_not_isRaw
  have hids : (ReleaseCall.releasedIds calls).Nodup :=
    hnodup.sublist (List.filter_sublist.map _)
  refine (List.perm_ext_iff_of_nodup (((s.supplyAll calls).nodup_idsWhere _).filter _) hids).2 ?_
  intro id
  rw [List.mem_filter, decide_eq_true_eq, mem_idsWhere, rows_supplyAll]
  constructor
  · rintro ⟨⟨r', hr', hreleased, rfl⟩, hbefore⟩
    obtain ⟨r, hr, rfl⟩ := List.mem_map.1 hr'
    rw [ReleaseCall.id_applyAll] at hbefore ⊢
    rw [id_mem_idsWhere hr, hnot, Bool.not_eq_true, Bool.not_eq_false'] at hbefore
    rw [hnot, ReleaseCall.isRaw_applyAll, hbefore] at hreleased
    simpa using hreleased
  · intro hid
    obtain ⟨call, hcall, rfl⟩ := List.mem_map.1 hid
    obtain ⟨hsim, hsimraw⟩ := hraw call (List.mem_filter.1 hcall).1
    refine ⟨⟨_, List.mem_map_of_mem hsim, ?_, ReleaseCall.id_applyAll ..⟩, ?_⟩
    · rw [hnot, ReleaseCall.isRaw_applyAll]
      simp [hid]
    · rw [id_mem_idsWhere hsim, hnot, hsimraw]
      exact Bool.false_ne_true

/-- When the first raw SIM of a pool is released, the others are left. -/
theorem rawOf_supplyAll_head {r : Sim} {rest : List Sim} (h : s.rawOf pool = r :: rest)
    (vendor : VendorId) (release : Release) :
    (s.supplyAll [⟨vendor, r, .ok release⟩]).rawOf pool = rest := by
  have hids : ReleaseCall.releasedIds [⟨vendor, r, .ok release⟩] = [r.id] := rfl
  have hascending := s.pairwise_rawOf pool
  rw [rawOf_supplyAll, hids, h]
  rw [h, List.pairwise_cons] at hascending
  rw [List.filter_cons_of_neg (by simp), List.filter_eq_self.2 fun r' hr' => ?_]
  simpa using (Int.ne_of_lt (hascending.1 r' hr')).symm

/-- A release and the note of the chip make of the store what the vendor's answer says. -/
theorem supplyAll_release {r : Sim} (hr : r ∈ s.sims.rows) (hraw : r.isRaw) (vendor : VendorId)
    (release : Release) :
    (match release.eid with
      | none => (s.changeSim r.id (.release release.matchingId)).1
      | some eid =>
        ((s.changeSim r.id (.release release.matchingId)).1.changeSim r.id (.setEid eid)).1) =
      s.supplyAll [⟨vendor, r, .ok release⟩] := by
  have hadmits : SimChange.admits r.toSimData (.release release.matchingId) := hraw
  have happly : ∀ r' : Sim, (⟨vendor, r, .ok release⟩ : ReleaseCall).apply r' =
      if r'.id = r.id ∧ r'.isRaw then r'.supplied release else r' := fun _ => rfl
  cases heid : release.eid with
  | none =>
    refine supplyAll_eq ?_ rfl rfl
    rw [rows_changeSim]
    refine List.map_congr_left fun r' hr' => ?_
    rw [ReleaseCall.applyAll_cons, ReleaseCall.applyAll_nil, happly]
    by_cases hid : r'.id = r.id
    · obtain rfl := Table.id_inj hr' hr hid
      rw [if_pos ⟨rfl, hadmits⟩, if_pos ⟨rfl, hraw⟩, Sim.supplied, heid, Option.or_none]
      rfl
    · rw [if_neg (mt And.left hid), if_neg (mt And.left hid)]
  | some eid =>
    refine supplyAll_eq ?_ rfl rfl
    rw [rows_changeSim, rows_changeSim, List.map_map]
    refine List.map_congr_left fun r' hr' => ?_
    rw [ReleaseCall.applyAll_cons, ReleaseCall.applyAll_nil, happly, Function.comp_apply]
    by_cases hid : r'.id = r.id
    · obtain rfl := Table.id_inj hr' hr hid
      have hreleased : (if r'.id = r'.id ∧ SimChange.admits r'.toSimData
          (.release release.matchingId) then r'.change (.release release.matchingId) else r') =
          r'.change (.release release.matchingId) := if_pos ⟨rfl, hadmits⟩
      have hsupplied : (if r'.id = r'.id ∧ r'.isRaw then r'.supplied release else r') =
          r'.supplied release := if_pos ⟨rfl, hraw⟩
      rw [hreleased, hsupplied, Sim.supplied, heid]
      simp only [Sim.id_change, true_and, Sim.ite_setEid]
      rfl
    · rw [if_neg (mt And.left hid), if_neg (mt And.left hid), if_neg (mt And.left hid)]

end Store

end SimDepot
