import SimDepot.Proofs.Lifecycle.Operation
import SimDepot.Proofs.Lifecycle.RowLaw

/-!
# The order of states

The three axes of a SIM move on their own, but not in any order: only what the vendor has released
is claimed or activated, the matching id is there exactly while the profile is released, and what is
active is not suspended. Each guard looks at a part of this only; `SimData.Ordered.apply` says that
every change that is admitted keeps all of it. So it holds of every SIM whatever is asked of the
depot, in whatever order, and whatever fails.
-/

namespace SimDepot

/-- The states of a SIM agree with each other. -/
structure SimData.Ordered (s : SimData) : Prop where
  /-- What is claimed was released. -/
  released_of_provisioned : s.provisionState = .provisioned → s.vendorState = .released
  /-- What is active was released. -/
  released_of_activated : s.registryState = .activated → s.vendorState = .released
  /-- The matching id is known exactly while the profile is released. -/
  matchingId_iff : s.matchingId.isSome ↔ s.vendorState = .released
  /-- What is active is not suspended. -/
  not_suspended : s.registryState = .activated → s.suspendedAt = none

namespace SimData.Ordered

variable {s : SimData}

/-- Every change that is admitted keeps the order of states. -/
theorem apply (hs : s.Ordered) {change : SimChange} (hadmits : change.admits s) :
    (change.apply s).Ordered := by
  obtain ⟨hprov, hact, hmatch, hsusp⟩ := hs
  cases change with
  | setEid eid => exact ⟨hprov, hact, hmatch, hsusp⟩
  | setMsisdn msisdn => exact ⟨hprov, hact, hmatch, hsusp⟩
  | setRegistryState state =>
    cases state with
    | activated =>
      have hreleased : s.vendorState = .released := by simpa [SimChange.admits] using hadmits
      exact ⟨hprov, fun _ => hreleased, hmatch, fun _ => rfl⟩
    | notActivated => exact ⟨hprov, nofun, hmatch, nofun⟩
  | suspend time => exact ⟨hprov, nofun, hmatch, nofun⟩
  | setVendorState state =>
    cases state with
    | available =>
      -- The guard looks at the two other axes.
      have hfree : s.provisionState = .available ∧ s.registryState = .notActivated := by
        simpa [SimChange.admits] using hadmits
      refine ⟨fun h => ?_, fun h => ?_, by simp [SimChange.apply], fun h => ?_⟩
      · exact absurd (hfree.1.symm.trans h) nofun
      · exact absurd (hfree.2.symm.trans h) nofun
      · exact absurd (hfree.2.symm.trans h) nofun
    | released =>
      have hsome : s.matchingId.isSome := hadmits
      exact ⟨fun _ => rfl, fun _ => rfl, by simpa [SimChange.apply] using hsome, hsusp⟩
  | release matchingId => exact ⟨fun _ => rfl, fun _ => rfl, by simp [SimChange.apply], hsusp⟩
  | setProvisionState state =>
    cases state with
    | provisioned =>
      have hreleased : s.vendorState = .released := by simpa [SimChange.admits] using hadmits
      exact ⟨fun _ => hreleased, hact, hmatch, hsusp⟩
    | available => exact ⟨nofun, hact, hmatch, hsusp⟩
  | claim =>
    have hready : s.vendorState = .released ∧ s.provisionState = .available := by
      simpa [SimChange.admits, SimData.isReady] using hadmits
    exact ⟨fun _ => hready.1, hact, hmatch, hsusp⟩

/-- There is an activation code, whatever the host, exactly while the profile is released. -/
theorem isSome_activationCode (hs : s.Ordered) (host : String) :
    (s.activationCode host).isSome ↔ s.vendorState = .released := by
  unfold activationCode
  cases hvendor : s.vendorState with
  | available => simp
  | released =>
    obtain ⟨m, hm⟩ := Option.isSome_iff_exists.1 (hs.matchingId_iff.2 hvendor)
    simp [hm]

end SimData.Ordered

/-! ## Whatever is asked -/

theorem SimDraft.IsFresh.ordered {d : SimDraft} (hd : d.IsFresh) : d.toSimData.Ordered where
  released_of_provisioned h := absurd (hd.provisionState.symm.trans h) nofun
  released_of_activated h := absurd (hd.registryState.symm.trans h) nofun
  matchingId_iff := by simp [hd.matchingId, hd.vendorState]
  not_suspended h := absurd (hd.registryState.symm.trans h) nofun

/-- The states of every SIM agree. -/
def orderly : Discipline :=
  .ofRows (fun r => r.Ordered) (fun _ _ => True) (fun _ => trivial) (fun _ _ => trivial)

theorem keeps_orderly {c : Command} (hc : c.StoresFresh) : orderly.Keeps (fun _ => True) c := by
  refine Discipline.keeps_ofRows (fun s r change _ _ _ hr hadmits => ?_)
    fun drafts hdrafts d hd r hrd => ?_
  · exact ⟨hr.apply hadmits, trivial⟩
  · rw [hrd]
    exact (hc drafts hdrafts d hd).ordered

/-- From empty tables on, in whatever order the requests of any operations are answered, whatever
services answer, whatever fails and whichever processes die: the states of every SIM agree, and it
has an activation code exactly while its profile is released. -/
theorem ordered_of_run {ι : Type} [DecidableEq ι] (ops : ι → Operation) (bindings : ι → Bindings)
    {moves : List (Move ι)} {w : World fun i => Except Error (ops i).Value}
    (hrun : (World.start .empty fun i => ((ops i).action (bindings i)).run).run moves = some w)
    {r : Sim} (hr : r ∈ w.store.sims.rows) :
    r.Ordered ∧ ∀ host, (r.activationCode host).isSome ↔ r.vendorState = .released := by
  have hstart : (World.start .empty fun i => ((ops i).action (bindings i)).run).Orderly orderly.law
      True fun _ _ st _ => st.isOpen = false := by
    refine Discipline.orderly_start Discipline.inv_ofRows_empty fun i => ?_
    exact (ops i).issues_action (fun _ hc _ => keeps_orderly hc)
      fun _ _ _ => keeps_orderly (Command.storesFresh_changeSim _ _)
  have hend := hstart.run (fun _ _ _ => trivial) hrun
  have hordered : r.Ordered := hend.lawful.1 r hr
  exact ⟨hordered, hordered.isSome_activationCode⟩

/-! ### A first day -/

/-- What a new depot is asked on its first day: the directory is filled and a SIM imported; the SIM
is suspended while it is in stock, and released; then everybody wants one. -/
def firstDay : Nat → Operation
  | 0 => .addEntry .registry "Registry"
  | 1 => .addEntry .vendor "Vendor"
  | 2 => .permit 1 1
  | 3 => .importFeed [⟨"8947", "2420", none, "P"⟩] 1 1 "feed"
  | 4 => .suspend "8947"
  | 5 => .reconcile ⟨0, 1, 1⟩
  | _ => .allocate ⟨1, "P"⟩ "4790"

/-- The services of the first day. -/
def firstServices : Bindings :=
  ⟨IdMap.empty.insert 1 ⟨"Registry"⟩, IdMap.empty.insert 1 ⟨"Vendor", "host"⟩⟩

/-- The first day until the SIM is released; the pass of the reconciliation begins while the SIM is
being suspended. -/
def firstMoves : List (Move Nat) :=
  [.turn 0 .plain, .turn 0 .plain, .turn 1 .plain, .turn 1 .plain,
    .turn 2 .plain, .turn 2 .plain, .turn 2 .plain, .turn 2 .plain,
    .turn 3 .plain, .turn 3 .plain, .turn 3 .plain, .turn 3 (.time .epoch), .turn 3 .plain,
    .turn 3 .plain, .turn 3 .plain, .turn 3 .plain, .turn 3 .plain, .turn 3 (.time .epoch),
    .turn 3 .plain, .turn 3 .plain,
    .turn 4 .plain, .turn 5 .plain, .turn 5 .plain, .turn 5 .plain,
    .turn 4 (.call (.ok ())), .turn 5 .plain, .turn 4 (.time .epoch), .turn 4 .plain,
    .turn 5 (.release (.ok ⟨"M", none⟩)), .turn 4 .plain, .turn 5 .plain, .turn 5 .plain]

/-- The depot on its first day. -/
def firstWorld : World fun i => Except Error (firstDay i).Value :=
  .start .empty fun i => ((firstDay i).action firstServices).run

/-- The depot when its first SIM is released. -/
def firstReleased : World fun i => Except Error (firstDay i).Value :=
  (firstWorld.run firstMoves).get (by decide +kernel)

theorem run_firstMoves : firstWorld.run firstMoves = some firstReleased :=
  (Option.some_get _).symm

theorem ordered_of_firstMoves : firstWorld.run firstMoves = some firstReleased ∧
    ∃ r ∈ firstReleased.store.sims.rows, r.vendorState = .released ∧ r.Ordered ∧
      ∀ host, (r.activationCode host).isSome ↔ r.vendorState = .released := by
  have hrow : ∃ r ∈ firstReleased.store.sims.rows, r.vendorState = .released := by decide +kernel
  obtain ⟨r, hr, hreleased⟩ := hrow
  exact ⟨run_firstMoves, r, hr, hreleased,
    ordered_of_run firstDay (fun _ => firstServices) run_firstMoves hr⟩

end SimDepot
