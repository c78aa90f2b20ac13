import SimDepot.Proofs.Claim.Outcome
import SimDepot.Proofs.Lifecycle.Order

/-!
# Allocations that stop half-way

An allocation that has claimed a SIM may stop before the activation is recorded: the registry does
not answer, the store fails, or the process dies. Operators find the SIM among the pending ones
then, unless it had been suspended while it was in stock. Nothing an allocation does ends a
suspension except that it records the activation, so such a SIM is claimed and not listed.
-/

namespace SimDepot

/-- What an allocation may make of a SIM as long as it records no activation. -/
structure Sim.Underway (r r' : Sim) : Prop where
  /-- Its identity stays. -/
  id : r'.id = r.id
  /-- Its registry stays. -/
  registryId : r'.registryId = r.registryId
  /-- Once claimed, it stays claimed. -/
  provisioned : r.provisionState = .provisioned → r'.provisionState = .provisioned
  /-- It is active, or what the registry knows and any suspension stay. -/
  registry : r'.registryState = .activated ∨
    r'.registryState = r.registryState ∧ r'.suspendedAt = r.suspendedAt

namespace Sim.Underway

theorem refl (r : Sim) : r.Underway r := ⟨rfl, rfl, fun h => h, .inr ⟨rfl, rfl⟩⟩

theorem trans {a b c : Sim} (h : a.Underway b) (h' : b.Underway c) : a.Underway c where
  id := h'.id.trans h.id
  registryId := h'.registryId.trans h.registryId
  provisioned hp := h'.provisioned (h.provisioned hp)
  registry := by
    rcases h'.registry with hact | ⟨hstate', hsusp'⟩
    · exact .inl hact
    · rcases h.registry with hact | ⟨hstate, hsusp⟩
      · exact .inl (hstate'.trans hact)
      · exact .inr ⟨hstate'.trans hstate, hsusp'.trans hsusp⟩

end Sim.Underway

/-- What an allocation may make of the store `s`: every SIM comes from one of `s`. -/
def underway (s : Store) : Discipline :=
  .ofRows (fun r => ∃ r₀ ∈ s.sims.rows, r₀.Underway r) Sim.Underway Sim.Underway.refl
    Sim.Underway.trans

theorem keeps_underway {s : Store} {F : Store → Prop} {id : SimId} {change : SimChange}
    (hchange : ∀ r : Sim, r.Underway (r.change change)) :
    (underway s).Keeps F (.changeSim id change) := by
  refine Discipline.keeps_ofRows (fun s' r change' _ hc _ hr _ => ?_) nofun
  cases hc
  obtain ⟨r₀, hr₀, h⟩ := hr
  exact ⟨⟨r₀, hr₀, h.trans (hchange r)⟩, hchange r⟩

section Allocation

variable {s : Store} {F : Store → Prop} {id : SimId}

theorem keeps_underway_claim : (underway s).Keeps F (.changeSim id .claim) :=
  keeps_underway fun _ => ⟨rfl, rfl, fun _ => rfl, .inr ⟨rfl, rfl⟩⟩

theorem keeps_underway_setMsisdn {msisdn : String} :
    (underway s).Keeps F (.changeSim id (.setMsisdn msisdn)) :=
  keeps_underway fun _ => ⟨rfl, rfl, fun h => h, .inr ⟨rfl, rfl⟩⟩

theorem keeps_underway_activated :
    (underway s).Keeps F (.changeSim id (.setRegistryState .activated)) :=
  keeps_underway fun _ => ⟨rfl, rfl, fun h => h, .inl rfl⟩

/-- An allocation on its own, whatever its requests are answered and wherever it stops. Once its
claim has returned and as long as no activation is recorded, the SIM is among the pending ones
exactly when it was not suspended before. -/
theorem pending_iff_of_allocate (s : Store) (bindings : Bindings) (pool : Pool) (msisdn : String)
    {moves : List (Move Unit)} {w : World fun _ : Unit => Except Error SimDetails}
    (hrun : (World.start s fun _ => (Handout.allocate bindings pool msisdn).run).run moves = some w)
    {sim : Sim} (hclaimed : (Stock.claim pool).run.Returned (w.turnsOf ()) (.ok sim)) :
    ∃ before ∈ s.sims.rows, ∃ after ∈ w.store.sims.rows, before.id = sim.id ∧ after.id = sim.id ∧
      (after.registryState = .notActivated →
        (after ∈ Query.eval w.store (.pendingSims pool.registry) ↔ before.suspendedAt = none)) := by
  have horderly : (World.start s fun _ : Unit =>
      (Handout.allocate bindings pool msisdn).run).Orderly (underway s).law True
      fun _ _ st _ => st.isOpen = false := by
    refine Discipline.orderly_start (fun r hr => ⟨r, hr, .refl r⟩) fun _ => ?_
    exact Handout.issues_allocate (fun _ => keeps_underway_claim)
      (fun _ _ => keeps_underway_setMsisdn) fun _ => keeps_underway_activated
  have hend := (horderly.run (fun _ _ _ => trivial) hrun).lawful
  obtain ⟨h, he, hgained⟩ := Stock.gained_of_returned horderly (fun _ => keeps_underway_claim)
    (Handout.run_allocate bindings pool msisdn) (fun _ _ _ => trivial) hrun hclaimed
  -- The SIM that was claimed, as it is now and as it was at first.
  obtain ⟨after, hafter, hid, hprov⟩ := Discipline.lasting_hasClaimed_ofRows
    (fun _ _ h => ⟨h.id, h.provisioned⟩) sim.id _ _ (Discipline.rel_of_extends he hend)
    hgained.claimed
  obtain ⟨before, hbefore, hunderway⟩ := hend.1 after hafter
  have hregistry : after.registryId = pool.registry := by
    obtain ⟨h₁, c, hlaw₁, -, hc, rfl, hcid⟩ := hgained.chosen
    obtain ⟨c₀, hc₀, hc₀c⟩ := hlaw₁.1 c hc
    have hsame : c₀.id = before.id :=
      hc₀c.id.symm.trans (hcid.trans (hid.symm.trans hunderway.id))
    obtain rfl := Table.id_inj hc₀ hbefore hsame
    exact hunderway.registryId.trans hc₀c.registryId.symm
  refine ⟨before, hbefore, after, hafter, hunderway.id.symm.trans hid, hid, fun hstate => ?_⟩
  have hsusp : after.suspendedAt = before.suspendedAt := by
    rcases hunderway.registry with hact | ⟨-, hsusp⟩
    · rw [hstate] at hact
      cases hact
    · exact hsusp
  rw [← hsusp]
  simp [Query.eval, Table.select, hafter, hregistry, hprov, hstate]

end Allocation

/-- The depot of the first day, whose SIM is suspended and ready, when an allocation claims the SIM
and the registry does not answer. -/
def stopped : World fun _ : Unit => Except Error SimDetails :=
  ((World.start firstReleased.store fun _ =>
    (Handout.allocate firstServices ⟨1, "P"⟩ "4790").run).run
      (List.replicate 7 (.turn () .plain) ++
        [.turn () (.call (.error (.service "" (.stated ""))))])).get
    (by decide +kernel)

/-- The SIM that was suspended in stock is claimed, not active, and not among the pending ones. -/
theorem not_pending_of_suspended : firstWorld.run firstMoves = some firstReleased ∧
    ∃ sim, (Stock.claim ⟨1, "P"⟩).run.Returned (stopped.turnsOf ()) (.ok sim) ∧
      ∃ r ∈ stopped.store.sims.rows, r.id = sim.id ∧ r.provisionState = .provisioned ∧
        r.registryState = .notActivated ∧ r ∉ Query.eval stopped.store (.pendingSims 1) := by
  obtain ⟨sim, hsim⟩ : ∃ sim,
      (Stock.claim ⟨1, "P"⟩).run.Returned (stopped.turnsOf ()) (.ok sim) :=
    Flow.exists_returned_ok (by decide +kernel)
  have hstates : ∀ r ∈ stopped.store.sims.rows,
      r.provisionState = .provisioned ∧ r.registryState = .notActivated := by decide +kernel
  have hsuspended : ∀ r ∈ firstReleased.store.sims.rows, r.suspendedAt ≠ none := by decide +kernel
  obtain ⟨before, hbefore, after, hafter, -, hid, hlisted⟩ := pending_iff_of_allocate
    firstReleased.store firstServices ⟨1, "P"⟩ "4790" (Option.some_get _).symm hsim
  obtain ⟨hprov, hstate⟩ := hstates after hafter
  exact ⟨run_firstMoves, sim, hsim, after, hafter, hid, hprov, hstate,
    fun h => hsuspended before hbefore ((hlisted hstate).1 h)⟩

end SimDepot
