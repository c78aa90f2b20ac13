import SimDepot.Proofs.Claim.Taking
import SimDepot.Proofs.Session.Discipline

/-!
# Disciplines row by row

A discipline on the SIMs: what holds of every SIM that is stored, and what becomes of each. SIMs do
not disappear, so that each goes on as some SIM of any later store. Whether a command keeps such a
discipline is a question about single SIMs: the one that it changes, or those that it adds.
-/

namespace SimDepot

namespace Discipline

/-- `I` holds of every SIM, and every SIM goes on as `R` allows. -/
def ofRows (I : Sim → Prop) (R : Sim → Sim → Prop) (refl : ∀ r, R r r)
    (trans : ∀ {a b c}, R a b → R b c → R a c) : Discipline where
  inv s := ∀ r ∈ s.sims.rows, I r
  rel s s' := ∀ r ∈ s.sims.rows, ∃ r' ∈ s'.sims.rows, R r r'
  refl _ r hr := ⟨r, hr, refl r⟩
  trans hab hbc r hr := by
    obtain ⟨r', hr', h⟩ := hab r hr
    obtain ⟨r'', hr'', h'⟩ := hbc r' hr'
    exact ⟨r'', hr'', trans h h'⟩

variable {I : Sim → Prop} {R : Sim → Sim → Prop} {refl : ∀ r, R r r}
  {trans : ∀ {a b c}, R a b → R b c → R a c} {F : Store → Prop}

theorem inv_ofRows_empty : (ofRows I R refl trans).inv .empty := by
  simp [ofRows, Store.empty, Table.empty]

/-- Where no claim is given up, a SIM that is claimed stays claimed. -/
theorem lasting_hasClaimed_ofRows (hR : ∀ r r', R r r' → r'.id = r.id ∧
    (r.provisionState = .provisioned → r'.provisionState = .provisioned)) (id : SimId) :
    (ofRows I R refl trans).Lasting (·.HasClaimed id) := by
  rintro s s' hrel ⟨r, hr, rfl, hprov⟩
  obtain ⟨r', hr', h⟩ := hrel r hr
  exact ⟨r', hr', (hR r r' h).1, (hR r r' h).2 hprov⟩

/-- A command keeps the discipline when the change that it makes does, on the SIM where it is made,
and the SIMs that it adds satisfy `I`. -/
theorem keeps_ofRows {c : Command}
    (hchange : ∀ s r change, F s → c = .changeSim r.id change → r ∈ s.sims.rows → I r →
      change.admits r.toSimData → I (r.change change) ∧ R r (r.change change))
    (hadd : ∀ drafts, c = .addSims drafts → ∀ d ∈ drafts, ∀ r : Sim,
      r.toSimData = d.toSimData → I r) :
    (ofRows I R refl trans).Keeps F c := by
  intro s s' a hinv hF hexec
  constructor
  · intro r hr
    rcases Command.row_after hexec hr with
      hr | ⟨r₀, hr₀, change, hc, hadmits, rfl⟩ | ⟨drafts, hc, d, hd, hrd⟩
    · exact hinv r hr
    · exact (hchange s r₀ change hF hc hr₀ (hinv r₀ hr₀) hadmits).1
    · exact hadd drafts hc d hd r hrd
  · intro r hr
    rcases Command.row_before hexec hr with hr' | ⟨change, hc, hadmits, hr'⟩
    · exact ⟨r, hr', refl r⟩
    · exact ⟨_, hr', (hchange s r change hF hc hr (hinv r hr) hadmits).2⟩

end Discipline

end SimDepot
