import SimDepot.Proofs.Session.Alone
import SimDepot.Proofs.Store.Growth
import SimDepot.Stock.Intake

/-!
# SIMs are taken in all together or not at all

Taking SIMs in is one step to everybody else: however the list is cut into pieces, it does what
storing the SIMs one after the other does, and where this is refused nothing has changed. So
`Stock.Inserted`, which is about the whole list, says what comes of it, and where the pieces begin
and end does not matter.
-/

namespace SimDepot

open SimDepot.Action

namespace Stock

variable {s : Store}

/-- What storing pieces one after the other makes of what the session sees. -/
theorem alone_addChunks {pieces : List (List SimDraft)} {st : Standing}
    {post : Except Error PUnit → Standing → Store → Prop} (hopen : st.isOpen)
    (hid : ∀ d ∈ pieces.flatten, d.id? = none)
    (href : ∀ d ∈ pieces.flatten, (st.view s).hasReferences d.toSimData)
    (hok : ∀ st' s', pieces.flatten.foldlM Store.addSim (st.view s) = .ok s' → st'.view s = s' →
      post (.ok ()) st' s)
    (herr : ∀ st' refusal, pieces.flatten.foldlM Store.addSim (st.view s) = .error refusal →
      post (.error (.ofInsertion .sim (.refused .execution refusal))) st' s) :
    Alone post (pieces.forM fun chunk => writeOr (.ofInsertion .sim) (.addSims chunk)) st s := by
  induction pieces generalizing st with
  | nil => exact alone_pure (hok st _ rfl rfl)
  | cons chunk rest ih =>
    simp only [List.flatten_cons, List.mem_append, List.foldlM_append] at hid href hok herr
    have hchunk : Command.exec (st.view s) (.addSims chunk) =
        (chunk.foldlM Store.addSim (st.view s)).map fun s => (s, ()) := by
      rw [← Store.addSims_of_hasReferences (fun d hd => hid d (.inl hd))
        fun d hd => href d (.inl hd)]
      rfl
    refine alone_bind (alone_write_within hopen (fun s₁ a hexec => ?_) fun refusal hexec => ?_)
    · rw [hchunk] at hexec
      cases hfold : chunk.foldlM Store.addSim (st.view s) with
      | error refusal =>
        rw [hfold] at hexec
        cases hexec
      | ok s₂ =>
        rw [hfold] at hexec hok herr
        cases hexec
        have hgrown := Store.grown_of_foldlM (fun d hd => hid d (.inl hd)) hfold
        refine ih rfl (fun d hd => hid d (.inr hd)) (fun d hd => ?_) hok herr
        rw [Standing.view_writing, hgrown.hasReferences]
        exact href d (.inr hd)
    · rw [hchunk] at hexec
      cases hfold : chunk.foldlM Store.addSim (st.view s) with
      | error refusal' =>
        rw [hfold] at hexec herr
        cases hexec
        exact herr st refusal rfl
      | ok s₂ =>
        rw [hfold] at hexec
        cases hexec

/-! ## What comes of it -/

section Spec

variable (s : Store) (drafts : List SimDraft)

/-- How taking SIMs in ends, and what lasts then. -/
inductive Inserted : Except Error Nat → Store → Prop
  /-- The card numbers are free: the SIMs follow those that were stored, in the order of the list and
  under the next identities. -/
  | stored {s' : Store} (haccepts : s.Accepts drafts)
    (hgrown : s.Grown s' (SimData.numbered s.sims.last (drafts.map (·.toSimData))))
    (hascending : s'.sims.rows.Pairwise fun a b => a.id < b.id) :
    Inserted (.ok drafts.length) s'
  /-- A card number is not free: nothing has changed, nor have the identities that are next. -/
  | taken (h : ¬ s.Accepts drafts) : Inserted (.error (.alreadyExists (.sim "sim_resources.iccid"))) s

end Spec

variable {drafts : List SimDraft}

theorem Inserted.eq_ok_iff {res : Except Error Nat} {s' : Store} (h : Inserted s drafts res s') :
    res = .ok drafts.length ↔ s.Accepts drafts := by
  cases h with
  | stored haccepts _ _ => exact iff_of_true rfl haccepts
  | taken h => exact iff_of_false nofun h

/-- Only one end is possible. -/
theorem Inserted.unique {res res' : Except Error Nat} {s₁ s₂ : Store}
    (h : Inserted s drafts res s₁) (h' : Inserted s drafts res' s₂) : res = res' ∧ s₁ = s₂ := by
  cases h with
  | stored haccepts hgrown _ =>
    cases h' with
    | stored _ hgrown' _ => exact ⟨rfl, hgrown.unique hgrown'⟩
    | taken h' => exact absurd haccepts h'
  | taken h =>
    cases h' with
    | stored haccepts _ _ => exact absurd haccepts h
    | taken _ => exact ⟨rfl, rfl⟩

/-- Stores SIMs in one transaction, one piece to a command, and returns their number. -/
def insertPieces (pieces : List (List SimDraft)) : Action Nat :=
  inTransaction do
    pieces.forM fun chunk => writeOr (.ofInsertion .sim) (.addSims chunk)
    commit
    return pieces.flatten.length

/-- Unless there is nothing to store, taking SIMs in stores pieces of the list. -/
theorem insertAll_eq_insertPieces {drafts : List SimDraft} (hne : drafts ≠ []) :
    insertAll drafts = insertPieces (chunks chunkSize (by decide) drafts) := by
  rw [insertAll, if_neg hne, insertPieces, flatten_chunks]

/-- However a list is cut into pieces, storing them ends as the list says. -/
theorem alone_insertPieces {pieces : List (List SimDraft)} (hpieces : pieces.flatten = drafts)
    (hid : ∀ d ∈ drafts, d.id? = none) (href : ∀ d ∈ drafts, s.hasReferences d.toSimData)
    (hroom : s.sims.last + drafts.length ≤ maxId) :
    Alone (fun res st s' => st = .outside ∧ Inserted s drafts res s') (insertPieces pieces)
      .outside s := by
  subst hpieces
  have hcases := Store.foldlM_addSim_cases hid hroom
  refine alone_inTransaction (alone_bind (alone_addChunks rfl hid href ?_ ?_))
  · intro st' s' hfold hview
    refine alone_bind (alone_commit (alone_pure ⟨rfl, ?_⟩))
    rw [hview]
    rcases hcases with ⟨haccepts, -⟩ | ⟨-, herror⟩
    · exact .stored haccepts (Store.grown_of_foldlM hid hfold) s'.sims.sorted
    · exact absurd (hfold.symm.trans herror) nofun
  · intro st' refusal hfold
    rcases hcases with ⟨-, s', hok⟩ | ⟨hnot, herror⟩
    · exact absurd (hfold.symm.trans hok) nofun
    · cases hfold.symm.trans herror
      exact ⟨rfl, .taken hnot⟩

/-- Taking SIMs in ends as their list says. -/
theorem alone_insertAll (hid : ∀ d ∈ drafts, d.id? = none)
    (href : ∀ d ∈ drafts, s.hasReferences d.toSimData)
    (hroom : s.sims.last + drafts.length ≤ maxId) :
    Alone (fun res st s' => st = .outside ∧ Inserted s drafts res s') (insertAll drafts)
      .outside s := by
  by_cases hnil : drafts = []
  · subst hnil
    exact alone_pure ⟨rfl, .stored ⟨.nil, by simp⟩ (.refl s) s.sims.sorted⟩
  · rw [insertAll_eq_insertPieces hnil]
    exact alone_insertPieces (flatten_chunks chunkSize (by decide) drafts) hid href hroom

/-- What leaves a session alone at the end that the list says comes to that end, and to no other. -/
theorem comesTo_iff_inserted {x : Action Nat}
    (hx : Alone (fun res st s' => st = .outside ∧ Inserted s drafts res s') x .outside s)
    {res : Except Error Nat} {s' : Store} : x.run.ComesTo s res s' ↔ Inserted s drafts res s' := by
  have hends : ∀ {res s'}, x.run.ComesTo s res s' → Inserted s drafts res s' := fun hcomes =>
    (Flow.post_of_comesTo hx hcomes).elim fun _ h => h.2
  refine ⟨hends, fun hinserted => ?_⟩
  -- Some end is reached, and there is only one.
  obtain ⟨res₁, s₁, hcomes⟩ := Flow.exists_comesTo x.run s
  obtain ⟨rfl, rfl⟩ := (hends hcomes).unique hinserted
  exact hcomes

/-- While nobody else writes and nothing goes wrong, taking SIMs in that refer to rows that exist and
have no identities of their own comes to one end: all of them are stored if their card numbers differ
from each other and from those that are stored, and otherwise nothing has changed. However the list
is cut into pieces for the commands of the transaction, in particular if one command stores all of
it, the same comes of it. -/
theorem insertAll_atomic (s : Store) (drafts : List SimDraft) (hid : ∀ d ∈ drafts, d.id? = none)
    (href : ∀ d ∈ drafts, s.hasReferences d.toSimData)
    (hroom : s.sims.last + drafts.length ≤ maxId) :
    (∃ res s', (insertAll drafts).run.ComesTo s res s') ∧
      (∀ res s', (insertAll drafts).run.ComesTo s res s' →
        Inserted s drafts res s' ∧ (res = .ok drafts.length ↔ s.Accepts drafts)) ∧
      ∀ pieces : List (List SimDraft), pieces.flatten = drafts → ∀ res s',
        (insertPieces pieces).run.ComesTo s res s' ↔ (insertAll drafts).run.ComesTo s res s' := by
  have hall := alone_insertAll hid href hroom
  refine ⟨Flow.exists_comesTo _ _, fun res s' hcomes => ?_, fun pieces hpieces res s' => ?_⟩
  · have hinserted := (comesTo_iff_inserted hall).1 hcomes
    exact ⟨hinserted, hinserted.eq_ok_iff⟩
  · rw [comesTo_iff_inserted hall]
    exact comesTo_iff_inserted (alone_insertPieces hpieces hid href hroom)

/-- A store without SIMs, and with one row of everything that a SIM refers to. -/
def unstocked : Store :=
  { Store.empty with
    registries := ⟨[⟨1, "Home"⟩], 1, by decide, by decide, by decide⟩
    vendors := ⟨[⟨1, "Maker"⟩], 1, by decide, by decide, by decide⟩
    batches := ⟨[⟨1, "feed", 1, 1, 0, .started, .epoch, none⟩], 1, by decide, by decide,
      by decide⟩ }

/-- A SIM to be stored there. -/
def newCard (iccid : String) : SimDraft where
  iccid := iccid
  imsi := "2420"
  msisdn := none
  eid := none
  profileType := "P"
  registryId := 1
  vendorId := 1
  batchId := 1
  registryState := .notActivated
  vendorState := .available
  provisionState := .available
  matchingId := none
  suspendedAt := none
  id? := none

/-- One card more than a piece holds; the last one repeats the number of the first. -/
def overrun : List SimDraft :=
  (List.range (chunkSize + 1)).map fun n => newCard (toString (n % chunkSize))

theorem insertAll_atomic_of_overrun :
    (∀ d ∈ overrun, d.id? = none) ∧ (∀ d ∈ overrun, unstocked.hasReferences d.toSimData) ∧
      unstocked.sims.last + overrun.length ≤ maxId ∧
      (insertAll overrun).run.ComesTo unstocked (.error (.alreadyExists (.sim "sim_resources.iccid")))
        unstocked ∧
      (insertPieces [overrun]).run.ComesTo unstocked
        (.error (.alreadyExists (.sim "sim_resources.iccid"))) unstocked := by
  have hnew : ∀ d ∈ overrun, ∃ iccid, d = newCard iccid := fun d hd =>
    (List.mem_map.1 hd).imp' _ fun _ h => h.2.symm
  have hid : ∀ d ∈ overrun, d.id? = none := fun d hd => by
    obtain ⟨iccid, rfl⟩ := hnew d hd
    rfl
  have href : ∀ d ∈ overrun, unstocked.hasReferences d.toSimData := fun d hd => by
    obtain ⟨iccid, rfl⟩ := hnew d hd
    rfl
  have hroom : unstocked.sims.last + overrun.length ≤ maxId := by
    rw [overrun, List.length_map, List.length_range]
    decide
  have hrepeat : ¬ unstocked.Accepts overrun := fun haccepts => by
    have hnodup := haccepts.nodup
    rw [overrun, List.range_succ, List.map_append, List.map_append] at hnodup
    have hfirst : toString (chunkSize % chunkSize) ∈ ((List.range chunkSize).map fun n =>
        newCard (toString (n % chunkSize))).map (·.iccid) := by
      rw [List.map_map, List.mem_map]
      exact ⟨0, by decide, rfl⟩
    exact (List.nodup_append.1 hnodup).2.2 _ hfirst _ (List.mem_singleton.2 rfl) rfl
  obtain ⟨⟨res, s', hcomes⟩, hends, hpieces⟩ := insertAll_atomic unstocked overrun hid href hroom
  obtain ⟨hinserted, -⟩ := hends res s' hcomes
  cases hinserted with
  | stored haccepts _ _ => exact absurd haccepts hrepeat
  | taken _ => exact ⟨hid, href, hroom, hcomes, (hpieces [overrun] (by simp) _ _).2 hcomes⟩

end Stock

end SimDepot
