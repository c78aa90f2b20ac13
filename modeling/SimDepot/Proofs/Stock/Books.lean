import SimDepot.Proofs.Session.Succession
import SimDepot.Proofs.Stock.Census
import SimDepot.Proofs.Stock.Undisturbed

/-!
# The books of a pool

The figures of a pool are what the operations so far say that they did: the SIMs that are stored are
those of the feeds that were imported, the SIMs that were released those that the reports of passes
count, and the claimed ones those that were handed out, or would have been had the registry carried
its call out. `books_balance` says so for all operations of the facade, one after the other.

Each operation is good for some SIMs, at one stage at most, and brings just as many to that stage;
the run adds this up.
-/

namespace SimDepot

open SimDepot.Action

/-- The error with which the call of a registry service failed, if the request was a call that
activates. -/
def Turn.refusal? : Turn → Option Error
  | ⟨.activate .., .error e⟩ => some e
  | _ => none

/-- An allocation succeeded, or it ended with the error of the call of its registry. -/
def Handout.isHandedOut (res : Except Error SimDetails) (turns : List Turn) : Bool :=
  match res with
  | .ok _ => true
  | .error e => turns.any fun turn => turn.refusal? == some e

namespace Operation

/-- How many SIMs of a pool an operation imported. -/
def imported (pool : Pool) : (o : Operation) → Except Error o.Value → Nat
  | importFeed records registry _ _, .ok _ => Feed.countFor pool registry records
  | _, _ => 0

/-- How many SIMs of a pool an operation reports to have released. -/
def released (pool : Pool) : (o : Operation) → Except Error o.Value → Nat
  | reconcile _, .ok report => PassReport.releasedIn report pool
  | _, _ => 0

/-- How many SIMs of a pool an operation handed out, be it that the call of the registry failed. -/
def handedOut (pool : Pool) : (o : Operation) → Except Error o.Value → List Turn → Nat
  | allocate pool' _, res, turns => if pool' = pool ∧ Handout.isHandedOut res turns then 1 else 0
  | _, _, _ => 0

/-- How many SIMs of a pool an operation brought to a stage. -/
def brought (pool : Pool) (o : Operation) (res : Except Error o.Value) (turns : List Turn) :
    Stage → Nat
  | .stored => o.imported pool res
  | .released => o.released pool res
  | .claimed => o.handedOut pool res turns

end Operation

section Sessions

variable {ι : Type} [DecidableEq ι] {i : ι} {h : Chronicle ι} {bindings : Bindings}

namespace Operation

/-- An operation brought to every stage of every pool as many SIMs as it is good for. -/
def Books (i : ι) (h : Chronicle ι) (o : Operation) (res : Except Error o.Value)
    (h' : Chronicle ι) : Prop :=
  ∀ pool stage, h'.store.reached pool stage =
    h.store.reached pool stage + o.brought pool res (h'.turnsOf i) stage

theorem books_of_idle {o : Operation} {res : Except Error o.Value} {h' : Chronicle ι}
    (hstore : ∀ pool stage, h'.store.reached pool stage = h.store.reached pool stage)
    (hidle : ∀ pool stage, o.brought pool res (h'.turnsOf i) stage = 0) : o.Books i h res h' :=
  fun pool stage => by rw [hstore, hidle, Nat.add_zero]

end Operation

/-! ## Operations that bring nothing about -/

/-- No SIM comes to a stage. -/
def level : Discipline where
  inv _ := True
  rel s s' := ∀ pool stage, s'.reached pool stage = s.reached pool stage
  refl _ _ _ := rfl
  trans h h' pool stage := (h' pool stage).trans (h pool stage)

theorem keeps_level_of_plain {c : Command} (hchange : ∀ id change, c ≠ .changeSim id change)
    (hadd : ∀ drafts, c ≠ .addSims drafts) : level.Keeps (fun _ => True) c := by
  intro s s' a _ _ hexec
  rcases Command.exec_sims hexec with hsims | ⟨id, change, hc, -⟩ | ⟨drafts, hc, -⟩
  · exact ⟨trivial, fun _ _ => Store.reached_of_sims_eq hsims⟩
  · exact absurd hc (hchange id change)
  · exact absurd hc (hadd drafts)

/-- The change takes nothing back and brings a SIM to no stage. -/
def SimChange.isStill : SimChange → Bool
  | setEid _ | setMsisdn _ | setRegistryState .activated | suspend _ => true
  | _ => false

theorem SimChange.reaches_of_isStill {change : SimChange} (hstill : change.isStill) :
    change.isForward ∧ ∀ stage, change.reaches stage = false := by
  cases change with
  | setEid _ | setMsisdn _ | suspend _ => exact ⟨rfl, fun _ => rfl⟩
  | setRegistryState state =>
    cases state with
    | activated => exact ⟨rfl, fun _ => rfl⟩
    | notActivated => cases hstill
  | _ => cases hstill

theorem keeps_level_changeSim {id : SimId} {change : SimChange} (hstill : change.isStill) :
    level.Keeps (fun _ => True) (.changeSim id change) := by
  intro s s' a _ _ hexec
  cases hexec
  obtain ⟨hforward, hnone⟩ := SimChange.reaches_of_isStill hstill
  exact ⟨trivial, fun pool stage =>
    Store.reached_changeSim_of_not_reaches hforward (hnone stage) s id pool⟩

omit [DecidableEq ι] in
/-- A part of a session that gives only such commands. -/
theorem undisturbed_level {α : Type} {x : Action α}
    (hx : Issues (level.Keeps fun _ => True) false x) :
    Action.Undisturbed i (fun _ _ h' => ∀ pool stage, h'.store.reached pool stage =
      h.store.reached pool stage) x .outside h := by
  have hserves : level.Serves i fun h' => level.rel h.store h'.store :=
    ⟨fun _ => trivial, fun _ _ _ hearly hlate => level.trans hearly hlate⟩
  have habides : Action.Abides i (fun h' => level.rel h.store h'.store) False _ _ x .outside h :=
    hserves.abides_of_issues hx (level.refl h.store)
  refine (Flow.Abides.undisturbed habides).mono fun res st h' hres => ?_
  cases res <;> exact hres

namespace Operation

/-- The operation brings no SIM to a stage, whatever comes of it. -/
def isIdle : Operation → Bool
  | addEntry .. | ensureEntry .. | permit .. | activate .. | suspend _ | inquire _ => true
  | _ => false

theorem brought_of_isIdle {o : Operation} (hidle : o.isIdle) (pool : Pool)
    (res : Except Error o.Value) (turns : List Turn) (stage : Stage) :
    o.brought pool res turns stage = 0 := by
  cases o with
  | addEntry _ _ | ensureEntry _ _ | permit _ _ | activate _ _ _ | suspend _ | inquire _ =>
    cases stage <;> rfl
  | _ => cases hidle

theorem issues_level {o : Operation} (hidle : o.isIdle) :
    Issues (level.Keeps fun _ => True) false (o.action bindings) := by
  cases o with
  | addEntry role name =>
    exact Directory.issues_add (keeps_level_of_plain (by simp) (by simp))
  | ensureEntry role name =>
    exact Directory.issues_ensure (keeps_level_of_plain (by simp) (by simp))
  | permit vendor registry =>
    exact Directory.issues_permit (keeps_level_of_plain (by simp) (by simp))
  | activate registry iccid msisdn =>
    exact Handout.issues_activate (fun _ _ _ => keeps_level_changeSim rfl)
      fun _ => keeps_level_changeSim rfl
  | suspend iccid => exact Handout.issues_suspend fun _ _ => keeps_level_changeSim rfl
  | inquire q => exact q.issues_action
  | _ => cases hidle

theorem undisturbed_idle {o : Operation} (hidle : o.isIdle) :
    Action.Undisturbed i (fun res _ h' => o.Books i h res h') (o.action bindings) .outside h :=
  (undisturbed_level (issues_level hidle)).mono fun res _ _ hlevel =>
    books_of_idle hlevel fun pool stage => brought_of_isIdle hidle pool res _ stage

end Operation

/-! ## Imports and passes -/

/-- The answer is one of a store that does not fail: it answers questions and closes batches. -/
def Turn.isCalm : Turn → Bool
  | ⟨.read _, .error _⟩ | ⟨.write (.closeBatch ..), .error _⟩ => false
  | _ => true

theorem Turn.isCalm_of_serve (r : Request) (cue : Cue) (a : r.Answer) (st st' : Standing)
    (s s' : Store) (hcue : cue.isFault = false) (h : serve r cue st s = some (a, st', s')) :
    Turn.isCalm ⟨r, a⟩ := by
  cases r with
  | read q =>
    cases cue <;> cases h
    · rfl
    · cases hcue
  | write c =>
    cases c with
    | closeBatch id size status time =>
      cases cue <;> simp only [serve, Standing.write, Option.some.injEq, reduceCtorEq] at h
      · cases st <;> cases h <;> rfl
      · cases hcue
    | _ => rfl
  | _ => rfl

/-- An import brings SIMs to be stored, if it succeeds. -/
theorem undisturbed_importFeed (hs : h.store.Sound) (hturns : h.turnsOf i = [])
    (records : List FeedRecord) (registry : RegistryId) (vendor : VendorId) (importer : String) :
    Action.Undisturbed i
      (fun res _ h' => (Operation.importFeed records registry vendor importer).Books i h res h')
      (Feed.importAll records registry vendor importer) .outside h := by
  have hcommit : ¬ h.HasCommitted i := by simp [Chronicle.HasCommitted, hturns]
  have hafter : Action.Undisturbed i (fun res st h' => st = .outside ∧
      Feed.Aftermath h.store records registry vendor i res h')
      (Feed.importAll records registry vendor importer) .outside h :=
    Flow.Endures.undisturbed (Feed.endures_importAll hcommit)
  have hcalm := Flow.Undisturbed.answered (Q := fun turn => turn.isCalm) Turn.isCalm_of_serve
    hafter (by simp [hturns])
  have hsound := (Operation.importFeed records registry vendor importer).undisturbed_sound .empty hs
    (i := i)
  refine (hcalm.and hsound).mono ?_
  rintro res st h' ⟨⟨⟨-, hend⟩, hcalm⟩, hs'⟩
  cases hend with
  | nothing hsims _ =>
    refine Operation.books_of_idle (fun _ _ => Store.reached_of_sims_eq hsims) fun _ stage => ?_
    cases stage <;> rfl
  | completed hregistry _ hstored =>
    intro pool stage
    rw [hstored.reached, hregistry]
    cases stage <;> rfl
  | unclosed _ _ _ hstored _ hclose =>
    -- A store that does not fail closes the batch, and the feed is not too long for it.
    exfalso
    generalize h'.turnsOf i = turns at hclose hcalm
    cases hclose with
    | command early time failure =>
      have hfailed := hcalm _ (List.mem_append_right _ (List.mem_singleton.2 rfl))
      cases hfailed
    | question early time n failure =>
      have hfailed := hcalm _ (List.mem_append_right _
        (List.mem_cons_of_mem _ (List.mem_singleton.2 rfl)))
      cases hfailed
    | size turns hsize =>
      -- There are not that many identities.
      have hlast := hstored.last
      have hnonneg := hs.nonneg
      have hle := hs'.le_maxId
      unfold Batch.maxSize at hsize
      unfold maxId at hle
      omega

/-- A pass brings SIMs to be released, as many as its reports count. -/
theorem undisturbed_reconcile (hs : h.store.Sound) (tuning : Tuning) :
    Action.Undisturbed i (fun res _ h' => (Operation.reconcile tuning).Books i h res h')
      (Reconcile.pass bindings tuning) .outside h := by
  refine Flow.Undisturbed.mono Reconcile.undisturbed_pass ?_
  rintro _ _ h' ⟨-, reports, calls, rfl, hrounds, hsupplied⟩ pool stage
  rw [hsupplied.store, hrounds.reached_supplyAll hs.referential]
  cases stage <;> rfl

/-! ## Allocations -/

theorem Turn.refusal?_of_not_isCall {turn : Turn} (h : turn.request.isCall = false) :
    turn.refusal? = none := by
  unfold refusal?
  split
  · cases h
  · rfl

omit [DecidableEq ι] in
/-- A claim brings one SIM of its pool to be claimed, where it gets one, and calls nobody. -/
theorem undisturbed_claimOne (pool : Pool) :
    Action.Undisturbed i (fun res st h' => Chronicle.OnlyAsked i (fun r => r.isCall = false) h h' ∧
      match res with
      | .ok sim => st = .outside ∧ sim ∈ h'.store.sims.rows ∧ sim.vendorState = .released ∧
        ∀ pool' stage, h'.store.reached pool' stage = h.store.reached pool' stage +
          if pool = pool' ∧ stage = .claimed then 1 else 0
      | .error _ => h'.store = h.store) (Stock.claim pool) .outside h := by
  refine (Stock.undisturbed_claim pool).mono fun res st h' ⟨hst, hasked, hres⟩ => ⟨hasked, ?_⟩
  rcases hres with ⟨c, hc, rfl, hstore⟩ | ⟨-, rfl, hstore⟩
  · refine ⟨hst, ?_, hc.released, fun pool' stage => ?_⟩
    · rw [hstore]
      exact Store.change_mem_changeSim hc.mem hc.ready
    · rw [hstore, Store.reached_claim hc.mem hc.ready, hc.pool_eq]
  · exact hstore

/-- Once a SIM is claimed the allocation succeeds, or its registry call fails. -/
theorem undisturbed_confirm {r : Sim} (hr : r ∈ h.store.sims.rows)
    (hreleased : r.vendorState = .released) (pool : Pool) (msisdn : String) :
    Action.Undisturbed i (fun res _ h' => Handout.isHandedOut res (h'.turnsOf i))
      (Handout.confirm bindings pool msisdn r) .outside h := by
  -- Both updates are admitted, so that only the call between them can fail.
  have hfree : (SimChange.setMsisdn msisdn).admits r.toSimData := rfl
  refine undisturbed_bind (Flow.Undisturbed.mono (Stock.undisturbed_admitted hr hfree) ?_)
  rintro _ _ h₁ ⟨rfl, -, rfl, hstore⟩
  refine undisturbed_bind (undisturbed_activate fun res => ?_)
  cases res with
  | error e => simp [Handout.isHandedOut, Turn.refusal?]
  | ok a =>
    have hadmits : (SimChange.setRegistryState .activated).admits
        (r.change (.setMsisdn msisdn)).toSimData := by
      simpa [SimChange.admits, SimChange.apply] using hreleased
    have hnumbered : r.change (.setMsisdn msisdn) ∈
        (h₁.note i ⟨.activate pool.registry r.iccid msisdn, .ok a⟩ h₁.store).store.sims.rows := by
      rw [Chronicle.store_note, hstore]
      exact Store.change_mem_changeSim hr hfree
    refine undisturbed_bind (Flow.Undisturbed.mono
      (Stock.undisturbed_admitted hnumbered hadmits) ?_)
    rintro _ _ h₂ ⟨rfl, -, rfl, -⟩
    exact undisturbed_pure rfl

/-- An allocation brings a SIM to be claimed, unless it got none. -/
theorem undisturbed_handOut (hturns : h.turnsOf i = []) (pool : Pool) (msisdn : String) :
    Action.Undisturbed i (fun res _ h' => (Operation.allocate pool msisdn).Books i h res h')
      (Handout.allocate bindings pool msisdn) .outside h := by
  rcases Handout.allocate_cases bindings pool msisdn with ⟨e, he⟩ | hclaim
  · rw [he]
    refine undisturbed_throw (Operation.books_of_idle (fun _ _ => rfl) fun pool' stage => ?_)
    cases stage <;> simp [Operation.brought, Operation.imported, Operation.released,
      Operation.handedOut, Handout.isHandedOut, hturns]
  rw [hclaim]
  refine undisturbed_bind ((undisturbed_claimOne pool).mono ?_)
  rintro (e | sim) st h₁ ⟨hasked, hres⟩
  · -- A claim calls nobody, so its error is not one of a registry.
    have hnone : ¬ Handout.isHandedOut (.error e) (h₁.turnsOf i) := by
      rw [Handout.isHandedOut, Bool.not_eq_true, List.any_eq_false]
      intro turn hturn
      have hcall := (hasked.of_mem_turnsOf hturn).resolve_left (by simp [hturns])
      simp [Turn.refusal?_of_not_isCall hcall]
    refine Operation.books_of_idle (fun _ _ => by rw [hres]) fun pool' stage => ?_
    cases stage <;> simp [Operation.brought, Operation.imported, Operation.released,
      Operation.handedOut, hnone]
  · obtain ⟨rfl, hsim, hreleased, hreached⟩ := hres
    have hlevel : Issues (level.Keeps fun _ => True) false
        (Handout.confirm bindings pool msisdn sim) :=
      Handout.issues_confirm (fun _ => keeps_level_changeSim rfl) fun _ => keeps_level_changeSim rfl
    refine ((undisturbed_level hlevel).and (undisturbed_confirm hsim hreleased pool msisdn)).mono ?_
    rintro res _ h₂ ⟨hlevel, houtcome⟩ pool' stage
    rw [hlevel, hreached]
    cases stage <;> simp [Operation.brought, Operation.imported, Operation.released,
      Operation.handedOut, houtcome]

/-- Every operation of the facade brings to each stage as many SIMs as it is good for. -/
theorem Operation.undisturbed_books {o : Operation} (hfacade : o.isFacade) (hs : h.store.Sound)
    (hturns : h.turnsOf i = []) :
    Action.Undisturbed i (fun res _ h' => o.Books i h res h') (o.action bindings) .outside h := by
  cases o with
  | importFeed records registry vendor importer =>
    exact undisturbed_importFeed hs hturns records registry vendor importer
  | reconcile tuning => exact undisturbed_reconcile hs tuning
  | allocate pool msisdn => exact undisturbed_handOut hturns pool msisdn
  | addEntry _ _ | ensureEntry _ _ | permit _ _ | activate _ _ _ | suspend _ | inquire _ =>
    exact undisturbed_idle rfl
  | _ => cases hfacade

end Sessions

/-! ## What the figures say at any time -/

/-- Alone on a store, the flow comes to an end, and however it does, `post` holds of the result and
of what lasts then. -/
def Flow.Settles {α : Type} (post : α → Store → Prop) (x : Flow α) (s : Store) : Prop :=
  (∃ a s', x.ComesTo s a s') ∧ ∀ a s', x.ComesTo s a s' → post a s'

theorem Flow.settles_of_alone {α : Type} {post : α → Store → Prop} {x : Flow α} {s : Store}
    (hx : x.Alone (fun a _ s' => post a s') .outside s) : x.Settles post s :=
  ⟨exists_comesTo x s, fun _ _ h => (post_of_comesTo hx h).elim fun _ hpost => hpost⟩

/-- The figures of a pool count its SIMs, and tell whether a raw one can be found and whether one
can be claimed. -/
structure Store.Balanced (s : Store) (pool : Pool) : Prop where
  /-- To ask for the figures succeeds and changes nothing. -/
  read : (PoolFigures.read pool).run.Settles
    (fun res s' => res = .ok (s.figures pool) ∧ s' = s) s
  /-- The first figure counts the SIMs of the pool. -/
  length : (s.figures pool).total = (s.rowsOf pool).length
  /-- The other figures add up to it. -/
  total : (s.figures pool).total =
    (s.figures pool).raw + (s.figures pool).ready + (s.figures pool).claimed
  /-- A raw SIM is found exactly where there is one. -/
  nextRaw : (Stock.nextRaw pool).run.Settles
    (fun res _ => res.isOk ↔ 0 < (s.figures pool).raw) s
  /-- A SIM is claimed exactly where one is ready. -/
  claim : (Stock.claim pool).run.Settles
    (fun res _ => res.isOk ↔ 0 < (s.figures pool).ready) s

theorem Store.balanced (s : Store) (pool : Pool) : s.Balanced pool where
  read := Flow.settles_of_alone (PoolFigures.alone_read ⟨rfl, rfl⟩)
  length := rfl
  total := s.total_figures pool
  nextRaw := by
    refine Flow.settles_of_alone (Stock.alone_find (fun r hr => ?_) fun hnone => ?_)
    · rw [Standing.view_outside, eval_raw] at hr
      rw [raw_figures]
      exact iff_of_true rfl (List.length_pos_of_mem (List.mem_of_head? hr))
    · rw [Standing.view_outside, eval_raw, List.head?_eq_none_iff] at hnone
      rw [raw_figures, hnone]
      exact iff_of_false nofun (Nat.lt_irrefl 0)
  claim := by
    refine Flow.settles_of_alone (Stock.alone_claim (fun c hc => ?_) fun hnone => ?_)
    · refine iff_of_true rfl (List.countP_pos_iff.2 ⟨c, ?_, hc.ready⟩)
      exact mem_rowsOf.2 ⟨hc.mem, hc.pool_eq⟩
    · refine iff_of_false nofun fun hpos => ?_
      obtain ⟨r, hr, hready⟩ := List.countP_pos_iff.1 hpos
      obtain ⟨hr, hpool⟩ := mem_rowsOf.1 hr
      rw [hnone r hr hpool] at hready
      cases hready

/-! ## Whole runs -/

/-- From empty tables on, operations of the facade one after the other, whatever services answer,
when the store does not fail. A pool has as many SIMs as there are records for it in the feeds that
were imported with success; as many of them are not raw any more as the reports of passes count; and
as many are claimed as there were allocations from the pool that succeeded or whose registry call
failed. At any time, here or with any other store, the figures add up, a raw SIM is found exactly
where there is one, and a SIM is claimed exactly where one is ready. -/
theorem books_balance {ι : Type} [DecidableEq ι] (ops : ι → Operation)
    (hfacade : ∀ i, (ops i).isFacade) (bindings : ι → Bindings) {visits : List (Visit ι)}
    (hsmooth : ∀ v ∈ visits, v.isSmooth) {w : World fun i => Except Error (ops i).Value}
    (hrun : (World.start .empty fun i => ((ops i).action (bindings i)).run).runInTurn visits =
      some w) (pool : Pool) :
    (w.store.figures pool).total = ∑ i ∈ Visit.sessions visits,
        w.tally (fun i res _ => (ops i).imported pool res) i ∧
      (w.store.figures pool).total - (w.store.figures pool).raw = ∑ i ∈ Visit.sessions visits,
        w.tally (fun i res _ => (ops i).released pool res) i ∧
      (w.store.figures pool).claimed = ∑ i ∈ Visit.sessions visits,
        w.tally (fun i res turns => (ops i).handedOut pool res turns) i ∧
      ∀ (s : Store) (pool : Pool), s.Balanced pool := by
  have hsum : ∀ stage, w.store.Sound ∧ w.store.reached pool stage =
      Store.empty.reached pool stage + ∑ i ∈ Visit.sessions visits,
        w.tally (fun i res turns => (ops i).brought pool res turns stage) i := by
    intro stage
    refine World.runInTurn_tally (J := fun h => h.store.Sound) (f := fun s => s.reached pool stage)
      (fun i h hs hturns => ?_) Store.sound_empty hsmooth hrun
    refine Flow.Undisturbed.mono (((ops i).undisturbed_books (hfacade i) hs hturns).and
      ((ops i).undisturbed_sound (bindings i) hs)) fun _ _ _ hend => ?_
    exact ⟨hend.2, hend.1 pool stage⟩
  have hempty : ∀ stage, Store.empty.reached pool stage = 0 := fun _ => rfl
  refine ⟨?_, ?_, ?_, Store.balanced⟩
  · rw [Store.total_figures_eq, (hsum .stored).2, hempty, Nat.zero_add]
    rfl
  · have hraw := w.store.raw_add_reached pool
    rw [(hsum .released).2, hempty, Nat.zero_add] at hraw
    rw [← hraw, Nat.add_sub_cancel_left]
    rfl
  · rw [Store.claimed_figures_eq (hsum .claimed).1.ordered, (hsum .claimed).2, hempty,
      Nat.zero_add]
    rfl

/-! ### A day with failures -/

/-- The first day again, with two SIMs in the feed. The feed is imported twice, and two callers want
a SIM when one is released. -/
def failingDay : Nat → Operation
  | 3 | 4 => .importFeed [⟨"8947", "2420", none, "P"⟩, ⟨"8948", "2421", none, " P "⟩] 1 1 "feed"
  | i => firstDay i

/-- The second import fails, the registry refuses the SIM that is handed out, and for the last
caller nothing is ready. -/
def failingVisits : List (Visit Nat) :=
  [⟨0, [.plain, .plain]⟩, ⟨1, [.plain, .plain]⟩, ⟨2, [.plain, .plain, .plain, .plain]⟩,
    ⟨3, [.plain, .plain, .plain, .time .epoch, .plain, .plain, .plain, .plain, .plain, .time .epoch,
      .plain, .plain]⟩,
    ⟨4, [.plain, .plain, .plain, .time .epoch, .plain, .plain, .plain, .plain, .plain, .time .epoch,
      .plain, .plain]⟩,
    ⟨5, [.plain, .plain, .plain, .plain, .release (.ok ⟨"M", none⟩), .plain, .plain]⟩,
    ⟨6, [.plain, .plain, .plain, .plain, .plain, .plain, .plain,
      .call (.error (.service "Registry" (.stated "down")))]⟩,
    ⟨7, [.plain, .plain, .plain]⟩]

/-- The depot at the end of the day. -/
def dayEnded : World fun i => Except Error (failingDay i).Value :=
  ((World.start .empty fun i => ((failingDay i).action firstServices).run).runInTurn
    failingVisits).get (by decide +kernel)

/-- One import, one release and one allocation make up the figures. -/
theorem books_balance_of_failingDay :
    (World.start .empty fun i => ((failingDay i).action firstServices).run).runInTurn
        failingVisits = some dayEnded ∧
      dayEnded.store.figures ⟨1, "P"⟩ = ⟨2, 1, 0, 1⟩ := by
  have hfacade : ∀ i, (failingDay i).isFacade
    | 0 | 1 | 2 | 3 | 4 | 5 | _ + 6 => rfl
  have hrun : (World.start .empty fun i => ((failingDay i).action firstServices).run).runInTurn
      failingVisits = some dayEnded := (Option.some_get _).symm
  obtain ⟨htotal, hreleased, hclaimed, hbalanced⟩ := books_balance failingDay hfacade
    (fun _ => firstServices) (by decide) hrun ⟨1, "P"⟩
  have himported : ∑ i ∈ Visit.sessions failingVisits,
      dayEnded.tally (fun i res _ => (failingDay i).imported ⟨1, "P"⟩ res) i = 2 := by
    decide +kernel
  have hreports : ∑ i ∈ Visit.sessions failingVisits,
      dayEnded.tally (fun i res _ => (failingDay i).released ⟨1, "P"⟩ res) i = 1 := by
    decide +kernel
  have hhanded : ∑ i ∈ Visit.sessions failingVisits,
      dayEnded.tally (fun i res turns => (failingDay i).handedOut ⟨1, "P"⟩ res turns) i = 1 := by
    decide +kernel
  -- Three sums settle three figures, and the balance the fourth.
  have hsum := (hbalanced dayEnded.store ⟨1, "P"⟩).total
  generalize dayEnded.store.figures ⟨1, "P"⟩ = figures at *
  obtain ⟨total, raw, ready, claimed⟩ := figures
  refine ⟨hrun, ?_⟩
  rw [PoolFigures.mk.injEq]
  simp only at htotal hreleased hclaimed hsum
  omega

end SimDepot
