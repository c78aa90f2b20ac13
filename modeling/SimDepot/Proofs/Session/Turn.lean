import SimDepot.Proofs.Session.Rule
import SimDepot.Proofs.Store.Gain
import SimDepot.Stock.Update

/-!
# Rules that look at the turn

The rules of `Rule` are for laws that a session keeps as long as it changes nothing. A law may also
read off the chronicle what a session asked and was answered; then every request counts. Here is one
rule for each request that operations make outside of transactions. Each asks for what the law says
of this request with this answer; all but the one for commands are for a store that does not fail.

`Flow.Asks` says which requests a flow makes at all, whatever they are answered. For a part of an
operation whose requests do not count, this is all there is to know of them.
-/

namespace SimDepot

variable {ι : Type}

namespace Drift

variable [DecidableEq ι] {i : ι} {law : Chronicle ι → Prop} {st : Standing} {h h' : Chronicle ι}

theorem deedsOf_eq (hd : Drift i law st h h') : h'.deedsOf i = h.deedsOf i := by
  induction hd with
  | refl => rfl
  | note _ hj _ _ ih =>
    rw [← ih]
    simp [Chronicle.deedsOf, hj]

theorem turnsOf_eq (hd : Drift i law st h h') : h'.turnsOf i = h.turnsOf i := by
  rw [Chronicle.turnsOf, hd.deedsOf_eq, Chronicle.turnsOf]

theorem gainsOf_eq (hd : Drift i law st h h') (p : Sim → Bool) :
    h'.gainsOf i p = h.gainsOf i p := by
  rw [Chronicle.gainsOf, hd.deedsOf_eq, Chronicle.gainsOf]

end Drift

/-- What a session was answered stays part of the chronicle. -/
theorem Chronicle.Extends.turnsOf_subset [DecidableEq ι] {h h' : Chronicle ι} (he : h.Extends h')
    (i : ι) : h.turnsOf i ⊆ h'.turnsOf i := by
  induction he with
  | refl => exact List.Subset.refl _
  | @note h' he j turn s ih =>
    by_cases hj : j = i
    · subst hj
      rw [turnsOf_note_self]
      exact List.subset_append_of_subset_left _ ih
    · rw [turnsOf_note_of_ne hj]
      exact ih

/-- The request is not for the store: a service answers it, or the clock. -/
def Request.isElsewhere : Request → Bool
  | activate .. | suspend .. | release .. | probe _ | now | pause _ => true
  | _ => false

theorem serve_of_isElsewhere {r : Request} (hr : r.isElsewhere) {cue : Cue} {st st' : Standing}
    {s s' : Store} {a : r.Answer} (h : serve r cue st s = some (a, st', s')) :
    st' = st ∧ s' = s := by
  cases r <;> cases hr <;> cases cue <;> cases h <;> exact ⟨rfl, rfl⟩

/-- The rule for a request that is not for the store. -/
theorem Flow.abides_request_elsewhere {i : ι} {law : Chronicle ι → Prop} {faulty : Prop}
    {h : Chronicle ι} {st : Standing} {r : Request}
    {post : r.Answer → Standing → Chronicle ι → Prop} (hr : r.isElsewhere)
    (hturn : ∀ h' a, Drift i law st h h' →
      law (h'.note i ⟨r, a⟩ h'.store) ∧ post a st (h'.note i ⟨r, a⟩ h'.store)) :
    (request r).Abides i law faulty post st h := by
  intro h' hd cue a st' s _ hserve
  obtain ⟨rfl, rfl⟩ := serve_of_isElsewhere hr hserve
  exact hturn h' a hd

namespace Action

open SimDepot.Flow

variable {i : ι} {law : Chronicle ι → Prop} {h : Chronicle ι}
  {err : Error → Standing → Chronicle ι → Prop}

/-- The rule for a question. -/
theorem abides_read_turn {q : Query} {ok : q.Answer → Standing → Chronicle ι → Prop}
    (hok : ∀ h', Drift i law .outside h h' →
      law (h'.note i ⟨.read q, .ok (q.eval h'.store)⟩ h'.store) ∧
        ok (q.eval h'.store) .outside (h'.note i ⟨.read q, .ok (q.eval h'.store)⟩ h'.store)) :
    Abides i law False ok err (read q) .outside h := by
  refine Flow.Abides.bind fun h' hd cue a st' s hcue hserve => ?_
  cases cue <;> cases hserve
  · exact hok h' hd
  · exact (hcue rfl).elim

/-- The rule for a command, on a store that may fail. -/
theorem abides_write_turn {faulty : Prop} {blame : StoreFailure → Error} {c : Command}
    {ok : c.Answer → Standing → Chronicle ι → Prop}
    (hok : ∀ h' s a, Drift i law .outside h h' → c.exec h'.store = .ok (s, a) →
      law (h'.note i ⟨.write c, .ok a⟩ s) ∧ ok a .outside (h'.note i ⟨.write c, .ok a⟩ s))
    (herr : ∀ h' failure, Drift i law .outside h h' →
      law (h'.note i ⟨.write c, .error failure⟩ h'.store) ∧
        err (blame failure) .outside (h'.note i ⟨.write c, .error failure⟩ h'.store)) :
    Abides i law faulty ok err (writeOr blame c) .outside h := by
  refine Flow.Abides.bind fun h' hd cue a st' s _ hserve => ?_
  cases cue <;> simp only [serve, Standing.write, Standing.view_outside, Option.some.injEq,
    reduceCtorEq] at hserve
  · cases hexec : c.exec h'.store with
    | ok res =>
      rw [hexec] at hserve
      cases hserve
      exact hok h' res.1 res.2 hd hexec
    | error refusal =>
      rw [hexec] at hserve
      cases hserve
      exact herr h' _ hd
  · cases hserve
    exact herr h' _ hd

/-- The rule for a change of a SIM. -/
theorem abides_change_turn {id : SimId} {change : SimChange}
    {ok : Nat → Standing → Chronicle ι → Prop}
    (hok : ∀ h' s n, Drift i law .outside h h' → h'.store.changeSim id change = (s, n) →
      law (h'.note i ⟨.write (.changeSim id change), .ok n⟩ s) ∧
        ok n .outside (h'.note i ⟨.write (.changeSim id change), .ok n⟩ s)) :
    Abides i law False ok err (write (.changeSim id change)) .outside h := by
  refine Flow.Abides.bind fun h' hd cue a st' s hcue hserve => ?_
  cases cue <;> cases hserve
  · exact hok h' _ _ hd rfl
  · exact (hcue rfl).elim

/-- The rule for an update, where `P` says what holds between the command and the question. -/
theorem abides_update_turn {id : SimId} {change : SimChange}
    {ok : Sim → Standing → Chronicle ι → Prop} {P : Nat → Chronicle ι → Prop}
    (hwrite : ∀ h' s n, Drift i law .outside h h' → h'.store.changeSim id change = (s, n) →
      law (h'.note i ⟨.write (.changeSim id change), .ok n⟩ s) ∧
        P n (h'.note i ⟨.write (.changeSim id change), .ok n⟩ s))
    (hdrift : ∀ n h h', P n h → Drift i law .outside h h' → P n h')
    (hstored : ∀ n h, P n h → ∃ r ∈ h.store.sims.rows, r.id = id)
    (hread : ∀ n h sim, P n h → sim ∈ h.store.sims.rows → sim.id = id →
      law (h.note i ⟨.read (.sim (.withId id)), .ok (some sim)⟩ h.store) ∧
        (n = 0 → err (.notUpdated (.rejected id change.label)) .outside
          (h.note i ⟨.read (.sim (.withId id)), .ok (some sim)⟩ h.store)) ∧
        (n ≠ 0 → ok sim .outside
          (h.note i ⟨.read (.sim (.withId id)), .ok (some sim)⟩ h.store))) :
    Abides i law False ok err (Stock.update id change) .outside h := by
  refine abides_bind (abides_change_turn fun h₁ s n hd hchange => ?_)
  obtain ⟨hlaw, hmid⟩ := hwrite h₁ s n hd hchange
  refine ⟨hlaw, abides_bind (abides_read_turn fun h₂ hd₂ => ?_)⟩
  have hmid₂ := hdrift _ _ _ hmid hd₂
  obtain ⟨sim, hsim, hid⟩ := hstored _ _ hmid₂
  have hfind : Query.eval h₂.store (.sim (.withId id)) = some sim :=
    Table.withId?_eq_some_iff.2 ⟨hsim, hid⟩
  rw [hfind]
  obtain ⟨hlaw₂, hnone, hsome⟩ := hread n h₂ sim hmid₂ hsim hid
  refine ⟨hlaw₂, abides_bind (abides_pure ?_)⟩
  by_cases hn : n = 0
  · rw [if_pos hn]
    exact hnone hn
  · rw [if_neg hn]
    exact hsome hn

/-- The rule for a call of a vendor service. -/
theorem abides_release_turn {vendor : VendorId} {sim : Sim}
    {ok : Release → Standing → Chronicle ι → Prop}
    (hlaw : ∀ h' res, Drift i law .outside h h' →
      law (h'.note i ⟨.release vendor sim, res⟩ h'.store))
    (hok : ∀ h' rel, Drift i law .outside h h' →
      ok rel .outside (h'.note i ⟨.release vendor sim, .ok rel⟩ h'.store))
    (herr : ∀ h' e, Drift i law .outside h h' →
      err e .outside (h'.note i ⟨.release vendor sim, .error e⟩ h'.store)) :
    Abides i law False ok err (release vendor sim) .outside h := by
  refine abides_request_elsewhere rfl fun h' res hd => ⟨hlaw h' res hd, ?_⟩
  cases res with
  | ok a => exact hok h' a hd
  | error e => exact herr h' e hd

/-- The rule for a call that activates. -/
theorem abides_activate_turn {registry : RegistryId} {iccid msisdn : String}
    {ok : Unit → Standing → Chronicle ι → Prop}
    (hlaw : ∀ h' res, Drift i law .outside h h' →
      law (h'.note i ⟨.activate registry iccid msisdn, res⟩ h'.store))
    (hok : ∀ h' a, Drift i law .outside h h' →
      ok a .outside (h'.note i ⟨.activate registry iccid msisdn, .ok a⟩ h'.store))
    (herr : ∀ h' e, Drift i law .outside h h' →
      err e .outside (h'.note i ⟨.activate registry iccid msisdn, .error e⟩ h'.store)) :
    Abides i law False ok err (activate registry iccid msisdn) .outside h := by
  refine abides_request_elsewhere rfl fun h' res hd => ⟨hlaw h' res hd, ?_⟩
  cases res with
  | ok a => exact hok h' a hd
  | error e => exact herr h' e hd

/-- The rule for a call that suspends. -/
theorem abides_suspend_turn {registry : RegistryId} {iccid : String}
    {ok : Unit → Standing → Chronicle ι → Prop}
    (hlaw : ∀ h' res, Drift i law .outside h h' →
      law (h'.note i ⟨.suspend registry iccid, res⟩ h'.store))
    (hok : ∀ h' a, Drift i law .outside h h' →
      ok a .outside (h'.note i ⟨.suspend registry iccid, .ok a⟩ h'.store))
    (herr : ∀ h' e, Drift i law .outside h h' →
      err e .outside (h'.note i ⟨.suspend registry iccid, .error e⟩ h'.store)) :
    Abides i law False ok err (suspend registry iccid) .outside h := by
  refine abides_request_elsewhere rfl fun h' res hd => ⟨hlaw h' res hd, ?_⟩
  cases res with
  | ok a => exact hok h' a hd
  | error e => exact herr h' e hd

/-- The rule for the clock. -/
theorem abides_now_turn {ok : Timestamp → Standing → Chronicle ι → Prop}
    (hok : ∀ h' t, Drift i law .outside h h' → law (h'.note i ⟨.now, t⟩ h'.store) ∧
      ok t .outside (h'.note i ⟨.now, t⟩ h'.store)) :
    Abides i law False ok err now .outside h := by
  exact Flow.Abides.bind (abides_request_elsewhere rfl hok)

end Action

/-! ## Requests of a kind -/

section Requests

variable {α β : Type} {Q : Request → Prop}

namespace Flow

/-- Whatever they are answered, all requests of the flow satisfy `Q`. -/
def Asks (Q : Request → Prop) : Flow α → Prop
  | done _ => True
  | ask r k => Q r ∧ ∀ a, (k a).Asks Q

theorem asks_request {r : Request} (hr : Q r) : (request r).Asks Q := ⟨hr, fun _ => trivial⟩

theorem Asks.bind {x : Flow α} {f : α → Flow β} (hx : x.Asks Q) (hf : ∀ a, (f a).Asks Q) :
    (x >>= f).Asks Q := by
  induction x with
  | done a => exact hf a
  | ask r k ih => exact ⟨hx.1, fun a => ih a (hx.2 a)⟩

/-- What a session did while it carried out a flow was to make requests of this kind. -/
theorem Abides.asking [DecidableEq ι] {i : ι} {law : Chronicle ι → Prop} {faulty : Prop}
    {st : Standing} {h h₀ : Chronicle ι} {post : α → Standing → Chronicle ι → Prop} {x : Flow α}
    (hx : x.Abides i law faulty post st h) (hasks : x.Asks Q)
    (hfirst : ∃ new, h.deedsOf i = h₀.deedsOf i ++ new ∧ ∀ d ∈ new, Q d.turn.request) :
    x.Abides i law faulty (fun a st h => post a st h ∧
      ∃ new, h.deedsOf i = h₀.deedsOf i ++ new ∧ ∀ d ∈ new, Q d.turn.request) st h := by
  induction x generalizing st h with
  | done a => exact ⟨hx, hfirst⟩
  | ask r k ih =>
    intro h' hd cue a st' s hcue hserve
    obtain ⟨hlaw, hk⟩ := hx h' hd cue a st' s hcue hserve
    obtain ⟨new, hnew, hQ⟩ := hfirst
    refine ⟨hlaw, ih a hk (hasks.2 a) ⟨new ++ [⟨i, ⟨r, a⟩, h'.store, s⟩], ?_, fun d hmem => ?_⟩⟩
    · rw [Chronicle.deedsOf_note_self, hd.deedsOf_eq, hnew, List.append_assoc]
    · rcases List.mem_append.1 hmem with hmem | hmem
      · exact hQ d hmem
      · rw [List.mem_singleton.1 hmem]
        exact hasks.1

end Flow

namespace Action

/-- Whatever they are answered, all requests of the action satisfy `Q`. -/
def Asks (Q : Request → Prop) (x : Action α) : Prop := x.run.Asks Q

theorem asks_pure {a : α} : Asks Q (pure a) := trivial

theorem asks_throw {e : Error} : Asks Q (throw e : Action α) := trivial

theorem asks_bind {x : Action α} {f : α → Action β} (hx : Asks Q x) (hf : ∀ a, Asks Q (f a)) :
    Asks Q (x >>= f) := by
  unfold Asks
  rw [ExceptT.run_bind]
  refine Flow.Asks.bind hx fun res => ?_
  cases res with
  | ok a => exact hf a
  | error e => trivial

theorem asks_ite {c : Prop} [Decidable c] {x y : Action α} (hx : Asks Q x) (hy : Asks Q y) :
    Asks Q (if c then x else y) := by
  split
  · exact hx
  · exact hy

theorem asks_ofFlow {x : Flow α} (hx : x.Asks Q) : Asks Q (ofFlow x) :=
  Flow.Asks.bind hx fun _ => trivial

theorem asks_attempt {x : Action α} (hx : Asks Q x) : Asks Q (attempt x) := asks_ofFlow hx

theorem asks_tryCatch {x : Action α} {f : Error → Action α} (hx : Asks Q x)
    (hf : ∀ e, Asks Q (f e)) : Asks Q (tryCatch x f) := by
  refine Flow.Asks.bind hx fun res => ?_
  cases res with
  | ok a => trivial
  | error e => exact hf e

theorem asks_expect {value : Option α} {e : Error} : Asks Q (expect value e) := by
  cases value <;> trivial

theorem asks_read {blame : StoreFailure → Error} {q : Query} (hq : Q (.read q)) :
    Asks Q (readOr blame q) :=
  Flow.Asks.bind (Flow.asks_request hq) fun _ => trivial

theorem asks_writeOr {blame : StoreFailure → Error} {c : Command} (hc : Q (.write c)) :
    Asks Q (writeOr blame c) :=
  Flow.Asks.bind (Flow.asks_request hc) fun _ => trivial

theorem asks_insert {blame : StoreFailure → Error} {c : Command}
    {again : c.Answer → Action (Option α)} (hc : Q (.write c)) (ha : ∀ a, Asks Q (again a)) :
    Asks Q (insert blame c again) :=
  asks_bind (asks_writeOr hc) fun a => asks_bind (ha a) fun _ => asks_expect

theorem asks_write {c : Command} (hc : Q (.write c)) : Asks Q (write c) := asks_writeOr hc

theorem asks_commit (h : Q .commit) : Asks Q commit :=
  Flow.Asks.bind (Flow.asks_request h) fun _ => trivial

theorem asks_rollback (h : Q .rollback) : Asks Q rollback :=
  Flow.Asks.bind (Flow.asks_request h) fun _ => trivial

theorem asks_now (h : Q .now) : Asks Q now := asks_ofFlow (Flow.asks_request h)

theorem asks_pause {milliseconds : Nat} (h : Q (.pause milliseconds)) :
    Asks Q (pause milliseconds) :=
  asks_ofFlow (Flow.asks_request h)

theorem asks_forM {items : List α} {f : α → Action PUnit} (hf : ∀ a, Asks Q (f a)) :
    Asks Q (items.forM f) := by
  induction items with
  | nil => exact asks_pure
  | cons a rest ih => exact asks_bind (hf a) fun _ => ih

theorem asks_inTransaction {body : Action α} (hbegin : Q .begin) (habandon : Q .abandon)
    (hbody : Asks Q body) : Asks Q (inTransaction body) := by
  refine asks_bind (Flow.Asks.bind (Flow.asks_request hbegin) fun _ => trivial) fun _ => ?_
  refine Flow.Asks.bind (x := body.run) hbody fun res => ?_
  cases res with
  | ok a => trivial
  | error e => exact ⟨habandon, fun _ => trivial⟩

end Action

end Requests

end SimDepot
