import SimDepot.Proofs.Session.Commands
import SimDepot.Proofs.Session.Conduct

/-!
# Rules of conduct for actions

One rule for each request that operations make, for actions one after the other and for
transactions. The rules are for laws that allow a session to leave what lasts as it is; then all
requests but the commands outside of transactions and the ends of transactions go without saying.

`Meantime` is what happens from one point of a session to a later one while it changes nothing that
lasts: others do what the law allows, and the session asks.
-/

namespace SimDepot

variable {ι : Type}

/-- The law allows session `i` to leave what lasts as it is. -/
def Quiet (i : ι) (law : Chronicle ι → Prop) : Prop :=
  ∀ h turn, law h → law (h.note i turn h.store)

/-- What happens while session `i` changes nothing that lasts, and, in a transaction that has
written, nobody does. -/
inductive Meantime (i : ι) (law : Chronicle ι → Prop) (st : Standing) (h : Chronicle ι) :
    Chronicle ι → Prop
  /-- Nothing happened. -/
  | refl : Meantime i law st h h
  /-- A request of another session was answered. -/
  | other {h' : Chronicle ι} {j : ι} {turn : Turn} {s : Store} (hm : Meantime i law st h h')
    (hj : j ≠ i) (hs : st.isWriting → s = h'.store) (hlaw : law (h'.note j turn s)) :
    Meantime i law st h (h'.note j turn s)
  /-- A request of the session was answered. -/
  | own {h' : Chronicle ι} (hm : Meantime i law st h h') (turn : Turn)
    (hlaw : law (h'.note i turn h'.store)) : Meantime i law st h (h'.note i turn h'.store)

namespace Meantime

variable {i : ι} {law : Chronicle ι → Prop} {st : Standing} {h h₁ h₂ : Chronicle ι}

theorem lawful (hm : Meantime i law st h h₁) (hh : law h) : law h₁ := by
  cases hm with
  | refl => exact hh
  | other _ _ _ hlaw => exact hlaw
  | own _ _ hlaw => exact hlaw

theorem toExtends (hm : Meantime i law st h h₁) : h.Extends h₁ := by
  induction hm with
  | refl => exact .refl
  | other _ _ _ _ ih => exact ih.note _ _ _
  | own _ _ _ ih => exact ih.note _ _ _

theorem store_eq (hm : Meantime i law st h h₁) (hst : st.isWriting) : h₁.store = h.store := by
  induction hm with
  | refl => rfl
  | other _ _ hs _ ih => exact (hs hst).trans ih
  | own _ _ _ ih => exact ih

theorem trans (hm : Meantime i law st h h₁) (hm' : Meantime i law st h₁ h₂) :
    Meantime i law st h h₂ := by
  induction hm' with
  | refl => exact hm
  | other _ hj hs hlaw ih => exact ih.other hj hs hlaw
  | own _ turn hlaw ih => exact ih.own turn hlaw

/-- Outside of transactions more can happen than in one. -/
theorem outside (hm : Meantime i law st h h₁) : Meantime i law .outside h h₁ := by
  induction hm with
  | refl => exact .refl
  | other _ hj _ hlaw ih => exact ih.other hj (by simp [Standing.isWriting]) hlaw
  | own _ turn hlaw ih => exact ih.own turn hlaw

end Meantime

theorem Drift.toMeantime {i : ι} {law : Chronicle ι → Prop} {st : Standing} {h h₁ : Chronicle ι}
    (hd : Drift i law st h h₁) : Meantime i law st h h₁ := by
  induction hd with
  | refl => exact .refl
  | note _ hj hs hlaw ih => exact ih.other hj hs hlaw

/-- In a transaction. -/
def Standing.isOpen : Standing → Bool
  | inside | writing _ => true
  | outside | gone => false

theorem Standing.not_isWriting_of_not_isOpen {st : Standing} (h : st.isOpen = false) :
    st.isWriting = false := by
  cases st with
  | writing draft => cases h
  | _ => rfl

theorem Standing.eq_outside {st : Standing} (hopen : st.isOpen = false)
    (halive : st.isGone = false) : st = .outside := by
  cases st with
  | outside => rfl
  | gone => cases halive
  | _ => cases hopen

/-- A session is in a transaction as its requests and their answers say. -/
theorem isOpen_of_serve {r : Request} {cue : Cue} {st st' : Standing} {s s' : Store} {a : r.Answer}
    (h : serve r cue st s = some (a, st', s')) : st'.isOpen = r.after a st.isOpen := by
  cases r <;> cases cue <;> simp only [serve, Option.some.injEq, Prod.mk.injEq, reduceCtorEq] at h
  case write.plain c =>
    unfold Standing.write at h
    split at h
    · cases h
      rfl
    · cases st <;> cases h <;> rfl
  all_goals
    obtain ⟨ha, rfl, -⟩ := h
    cases ha
    rfl

/-- Only the end of a transaction, and commands outside of transactions, change what lasts. -/
theorem store_eq_of_serve {r : Request} {cue : Cue} {st st' : Standing} {s s' : Store}
    {a : r.Answer} (h : serve r cue st s = some (a, st', s')) (hcommit : r ≠ .commit)
    (hwrite : r.isWrite → st.isOpen) : s' = s := by
  cases r <;> cases cue <;> simp only [serve, Option.some.injEq, Prod.mk.injEq, reduceCtorEq] at h
  case write.plain c =>
    have hopen := hwrite rfl
    unfold Standing.write at h
    split at h
    · cases h
      rfl
    · cases st with
      | outside | gone => cases hopen
      | inside | writing draft =>
        cases h
        rfl
  case commit.plain => exact absurd rfl hcommit
  all_goals exact h.2.2.symm

section Rules

variable {α β : Type} {i : ι} {law : Chronicle ι → Prop} {faulty : Prop} {st : Standing}
  {h : Chronicle ι}

namespace Flow

/-- The rule for a request that leaves what lasts as it is. -/
theorem abides_request_quiet {r : Request} {post : r.Answer → Standing → Chronicle ι → Prop}
    (hquiet : Quiet i law) (hlaw : law h)
    (hcommit : r ≠ .commit) (hwrite : r.isWrite → st.isOpen)
    (hpost : ∀ h' cue a st', Meantime i law st h h' → (cue.isFault → faulty) →
      serve r cue st h'.store = some (a, st', h'.store) → post a st' h') :
    (request r).Abides i law faulty post st h := by
  intro h' hd cue a st' s hcue hserve
  cases store_eq_of_serve hserve hcommit hwrite
  have hlaw' := hquiet h' ⟨r, a⟩ (hd.lawful hlaw)
  exact ⟨hlaw', hpost _ cue a st' (hd.toMeantime.own ⟨r, a⟩ hlaw') hcue hserve⟩

end Flow

namespace Action

open SimDepot.Flow

/-- Session `i` makes every request of an action within the law; `ok` holds of its value where it
succeeds, and `err` of the error where it fails. -/
def Abides (i : ι) (law : Chronicle ι → Prop) (faulty : Prop)
    (ok : α → Standing → Chronicle ι → Prop) (err : Error → Standing → Chronicle ι → Prop)
    (x : Action α) (st : Standing) (h : Chronicle ι) : Prop :=
  x.run.Abides i law faulty (fun res st h =>
    match res with
    | .ok a => ok a st h
    | .error e => err e st h) st h

variable {err : Error → Standing → Chronicle ι → Prop}

theorem abides_pure {ok : α → Standing → Chronicle ι → Prop} {a : α} (hok : ok a st h) :
    Abides i law faulty ok err (pure a) st h := hok

theorem abides_throw {ok : α → Standing → Chronicle ι → Prop} {e : Error} (herr : err e st h) :
    Abides i law faulty ok err (throw e) st h := herr

theorem abides_ite {ok : α → Standing → Chronicle ι → Prop} {c : Prop} [Decidable c]
    {x y : Action α} (hx : c → Abides i law faulty ok err x st h)
    (hy : ¬ c → Abides i law faulty ok err y st h) :
    Abides i law faulty ok err (if c then x else y) st h := by
  split
  next hc => exact hx hc
  next hc => exact hy hc

theorem abides_expect {ok : α → Standing → Chronicle ι → Prop} {value : Option α} {e : Error}
    (hok : ∀ a, value = some a → ok a st h) (herr : value = none → err e st h) :
    Abides i law faulty ok err (expect value e) st h := by
  cases value with
  | none => exact herr rfl
  | some a => exact hok a rfl

theorem Abides.mono {ok ok' : α → Standing → Chronicle ι → Prop}
    {err' : Error → Standing → Chronicle ι → Prop} {x : Action α}
    (hx : Abides i law faulty ok err x st h) (hok : ∀ a st h, ok a st h → ok' a st h)
    (herr : ∀ e st h, err e st h → err' e st h) : Abides i law faulty ok' err' x st h := by
  refine Flow.Abides.mono hx fun res st h hres => ?_
  cases res with
  | ok a => exact hok a st h hres
  | error e => exact herr e st h hres

/-- What comes of an action may be left open. -/
theorem Abides.forget {ok : α → Standing → Chronicle ι → Prop} {x : Action α}
    (hx : Abides i law faulty ok err x st h) :
    Abides i law faulty (fun _ _ _ => True) (fun _ _ _ => True) x st h :=
  hx.mono (fun _ _ _ _ => trivial) fun _ _ _ _ => trivial

/-- The rule for one action after another. -/
theorem abides_bind {ok : β → Standing → Chronicle ι → Prop} {x : Action α} {f : α → Action β}
    (hx : Abides i law faulty (fun a st h => Abides i law faulty ok err (f a) st h) err x st h) :
    Abides i law faulty ok err (x >>= f) st h := by
  unfold Abides
  rw [ExceptT.run_bind]
  refine Flow.Abides.bind (Flow.Abides.mono hx fun res st h hres => ?_)
  cases res <;> exact hres

/-- The rule for an action whose result is taken as it is. -/
theorem abides_attempt {ok : Except Error α → Standing → Chronicle ι → Prop} {x : Action α}
    (hx : Abides i law faulty (fun a st h => ok (.ok a) st h) (fun e st h => ok (.error e) st h)
      x st h) :
    Abides i law faulty ok err (attempt x) st h := by
  refine Flow.Abides.bind (Flow.Abides.mono hx fun res st h hres => ?_)
  cases res <;> exact hres

/-- The rule for a question. -/
theorem abides_read {blame : StoreFailure → Error} {q : Query}
    {ok : q.Answer → Standing → Chronicle ι → Prop}
    (hquiet : Quiet i law) (hlaw : law h)
    (hok : ∀ h', Meantime i law st h h' → ok (q.eval (st.view h'.store)) st h')
    (herr : faulty → ∀ h' failure, Meantime i law st h h' → err (blame failure) st h') :
    Abides i law faulty ok err (readOr blame q) st h := by
  refine Flow.Abides.bind
    (abides_request_quiet hquiet hlaw (by simp) (by simp [Request.isWrite]) ?_)
  intro h' cue a st' hm hcue hserve
  cases cue <;> cases hserve
  · exact hok h' hm
  · exact herr (hcue rfl) h' _ hm

/-- The rule for a pause. -/
theorem abides_pause {milliseconds : Nat} {ok : Unit → Standing → Chronicle ι → Prop}
    (hquiet : Quiet i law) (hlaw : law h) (hok : ∀ h', Meantime i law st h h' → ok () st h') :
    Abides i law faulty ok err (pause milliseconds) st h := by
  refine Flow.Abides.bind
    (abides_request_quiet hquiet hlaw (by simp) (by simp [Request.isWrite]) ?_)
  intro h' cue a st' hm _ hserve
  cases cue <;> cases hserve
  exact hok h' hm

/-- The rule for the clock. -/
theorem abides_now {ok : Timestamp → Standing → Chronicle ι → Prop}
    (hquiet : Quiet i law) (hlaw : law h) (hok : ∀ h' t, Meantime i law st h h' → ok t st h') :
    Abides i law faulty ok err now st h := by
  refine Flow.Abides.bind
    (abides_request_quiet hquiet hlaw (by simp) (by simp [Request.isWrite]) ?_)
  intro h' cue a st' hm _ hserve
  cases cue <;> cases hserve
  exact hok h' a hm

/-- The rule for a command in a transaction: the session sees what it does, and nothing lasts
yet. -/
theorem abides_write_within {blame : StoreFailure → Error} {c : Command}
    {ok : c.Answer → Standing → Chronicle ι → Prop} (hquiet : Quiet i law) (hlaw : law h)
    (hopen : st.isOpen)
    (hok : ∀ h' s a, Meantime i law st h h' → c.exec (st.view h'.store) = .ok (s, a) →
      ok a (.writing s) h')
    (herr : ∀ h' failure, Meantime i law st h h' → err (blame failure) st h') :
    Abides i law faulty ok err (writeOr blame c) st h := by
  refine Flow.Abides.bind (abides_request_quiet hquiet hlaw (by simp) (fun _ => hopen) ?_)
  intro h' cue a st' hm _ hserve
  cases cue <;> simp only [serve, Standing.write, Option.some.injEq, reduceCtorEq] at hserve
  · cases hexec : c.exec (st.view h'.store) with
    | ok res =>
      rw [hexec] at hserve
      cases st with
      | outside | gone => cases hopen
      | inside | writing draft =>
        cases hserve
        exact hok h' res.1 res.2 hm hexec
    | error refusal =>
      rw [hexec] at hserve
      cases hserve
      exact herr h' _ hm
  · cases hserve
    exact herr h' _ hm

/-- The rule for a change of a SIM in a transaction that has not written. -/
theorem abides_change {id : SimId} {change : SimChange}
    {ok : Nat → Standing → Chronicle ι → Prop} (hquiet : Quiet i law) (hlaw : law h)
    (hok : ∀ h', Meantime i law .inside h h' →
      ok (h'.store.changeSim id change).2 (.writing (h'.store.changeSim id change).1) h')
    (herr : faulty → ∀ h' failure, Meantime i law .inside h h' → err (.store failure) .inside h') :
    Abides i law faulty ok err (write (.changeSim id change)) .inside h := by
  refine Flow.Abides.bind (abides_request_quiet hquiet hlaw (by simp) (fun _ => rfl) ?_)
  intro h' cue a st' hm hcue hserve
  cases cue <;> cases hserve
  · exact hok h' hm
  · exact herr (hcue rfl) h' _ hm

/-- The rule for taking a transaction back. -/
theorem abides_rollback {ok : Unit → Standing → Chronicle ι → Prop} (hquiet : Quiet i law)
    (hlaw : law h) (hok : ∀ h', Meantime i law st h h' → ok () .outside h')
    (herr : faulty → ∀ h' failure, Meantime i law st h h' → err (.store failure) st h') :
    Abides i law faulty ok err rollback st h := by
  refine Flow.Abides.bind
    (abides_request_quiet hquiet hlaw (by simp) (by simp [Request.isWrite]) ?_)
  intro h' cue a st' hm hcue hserve
  cases cue <;> cases hserve
  · exact hok h' hm
  · exact herr (hcue rfl) h' _ hm

/-- The rule for the end of a transaction: the law has to allow what becomes of the store. -/
theorem abides_commit {ok : Unit → Standing → Chronicle ι → Prop}
    (hquiet : Quiet i law) (hlaw : law h)
    (hok : ∀ h', Meantime i law st h h' →
      law (h'.note i ⟨.commit, .ok ()⟩ (st.view h'.store)) ∧
        ok () .outside (h'.note i ⟨.commit, .ok ()⟩ (st.view h'.store)))
    (herr : faulty → ∀ h' failure, Meantime i law st h h' → err (.store failure) st h') :
    Abides i law faulty ok err commit st h := by
  intro h' hd cue a st' s hcue hserve
  cases cue <;> cases hserve
  · exact hok h' hd.toMeantime
  next failure =>
    have hlaw' := hquiet h' ⟨.commit, .error failure⟩ (hd.lawful hlaw)
    exact ⟨hlaw', herr (hcue rfl) _ _ (hd.toMeantime.own _ hlaw')⟩

/-- The rule for a transaction: the body has to leave it where it succeeds, and its failure takes
back what it did. -/
theorem abides_inTransaction {ok : α → Standing → Chronicle ι → Prop} {body : Action α}
    (hquiet : Quiet i law) (hlaw : law h)
    (hbody : ∀ h₁, Meantime i law .outside h h₁ → Abides i law faulty ok
      (fun e st h => law h ∧ ∀ h', Meantime i law st h h' → err e .outside h') body .inside h₁)
    (herr : faulty → ∀ h' failure, Meantime i law .outside h h' →
      err (.store failure) .outside h') :
    Abides i law faulty ok err (inTransaction body) .outside h := by
  refine abides_bind (Flow.Abides.bind
    (abides_request_quiet hquiet hlaw (by simp) (by simp [Request.isWrite]) ?_))
  intro h₁ cue a st' hm hcue hserve
  cases cue <;> cases hserve
  · refine Flow.Abides.bind (Flow.Abides.mono (hbody h₁ hm) fun res st h₂ hres => ?_)
    cases res with
    | ok a => exact hres
    | error e =>
      refine Flow.Abides.bind
        (abides_request_quiet hquiet hres.1 (by simp) (by simp [Request.isWrite]) ?_)
      intro h₃ cue a st' hm' _ hserve
      cases cue <;> cases hserve
      exact hres.2 h₃ hm'
  · exact herr (hcue rfl) h₁ _ hm

end Action

end Rules

end SimDepot
