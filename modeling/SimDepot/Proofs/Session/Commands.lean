import SimDepot.Flow.Action

/-!
# Commands and transactions of a flow

Two things can be said of a flow whatever its requests are answered: which commands it gives, and
where its transactions begin and end. `Flow.Obeys` says both. `Flow.Issues` is the case of a flow
that ends where it began, `Action.Closes` the case of the body of a transaction, which has left the
transaction when it succeeds. Flows that obey begin no transaction within another one, and leave
none open.
-/

namespace SimDepot

variable {α β : Type}

/-- Whether a session is in a transaction once a request is answered, when `within` says whether it
was before. -/
def Request.after : (r : Request) → r.Answer → Bool → Bool
  | .begin, .ok _, _ => true
  | .commit, .ok _, _ => false
  | .rollback, .ok _, _ => false
  | .abandon, _, _ => false
  | _, _, within => within

namespace Flow

/-- Where the flow begins in a transaction or outside of one, as `within` says, and whatever its
requests are answered: it gives only commands that satisfy `P`, it begins a transaction only outside
of one, and in the end `post` relates the result to whether it is in a transaction. -/
def Obeys (P : Command → Prop) (post : α → Bool → Prop) : (within : Bool) → Flow α → Prop
  | within, done a => post a within
  | within, ask r k => (∀ c, r = .write c → P c) ∧ (r = .begin → within = false) ∧
      ∀ a, (k a).Obeys P post (r.after a within)

/-- The flow gives only commands that satisfy `P`, begins transactions only outside of others, and
ends in a transaction if it began in one, and outside of transactions otherwise. -/
def Issues (P : Command → Prop) (within : Bool) (x : Flow α) : Prop :=
  x.Obeys P (fun _ within' => within' = within) within

variable {P : Command → Prop} {within : Bool}

theorem Obeys.mono {post post' : α → Bool → Prop} {x : Flow α} (hx : x.Obeys P post within)
    (h : ∀ a within, post a within → post' a within) : x.Obeys P post' within := by
  induction x generalizing within with
  | done a => exact h _ _ hx
  | ask r k ih => exact ⟨hx.1, hx.2.1, fun a => ih a (hx.2.2 a)⟩

/-- A flow that gives only commands of a kind gives only commands of a wider kind. -/
theorem Obeys.widen {P' : Command → Prop} {post : α → Bool → Prop} {x : Flow α}
    (hx : x.Obeys P post within) (h : ∀ c, P c → P' c) : x.Obeys P' post within := by
  induction x generalizing within with
  | done a => exact hx
  | ask r k ih => exact ⟨fun c hc => h c (hx.1 c hc), hx.2.1, fun a => ih a (hx.2.2 a)⟩

theorem Obeys.bind {post : β → Bool → Prop} {x : Flow α} {f : α → Flow β}
    (hx : x.Obeys P (fun a within => (f a).Obeys P post within) within) :
    (x >>= f).Obeys P post within := by
  induction x generalizing within with
  | done a => exact hx
  | ask r k ih => exact ⟨hx.1, hx.2.1, fun a => ih a (hx.2.2 a)⟩

theorem issues_done {a : α} : (done a).Issues P within := rfl

/-- A request that neither begins nor ends a transaction. -/
theorem issues_request {r : Request} (hr : ∀ c, r = .write c → P c) (hbegin : r ≠ .begin)
    (hafter : ∀ a, r.after a within = within) : (request r).Issues P within :=
  ⟨hr, fun h => absurd h hbegin, hafter⟩

theorem Issues.bind {x : Flow α} {f : α → Flow β} (hx : x.Issues P within)
    (hf : ∀ a, (f a).Issues P within) : (x >>= f).Issues P within := by
  refine Obeys.bind (Obeys.mono hx ?_)
  rintro a _ rfl
  exact hf a

end Flow

namespace Action

variable {P : Command → Prop} {within : Bool}

/-- The action gives only commands that satisfy `P`, begins transactions only outside of others, and
ends in a transaction if it began in one, and outside of transactions otherwise. -/
def Issues (P : Command → Prop) (within : Bool) (x : Action α) : Prop := x.run.Issues P within

/-- In a transaction, the action gives only commands that satisfy `P`, and it leaves the transaction
where it succeeds and is still in it where it fails. -/
def Closes (P : Command → Prop) (x : Action α) : Prop :=
  x.run.Obeys P (fun res within => within = !res.isOk) true

theorem issues_pure {a : α} : Issues P within (pure a) := rfl

theorem issues_throw {e : Error} : Issues P within (throw e : Action α) := rfl

theorem issues_bind {x : Action α} {f : α → Action β} (hx : Issues P within x)
    (hf : ∀ a, Issues P within (f a)) : Issues P within (x >>= f) := by
  unfold Issues
  rw [ExceptT.run_bind]
  refine Flow.Issues.bind hx fun res => ?_
  cases res with
  | ok a => exact hf a
  | error e => rfl

theorem issues_ite {c : Prop} [Decidable c] {x y : Action α} (hx : c → Issues P within x)
    (hy : ¬ c → Issues P within y) : Issues P within (if c then x else y) := by
  split
  next h => exact hx h
  next h => exact hy h

theorem issues_ofFlow {x : Flow α} (hx : x.Issues P within) : Issues P within (ofFlow x) :=
  Flow.Issues.bind hx fun _ => rfl

theorem issues_attempt {x : Action α} (hx : Issues P within x) : Issues P within (attempt x) :=
  issues_ofFlow hx

theorem issues_tryCatch {x : Action α} {f : Error → Action α} (hx : Issues P within x)
    (hf : ∀ e, Issues P within (f e)) : Issues P within (tryCatch x f) := by
  refine Flow.Issues.bind hx fun res => ?_
  cases res with
  | ok a => rfl
  | error e => exact hf e

theorem issues_expect {value : Option α} {e : Error} : Issues P within (expect value e) := by
  cases value <;> rfl

/-- Where there is no value, nothing follows. -/
theorem issues_expect_bind {value : Option α} {e : Error} {f : α → Action β}
    (hf : ∀ a, value = some a → Issues P within (f a)) :
    Issues P within (expect value e >>= f) := by
  cases value with
  | none => rfl
  | some a => exact hf a rfl

theorem issues_read {blame : StoreFailure → Error} {q : Query} :
    Issues P within (readOr blame q) :=
  Flow.Issues.bind (Flow.issues_request (by simp) (by simp) fun _ => rfl) fun _ => rfl

theorem issues_writeOr {blame : StoreFailure → Error} {c : Command} (hc : P c) :
    Issues P within (writeOr blame c) :=
  Flow.Issues.bind (Flow.issues_request (fun _ h => Request.write.inj h ▸ hc) (by simp)
    fun _ => rfl) fun _ => rfl

theorem issues_insert {blame : StoreFailure → Error} {c : Command}
    {again : c.Answer → Action (Option α)} (hc : P c) (ha : ∀ a, Issues P within (again a)) :
    Issues P within (insert blame c again) :=
  issues_bind (issues_writeOr hc) fun a => issues_bind (ha a) fun _ => issues_expect

theorem issues_write {c : Command} (hc : P c) : Issues P within (write c) := issues_writeOr hc

theorem issues_now : Issues P within now :=
  issues_ofFlow (Flow.issues_request (by simp) (by simp) fun _ => rfl)

theorem issues_pause {milliseconds : Nat} : Issues P within (pause milliseconds) :=
  issues_ofFlow (Flow.issues_request (by simp) (by simp) fun _ => rfl)

theorem issues_activate {registry : RegistryId} {iccid msisdn : String} :
    Issues P within (activate registry iccid msisdn) :=
  Flow.issues_request (by simp) (by simp) fun _ => rfl

theorem issues_suspend {registry : RegistryId} {iccid : String} :
    Issues P within (suspend registry iccid) :=
  Flow.issues_request (by simp) (by simp) fun _ => rfl

theorem issues_release {vendor : VendorId} {sim : Sim} : Issues P within (release vendor sim) :=
  Flow.issues_request (by simp) (by simp) fun _ => rfl

theorem issues_forM {items : List α} {f : α → Action PUnit}
    (hf : ∀ a ∈ items, Issues P within (f a)) : Issues P within (items.forM f) := by
  induction items with
  | nil => exact issues_pure
  | cons a rest ih =>
    exact issues_bind (hf a (by simp)) fun _ => ih fun b hb => hf b (by simp [hb])

/-! ## Transactions -/

theorem closes_commit : Closes P commit :=
  ⟨by simp, by simp, fun a => by cases a <;> rfl⟩

theorem closes_rollback : Closes P rollback :=
  ⟨by simp, by simp, fun a => by cases a <;> rfl⟩

/-- What is done before the end of a transaction. -/
theorem closes_bind {x : Action α} {f : α → Action β} (hx : Issues P true x)
    (hf : ∀ a, Closes P (f a)) : Closes P (x >>= f) := by
  unfold Closes
  rw [ExceptT.run_bind]
  refine Flow.Obeys.bind (Flow.Obeys.mono hx ?_)
  rintro res _ rfl
  cases res with
  | ok a => exact hf a
  | error e => rfl

/-- What is returned after the end of a transaction. -/
theorem closes_return {x : Action α} {f : α → β} (hx : Closes P x) :
    Closes P (x >>= fun a => pure (f a)) := by
  unfold Closes
  rw [ExceptT.run_bind]
  refine Flow.Obeys.bind (Flow.Obeys.mono hx ?_)
  rintro res _ rfl
  cases res <;> rfl

theorem closes_ite {c : Prop} [Decidable c] {x y : Action α} (hx : Closes P x)
    (hy : Closes P y) : Closes P (if c then x else y) := by
  split
  · exact hx
  · exact hy

/-- A transaction whose body leaves it where it succeeds is left in any case. -/
theorem issues_inTransaction {body : Action α} (hbody : Closes P body) :
    Issues P false (inTransaction body) := by
  unfold Issues inTransaction
  rw [ExceptT.run_bind]
  refine Flow.Obeys.bind ⟨by simp, fun _ => rfl, fun a => ?_⟩
  cases a with
  | ok _ =>
    refine Flow.Obeys.bind (x := body.run) (Flow.Obeys.mono hbody ?_)
    rintro res _ rfl
    cases res with
    | ok a => rfl
    | error e => exact ⟨by simp, by simp, fun _ => rfl⟩
  | error failure => rfl

end Action

end SimDepot
