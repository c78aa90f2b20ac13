import SimDepot.Proofs.Claim.Exhaustion
import SimDepot.Proofs.Handout.Recording
import SimDepot.Proofs.Handout.Meanwhile
import SimDepot.Proofs.Http.Correspondence
import SimDepot.Service.RegistryClient

/-!
# What shows of a failed call

A registry that is reached over HTTP can fail a call in many ways: the request cannot be built, it
gets no answer, or an answer with another status than the one hoped for, with whatever body. Callers
learn of none of this. Every such failure ends the operation at once, leaves the store as it is, and
shows as the unavailability of the registry by its name. Where the status is the one hoped for, the
body does not matter either.

The answer that counts is the last one. An answer that sends the client elsewhere does not fail the
call, and makes the client send another request, although the operation makes only one call. Without
such an answer, one request is sent at most, and its answer is the one that counts.
-/

namespace SimDepot

/-! ## The exchange -/

/-- What a registry is told over HTTP. -/
structure Telling where
  /-- The number of the card. -/
  iccid : String
  /-- The request, as it is written. -/
  draft : HttpDraft
  /-- The correspondence with the registry. -/
  correspondence : Correspondence (Except Error Unit)
  /-- The status that is hoped for. -/
  hopedFor : Nat

namespace Telling

/-- How a client with these settings tells a registry what a request says. -/
def of? (settings : RegistrySettings) : Request → Option Telling
  | .activate _ iccid msisdn => some ⟨iccid, RegistryClient.activationDraft settings iccid msisdn,
      RegistryClient.activate settings iccid msisdn, 201⟩
  | .suspend _ iccid => some ⟨iccid, RegistryClient.suspensionDraft settings iccid,
      RegistryClient.suspend settings iccid, 200⟩
  | _ => none

/-- What is sent to a registry that answers with these replies. -/
def sent (t : Telling) (replies : List (Option HttpReply)) : List HttpRequest :=
  t.correspondence.dialogue.requests replies

/-- What comes of telling a registry that answers with these replies. -/
def result (t : Telling) (replies : List (Option HttpReply)) : Except Error Unit :=
  t.correspondence.dialogue.result replies

/-- No request can be built, or no answer with the status that is hoped for comes back at last. -/
def Fails (t : Telling) (replies : List (Option HttpReply)) : Prop :=
  (∃ failure, t.draft.build = .error failure) ∨
    ∃ r, t.draft.build = .ok r ∧ ∀ last, r.EndsWith last HttpRequest.maxHops replies →
      last.status ≠ t.hopedFor

/-- The registry answers the first request with the address of another one. -/
def SentElsewhere (t : Telling) (replies : List (Option HttpReply)) : Prop :=
  ∃ r, t.draft.build = .ok r ∧ ∃ reply, replies.head?.join = some reply ∧
    ∃ r', r.next? reply = some (.ok r')

/-- A request follows another one only if the registry sends the client elsewhere, and what comes of
it is that the registry accepts or that it is unavailable, whatever else is sent back. -/
structure Discreet (t : Telling) (service : String) : Prop where
  /-- No more requests than the client has hops. -/
  length_le : ∀ replies, (t.sent replies).length ≤ 11
  /-- One request at most, unless the registry sends the client elsewhere. -/
  one_lt_iff : ∀ replies, 1 < (t.sent replies).length ↔ t.SentElsewhere replies
  /-- A failure is one of the service. -/
  fails : ∀ replies, t.Fails replies → ∃ fault, t.result replies = .error (.service service fault)
  /-- Everything else is acceptance. -/
  accepts : ∀ replies, ¬ t.Fails replies → t.result replies = .ok ()

/-- Where the first answer sends the client nowhere, it is the one that counts. -/
theorem fails_iff_of_settled {t : Telling} {replies : List (Option HttpReply)}
    (h : ∀ reply, replies.head?.join = some reply → reply.Settled) :
    ¬ t.SentElsewhere replies ∧ (t.Fails replies ↔ (∃ failure, t.draft.build = .error failure) ∨
      ∀ reply, replies.head?.join = some reply → reply.status ≠ t.hopedFor) := by
  refine ⟨?_, ?_⟩
  · rintro ⟨r, -, reply, hreply, r', hnext⟩
    rw [HttpRequest.next?_of_settled (h reply hreply)] at hnext
    cases hnext
  · cases hbuild : t.draft.build with
    | error failure => exact iff_of_true (.inl ⟨failure, hbuild⟩) (.inl ⟨failure, rfl⟩)
    | ok r =>
      have hends (last : HttpReply) :
          r.EndsWith last HttpRequest.maxHops replies ↔ replies.head?.join = some last := by
        rw [← HttpRequest.result_follow_eq_ok_iff, (HttpRequest.follow_of_settled h).2.1]
        cases replies.head?.join <;> simp [HttpRequest.outcome]
      simp [Fails, hbuild, hends]

theorem not_fails {t : Telling} {r : HttpRequest} {replies : List (Option HttpReply)}
    {last : HttpReply} (hr : t.draft.build = .ok r)
    (hends : r.EndsWith last HttpRequest.maxHops replies) (hstatus : last.status = t.hopedFor) :
    ¬ t.Fails replies := by
  rintro (⟨failure, herror⟩ | ⟨_, hr', hother⟩)
  · cases hr.symm.trans herror
  · cases hr.symm.trans hr'
    exact hother last hends hstatus

end Telling

namespace RegistryClient

/-- How a client tells a registry of a card: with one draft, and by what its outcome means. -/
def tell (settings : RegistrySettings) (call : ServiceCall) (iccid : String) (hopedFor : Nat)
    (draft : HttpDraft) : Telling where
  iccid := iccid
  draft := draft
  correspondence := .write draft fun answer =>
    .done (conclude settings call iccid hopedFor answer)
  hopedFor := hopedFor

section

variable (settings : RegistrySettings) (call : ServiceCall) (iccid : String) (hopedFor : Nat)
  (draft : HttpDraft) (replies : List (Option HttpReply))

theorem sent_tell : (tell settings call iccid hopedFor draft).sent replies =
    (draft.exchange.exchanges replies).map Prod.fst := by
  rw [Telling.sent, ← Dialogue.map_fst_exchanges, tell, Correspondence.exchanges_dialogue,
    Correspondence.sendings, Correspondence.sendings, List.flatMap_singleton, HttpDraft.sending]

theorem result_tell : (tell settings call iccid hopedFor draft).result replies =
    conclude settings call iccid hopedFor (draft.exchange.result replies) :=
  Correspondence.result_dialogue_write ..

theorem discreet_tell :
    (tell settings call iccid hopedFor draft).Discreet settings.name := by
  cases hbuild : draft.build with
  | error failure =>
    have hsent : ∀ replies, (tell settings call iccid hopedFor draft).sent replies = [] := by
      intro replies
      rw [sent_tell, HttpDraft.exchange_of_error hbuild]
      rfl
    refine ⟨fun replies => by simp [hsent], fun replies => ?_, fun replies _ => ?_,
      fun replies hnot => absurd (.inl ⟨failure, hbuild⟩) hnot⟩
    · refine iff_of_false (by simp [hsent]) ?_
      rintro ⟨r, hr, -⟩
      cases hbuild.symm.trans hr
    · rw [result_tell, HttpDraft.exchange_of_error hbuild]
      exact ⟨_, rfl⟩
  | ok r =>
    have hexchange := HttpDraft.exchange_of_ok hbuild
    refine ⟨fun replies => ?_, fun replies => ?_, fun replies hfails => ?_, fun replies hnot => ?_⟩
    · rw [sent_tell, hexchange, List.length_map]
      exact HttpRequest.length_exchanges_follow_le
    · rw [sent_tell, hexchange, List.length_map]
      refine HttpRequest.one_lt_length_exchanges_follow_iff.trans ⟨fun h => ⟨r, hbuild, h⟩, ?_⟩
      rintro ⟨_, hr, h⟩
      cases hbuild.symm.trans hr
      exact h
    · rw [result_tell, hexchange]
      cases hlast : (r.follow HttpRequest.maxHops).result replies with
      | error failure => exact ⟨_, rfl⟩
      | ok last =>
        obtain ⟨failure, herror⟩ | ⟨_, hr, hstatus⟩ := hfails
        · cases hbuild.symm.trans herror
        · cases hbuild.symm.trans hr
          exact ⟨_, if_neg (hstatus last (HttpRequest.result_follow_eq_ok_iff.1 hlast))⟩
    · obtain ⟨last, hlast, hstatus⟩ : ∃ last, r.EndsWith last HttpRequest.maxHops replies ∧
          last.status = hopedFor := by
        by_contra! hnone
        exact hnot (.inr ⟨r, hbuild, hnone⟩)
      rw [result_tell, hexchange, HttpRequest.result_follow_eq_ok_iff.2 hlast]
      exact if_pos hstatus

end

end RegistryClient

/-- A client tells a registry with one draft, and nothing else than acceptance or unavailability
comes of it. -/
theorem Telling.discreet_of? {settings : RegistrySettings} {r : Request} {t : Telling}
    (ht : Telling.of? settings r = some t) (hiccid : t.iccid ≠ "") : t.Discreet settings.name := by
  cases r with
  | activate registry iccid msisdn =>
    cases ht
    have hactivate : RegistryClient.activate settings iccid msisdn =
        (RegistryClient.tell settings .activate iccid 201 _).correspondence := if_neg hiccid
    rw [hactivate]
    exact RegistryClient.discreet_tell ..
  | suspend registry iccid =>
    cases ht
    have hsuspend : RegistryClient.suspend settings iccid =
        (RegistryClient.tell settings .deactivate iccid 200 _).correspondence := if_neg hiccid
    rw [hsuspend]
    exact RegistryClient.discreet_tell ..
  | _ => cases ht

/-! ## The operations -/

/-- An error that the request is answered with is the end, and the error of the whole. -/
def Request.PassesOn {α : Type} : (r : Request) → (r.Answer → Flow (Except Error α)) → Prop
  | .activate .., k => ∀ e, k (.error e) = .done (.error e)
  | .suspend .., k => ∀ e, k (.error e) = .done (.error e)
  | _, _ => False

/-- The request tells a registry something. Its failure is passed on, and no other call follows. -/
def Request.TellsOnce {α : Type} (r : Request) (k : r.Answer → Flow (Except Error α)) : Prop :=
  r.PassesOn k ∧ ∀ a, (k a).Asks fun r => r.isCall = false

namespace Handout

open SimDepot.Action

variable {bindings : Bindings}

theorem firstAsks_tell (registry : RegistryId) (iccid msisdn : String) (id : SimId) :
    Action.FirstAsks Request.isCall Request.TellsOnce (tell bindings registry iccid msisdn id) := by
  refine Flow.firstAsks_ask rfl ⟨fun _ => rfl, fun res => ?_⟩
  cases res with
  | error e => trivial
  | ok _ => exact asks_bind (Stock.asks_update fun _ h => h) fun _ => asks_pure

theorem firstAsks_allocate (pool : Pool) (msisdn : String) :
    Action.FirstAsks Request.isCall Request.TellsOnce (allocate bindings pool msisdn) := by
  rcases allocate_cases bindings pool msisdn with ⟨e, he⟩ | hclaim
  · rw [he]
    exact firstAsks_throw
  · rw [hclaim]
    exact firstAsks_bind (Stock.asks_claim fun _ hr _ => hr) fun _ =>
      firstAsks_bind (Stock.asks_update fun _ hr => hr) fun _ => firstAsks_tell _ _ _ _

theorem firstAsks_activate (registry : RegistryId) (iccid : String) (msisdn : Option String) :
    Action.FirstAsks Request.isCall Request.TellsOnce
      (activate bindings registry iccid msisdn) := by
  refine firstAsks_bind (Stock.asks_find fun _ hr => hr) fun sim =>
    firstAsks_ite firstAsks_throw (firstAsks_ite firstAsks_throw (firstAsks_ite firstAsks_throw
      (firstAsks_bind asks_expect fun number => firstAsks_bind
        (asks_bind asks_expect fun _ => asks_pure) fun _ => ?_)))
  exact firstAsks_ite (firstAsks_bind (Stock.asks_update fun _ hr => hr)
    fun _ => firstAsks_tell _ _ _ _) (firstAsks_tell _ _ _ _)

theorem firstAsks_suspend (iccid : String) :
    Action.FirstAsks Request.isCall Request.TellsOnce (suspend bindings iccid) := by
  refine firstAsks_bind (Stock.asks_find fun _ hr => hr) fun sim =>
    firstAsks_bind (asks_bind asks_expect fun _ => asks_pure) fun _ => ?_
  refine Flow.firstAsks_ask rfl ⟨fun _ => rfl, fun res => ?_⟩
  cases res with
  | error e => trivial
  | ok _ => exact asks_bind (Stock.asks_markSuspended fun _ h => h) fun _ => asks_pure

end Handout

/-- An operation that hands SIMs out tells a registry something once, if at all. -/
theorem Operation.firstAsks_handout {o : Operation} (ho : o.isHandout) (bindings : Bindings) :
    Action.FirstAsks Request.isCall Request.TellsOnce (o.action bindings) := by
  cases o with
  | allocate pool msisdn => exact Handout.firstAsks_allocate pool msisdn
  | activate registry iccid msisdn => exact Handout.firstAsks_activate registry iccid msisdn
  | suspend iccid => exact Handout.firstAsks_suspend iccid
  | _ => cases ho

/-! ## What callers learn -/

/-- The session is done and has failed; this store is left, and this is what its caller learns. -/
def World.FailsWith {ι : Type} {α : ι → Type} (w : World fun i => Except Error (α i)) (i : ι)
    (s : Store) (outcome : Outcome) (text : String) : Prop :=
  w.store = s ∧ ∃ e : Error, w.rest i = .done (.error e) ∧ e.outcome = outcome ∧
    e.publicMessage = text

/-- The answer to a request that tells a registry something leaves the store as it is. -/
theorem World.step_of_passesOn {ι : Type} [DecidableEq ι] {α : ι → Type}
    {w : World fun i => Except Error (α i)} {i : ι} {r : Request}
    {k : r.Answer → Flow (Except Error (α i))} (hask : w.rest i = .ask r k) (hr : r.PassesOn k)
    (halive : (w.standing i).isGone = false) (res : Except Error Unit) :
    ∃ v, w.step (.turn i (.call res)) = some v ∧ v.store = w.store ∧
      ∀ e, res = .error e → v.rest i = .done (.error e) := by
  have hstep : ∀ cue, r.isWrite = false → w.step (.turn i cue) =
      (serve r cue (w.standing i) w.store).map fun served =>
        w.proceed i ⟨r, served.1⟩ served.2.1 served.2.2 (k served.1) := by
    intro cue hwrite
    simp [step, hask, halive, hwrite]
  cases r with
  | activate _ _ _ | suspend _ _ =>
    refine ⟨_, hstep (.call res) rfl, rfl, fun e he => ?_⟩
    rw [he]
    exact (Function.update_self _ _ _).trans (hr e)
  | _ => cases hr

section Runs

variable {ι : Type} [DecidableEq ι] {ops : ι → Operation} {bindings : ι → Bindings}

/-- What an operation that hands SIMs out is about to ask a service tells a registry something, and
it has asked none before. -/
theorem tellsOnce_of_run {s : Store} {moves : List (Move ι)}
    {w : World fun i => Except Error (ops i).Value}
    (hrun : (World.start s fun i => ((ops i).action (bindings i)).run).run moves = some w) {i : ι}
    (hop : (ops i).isHandout) {r : Request} {k : r.Answer → Flow (Except Error (ops i).Value)}
    (hask : w.rest i = .ask r k) (hcall : r.isCall) :
    r.TellsOnce k ∧ ∀ t ∈ w.turnsOf i, t.request.isCall = false := by
  have hfollows := World.follows_of_run hrun i
  rw [hask] at hfollows
  rcases Flow.FirstAsks.of_follows (fun _ _ h => h.2) (Operation.firstAsks_handout hop (bindings i))
    hfollows with ⟨hfirst, hturns⟩ | ⟨hnone, -⟩
  · rw [Flow.FirstAsks, if_pos hcall] at hfirst
    exact ⟨hfirst, hturns⟩
  · rw [hnone.1] at hcall
    cases hcall

/-- An operation that hands SIMs out asks a service once, if at all. -/
theorem length_calls_le_one {s : Store} {moves : List (Move ι)}
    {w : World fun i => Except Error (ops i).Value}
    (hrun : (World.start s fun i => ((ops i).action (bindings i)).run).run moves = some w) {i : ι}
    (hop : (ops i).isHandout) : ((w.turnsOf i).filter fun t => t.request.isCall).length ≤ 1 := by
  rcases Flow.FirstAsks.of_follows (fun _ _ h => h.2) (Operation.firstAsks_handout hop (bindings i))
    (World.follows_of_run hrun i) with ⟨-, hturns⟩ | ⟨-, hone⟩
  · have hnone : (w.turnsOf i).filter (fun t => t.request.isCall) = [] :=
      List.filter_eq_nil_iff.2 fun t ht => by simp [hturns t ht]
    simp [hnone]
  · exact hone.le

/-- On any store, operations in whatever order their requests are answered, whatever fails and
whichever processes die: one that hands SIMs out asks a service once, if at all. When it comes to
ask, and the registry is reached by an HTTP client, then a second request is sent exactly if the
registry sends the client elsewhere. Whatever goes wrong down to the last answer, the operation has
failed, with the store as it was, and its caller learns one and the same thing, in which nothing
shows but the name of the registry. And whatever a last answer with the status that is hoped for has
in its body, the operation goes on in the same way. If the registry does not send the client
elsewhere, the last answer is the first. -/
theorem failure_hidden_of_run (s : Store) (ops : ι → Operation) (bindings : ι → Bindings)
    {moves : List (Move ι)} {w : World fun i => Except Error (ops i).Value}
    (hrun : (World.start s fun i => ((ops i).action (bindings i)).run).run moves = some w) {i : ι}
    (hop : (ops i).isHandout) :
    ((w.turnsOf i).filter fun t => t.request.isCall).length ≤ 1 ∧
      ∀ r, (w.rest i).next? = some r → r.isCall → (w.standing i).isGone = false →
        ∀ settings t, Telling.of? settings r = some t → t.iccid ≠ "" → ∀ replies,
          (t.sent replies).length ≤ 11 ∧ (1 < (t.sent replies).length ↔ t.SentElsewhere replies) ∧
          (∃ v, w.step (.turn i (.call (t.result replies))) = some v ∧
            (t.Fails replies → v.FailsWith i w.store .serviceUnavailable
              ("Upstream service " ++ settings.name ++ " is unavailable")) ∧
            (¬ t.Fails replies → w.step (.turn i (.call (.ok ()))) = some v)) ∧
          ((∀ reply, replies.head?.join = some reply → reply.Settled) →
            ¬ t.SentElsewhere replies ∧
              (t.Fails replies ↔ (∃ failure, t.draft.build = .error failure) ∨
                ∀ reply, replies.head?.join = some reply → reply.status ≠ t.hopedFor)) := by
  refine ⟨length_calls_le_one hrun hop, fun r hnext hcall halive settings t ht hiccid replies => ?_⟩
  obtain ⟨k, hask⟩ := Flow.exists_eq_ask hnext
  obtain ⟨⟨hpasses, -⟩, -⟩ := tellsOnce_of_run hrun hop hask hcall
  have hdiscreet := Telling.discreet_of? ht hiccid
  obtain ⟨v, hstep, hstore, herror⟩ :=
    World.step_of_passesOn hask hpasses halive (t.result replies)
  refine ⟨hdiscreet.length_le replies, hdiscreet.one_lt_iff replies,
    ⟨v, hstep, fun hfails => ?_, fun hnot => ?_⟩, Telling.fails_iff_of_settled⟩
  · obtain ⟨fault, hfault⟩ := hdiscreet.fails replies hfails
    exact ⟨hstore, _, herror _ hfault, rfl, rfl⟩
  · rw [← hstep, hdiscreet.accepts replies hnot]

end Runs

/-! ### An outage -/

/-- How a client reaches the registry at an address. -/
def registryAt (endpoint : String) : RegistrySettings := ⟨"Registry", endpoint, "key", "depot", 10⟩

/-- What a client tells the registry at an address of the SIM that is handed out. -/
def tellingAt (endpoint : String) : Telling where
  iccid := "8947"
  draft := RegistryClient.activationDraft (registryAt endpoint) "8947" "4790"
  correspondence := RegistryClient.activate (registryAt endpoint) "8947" "4790"
  hopedFor := 201

/-- The allocation fails when the registry at this address is asked and sends this back, and all
that shows is that the registry is unavailable. -/
def HidesOutage (endpoint : String) (replies : List (Option HttpReply)) : Prop :=
  ∃ v, registryAsked.step (.turn false (.call ((tellingAt endpoint).result replies))) = some v ∧
    v.FailsWith false registryAsked.store .serviceUnavailable
      "Upstream service Registry is unavailable"

/-- The allocation goes on when the registry at this address is asked and sends this back, as if no
more were known of the registry than that it accepts. -/
def TakesAnswer (endpoint : String) (replies : List (Option HttpReply)) : Prop :=
  ∃ v, registryAsked.step (.turn false (.call ((tellingAt endpoint).result replies))) = some v ∧
    registryAsked.step (.turn false (.call (.ok ()))) = some v

/-- An answer that accepts. -/
def acceptance : HttpReply where
  status := 201
  body := "panic"

/-- An answer that sends the client elsewhere with its request. -/
def relocation : HttpReply where
  status := 307
  location := some "/new"
  body := ""

/-- The registry breaks down, hangs up, or has an address that nothing can be sent to although it
would accept: callers cannot tell one from the other, nor what it says when it accepts. Nor do they
learn that it sent the client elsewhere, where the same was sent once more, and accepted. -/
theorem failure_hidden_of_outage :
    HidesOutage "http://[::1]" [some { status := 500, body := "panic" }] ∧
    HidesOutage "http://[::1]" [none] ∧
    HidesOutage "registry" [some acceptance] ∧
    TakesAnswer "http://[::1]" [some acceptance] ∧
    TakesAnswer "http://[::1]" [some relocation, some acceptance] ∧
    ((tellingAt "http://[::1]").sent [some relocation, some acceptance]).map
      (fun r => (r.method.word, r.url.text)) =
        [("POST", "http://[::1]/activate"), ("POST", "http://[::1]/new")] := by
  have hearly : givingUpStart.run ((List.replicate 7 .plain).map (.turn false)) =
      some registryAsked := (Option.some_get _).symm
  obtain ⟨-, hasked⟩ :=
    failure_hidden_of_run oneReady givingUp (fun _ => firstServices) hearly (i := false) rfl
  have htold := fun endpoint => hasked (.activate 1 "8947" "4790") (by decide +kernel) rfl
    (by decide +kernel) (registryAt endpoint) (tellingAt endpoint) rfl (show "8947" ≠ "" by decide)
  have hhides : ∀ endpoint replies, (tellingAt endpoint).Fails replies →
      HidesOutage endpoint replies := by
    intro endpoint replies hfails
    obtain ⟨-, -, ⟨v, hstep, hfailed, -⟩, -⟩ := htold endpoint replies
    exact ⟨v, hstep, hfailed hfails⟩
  have htakes : ∀ endpoint replies, ¬ (tellingAt endpoint).Fails replies →
      TakesAnswer endpoint replies := by
    intro endpoint replies hnot
    obtain ⟨-, -, ⟨v, hstep, -, haccepted⟩, -⟩ := htold endpoint replies
    exact ⟨v, hstep, haccepted hnot⟩
  have haccepts : ∀ r' : HttpRequest, r'.next? acceptance = none := fun _ =>
    HttpRequest.next?_of_settled (.inl (by decide))
  have hsent : ((tellingAt "http://[::1]").sent [some relocation, some acceptance]).map
      (fun r => (r.method.word, r.url.text)) =
        [("POST", "http://[::1]/activate"), ("POST", "http://[::1]/new")] := by
    decide +kernel
  have hlength := congrArg List.length hsent
  rw [List.length_map] at hlength
  obtain ⟨r, hr, reply, hreply, r', hnext⟩ :=
    (htold "http://[::1]" [some relocation, some acceptance]).2.1.1 (hlength ▸ by decide)
  obtain rfl : relocation = reply := Option.some.inj hreply
  refine ⟨hhides _ _ ((Telling.fails_iff_of_settled ?_).2.2 (.inr ?_)),
    hhides _ _ ((Telling.fails_iff_of_settled ?_).2.2 (.inr ?_)), hhides _ _ (.inl ?_),
    htakes _ _ (Telling.not_fails hr (.here (haccepts r)) rfl),
    htakes _ _ (Telling.not_fails hr (.onwards hnext (.here (haccepts r'))) rfl), hsent⟩
  · rintro _ ⟨⟩
    exact .inl (by decide)
  · rintro _ ⟨⟩
    decide
  · nofun
  · nofun
  · exact HttpDraft.exists_of_not_isOk (by decide +kernel)

end SimDepot
