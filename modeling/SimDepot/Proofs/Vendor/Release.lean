import SimDepot.Proofs.Document.Record
import SimDepot.Proofs.Http.Correspondence
import SimDepot.Service.VendorClient

/-!
# Releases by a vendor

A release writes an order, and behind it a confirmation where the answer to the order accepts it.
`VendorClient.Course` lists the courses that this can take, with all that passes on the way and with
the outcome. All that is known of a release follows from it, and with
`VendorClient.exactRelease_of_course` when it succeeds and what is sent for it.

The answer that counts is the last one to a draft. An answer that sends the client elsewhere counts
for nothing, but it makes the client send the order, or the confirmation, once more.
-/

namespace SimDepot.VendorClient

variable {settings : VendorSettings} {call : ServiceCall} {iccid : String} {α : Type}

/-! ## What answers say -/

/-- There is an answer, its status is one of success, and its body reads as `a`. -/
def Answers (dec : Decoder α) (answer : Except HttpFailure HttpReply) (a : α) : Prop :=
  ∃ reply, answer = .ok reply ∧ (200 ≤ reply.status ∧ reply.status < 300) ∧
    Json.decode dec reply.body = .ok a

/-- The answer accepts an order: it was executed, and for no other card. -/
def Accepts (iccid : String) (answer : Except HttpFailure HttpReply) : Prop :=
  ∃ a, Answers orderAnswer answer a ∧ a.status = "Executed-Success" ∧
    (a.iccid = none ∨ a.iccid = some iccid)

/-- The answer confirms an order with a release: it was executed, and there is a token. -/
def Confirms (answer : Except HttpFailure HttpReply) (rel : Release) : Prop :=
  ∃ a, Answers confirmationAnswer answer a ∧ a.status = "Executed-Success" ∧
    a.matchingId = some rel.matchingId ∧ rel.matchingId ≠ "" ∧ rel.eid = a.eid.filter (· ≠ "")

theorem conclude_eq_ok_iff {dec : Decoder α} (answer : Except HttpFailure HttpReply) {a : α} :
    conclude settings call iccid dec answer = .ok a ↔ Answers dec answer a := by
  cases answer with
  | error failure => exact iff_of_false nofun fun ⟨_, hreply, _⟩ => nomatch hreply
  | ok reply =>
    have hanswers : Answers dec (.ok reply) a ↔
        reply.isSuccess ∧ Json.decode dec reply.body = .ok a := by
      simp only [Answers, Except.ok.injEq, exists_eq_left', HttpReply.isSuccess, Bool.and_eq_true,
        decide_eq_true_eq]
    rw [hanswers, conclude]
    by_cases hsuccess : reply.isSuccess
    · rw [if_neg (by simp [hsuccess])]
      cases Json.decode dec reply.body <;> simp [hsuccess]
    · simp [hsuccess]

/-- A step that follows another one succeeds if both do. -/
theorem bind_eq_ok_iff {ε β : Type} {x : Except ε α} {f : α → Except ε β} {b : β} :
    x.bind f = .ok b ↔ ∃ a, x = .ok a ∧ f a = .ok b := by
  cases x <;> simp [Except.bind]

/-- The answer to an order tells no card number where the object has none, or null. -/
theorem member_of_orderAnswer {members : List (Option String × Document)} {complete : Bool}
    {a : OrderAnswer} (h : orderAnswer (.mapping members complete) = .ok a) :
    (Document.mapping members complete).member "iccid" = .ofText? a.iccid := by
  obtain ⟨found, hread, h⟩ := bind_eq_ok_iff.1 h
  obtain ⟨status, -, h⟩ := bind_eq_ok_iff.1 h
  obtain ⟨iccid, hiccid, h⟩ := bind_eq_ok_iff.1 h
  cases h
  exact Shape.member_eq_ofText? rfl hread hiccid

/-- The answer to a confirmation tells no identity of the chip and has no token where the object has
none, or null. -/
theorem member_of_confirmationAnswer {members : List (Option String × Document)} {complete : Bool}
    {a : ConfirmationAnswer} (h : confirmationAnswer (.mapping members complete) = .ok a) :
    (Document.mapping members complete).member "eid" = .ofText? a.eid ∧
      (Document.mapping members complete).member "matchingId" = .ofText? a.matchingId := by
  obtain ⟨found, hread, h⟩ := bind_eq_ok_iff.1 h
  obtain ⟨status, -, h⟩ := bind_eq_ok_iff.1 h
  obtain ⟨eid, heid, h⟩ := bind_eq_ok_iff.1 h
  obtain ⟨matchingId, hmatchingId, h⟩ := bind_eq_ok_iff.1 h
  cases h
  exact ⟨Shape.member_eq_ofText? rfl hread heid, Shape.member_eq_ofText? rfl hread hmatchingId⟩

/-! ## What is asked of answers -/

theorem requireExecuted_eq_ok_iff {status : String} {u : Unit} :
    requireExecuted settings call iccid status = .ok u ↔ status = executed := by
  simp [requireExecuted]

theorem checkOrder_eq_ok_iff {a : OrderAnswer} : checkOrder settings iccid a = .ok () ↔
    a.status = executed ∧ (a.iccid = none ∨ a.iccid = some iccid) := by
  refine bind_eq_ok_iff.trans ?_
  simp only [requireExecuted_eq_ok_iff, exists_const]
  refine and_congr_right fun _ => ?_
  cases a.iccid with
  | none => simp [pure, Except.pure]
  | some other =>
    by_cases h : other = iccid <;> simp [h, pure, Except.pure, throw, throwThe, MonadExceptOf.throw]

theorem releaseOf_eq_ok_iff {a : ConfirmationAnswer} {rel : Release} :
    releaseOf settings iccid a = .ok rel ↔ a.status = executed ∧
      a.matchingId = some rel.matchingId ∧ rel.matchingId ≠ "" ∧
      rel.eid = a.eid.filter (· ≠ "") := by
  refine bind_eq_ok_iff.trans ?_
  simp only [requireExecuted_eq_ok_iff, exists_const]
  refine and_congr_right fun _ => ?_
  cases a.matchingId with
  | none => exact iff_of_false nofun fun h => nomatch h.1
  | some matchingId =>
    by_cases h : matchingId = ""
    · subst h
      refine iff_of_false nofun fun h => ?_
      exact h.2.1 (Option.some.inj h.1).symm
    · have hfilter : (some matchingId).filter (· ≠ "") = some matchingId := by simp [h]
      rw [hfilter]
      obtain ⟨matchingId', eid⟩ := rel
      simp only [pure, Except.pure, Except.ok.injEq, Release.mk.injEq, Option.some.injEq]
      refine ⟨?_, ?_⟩
      · rintro ⟨rfl, rfl⟩
        exact ⟨rfl, h, rfl⟩
      · rintro ⟨rfl, -, rfl⟩
        exact ⟨rfl, rfl⟩

/-- What comes of an order that came to this. -/
def ordering (settings : VendorSettings) (iccid : String) (outcome : Except HttpFailure HttpReply) :
    Except Error Unit :=
  (conclude settings .downloadOrder iccid orderAnswer outcome).bind (checkOrder settings iccid)

/-- What comes of a confirmation that came to this. -/
def confirming (settings : VendorSettings) (iccid : String)
    (outcome : Except HttpFailure HttpReply) : Except Error Release :=
  (conclude settings .confirmOrder iccid confirmationAnswer outcome).bind (releaseOf settings iccid)

theorem ordering_eq_ok_iff (answer : Except HttpFailure HttpReply) :
    ordering settings iccid answer = .ok () ↔ Accepts iccid answer := by
  simp only [ordering, bind_eq_ok_iff, conclude_eq_ok_iff, checkOrder_eq_ok_iff]
  rfl

theorem confirming_eq_ok_iff (answer : Except HttpFailure HttpReply) {rel : Release} :
    confirming settings iccid answer = .ok rel ↔ Confirms answer rel := by
  simp only [confirming, bind_eq_ok_iff, conclude_eq_ok_iff, releaseOf_eq_ok_iff]
  rfl

/-! ## Failures -/

/-- A failure, if there is one, is of the service of this name. -/
inductive FailsAs (name : String) : Except Error α → Prop
  /-- There is none. -/
  | ok (a : α) : FailsAs name (.ok a)
  /-- It has any fault. -/
  | error (fault : ServiceFault) : FailsAs name (.error (.service name fault))

theorem FailsAs.exists_fault {name : String} {x : Except Error α} (hx : FailsAs name x) {e : Error}
    (he : x = .error e) : ∃ fault, e = .service name fault := by
  subst he
  cases hx with
  | error fault => exact ⟨fault, rfl⟩

theorem FailsAs.bind {β : Type} {name : String} {x : Except Error α} {f : α → Except Error β}
    (hx : FailsAs name x) (hf : ∀ a, FailsAs name (f a)) : FailsAs name (x.bind f) := by
  cases hx with
  | ok a => exact hf a
  | error fault => exact .error fault

theorem failsAs_conclude (dec : Decoder α) (outcome : Except HttpFailure HttpReply) :
    FailsAs settings.name (conclude settings call iccid dec outcome) := by
  unfold conclude
  split
  · exact .error ..
  · split
    · exact .error ..
    · split
      · exact .error ..
      · exact .ok ..

theorem failsAs_requireExecuted (status : String) :
    FailsAs settings.name (requireExecuted settings call iccid status) := by
  unfold requireExecuted
  split
  · exact .ok ..
  · exact .error ..

theorem failsAs_ordering (outcome : Except HttpFailure HttpReply) :
    FailsAs settings.name (ordering settings iccid outcome) := by
  refine (failsAs_conclude orderAnswer outcome).bind fun a => ?_
  refine (failsAs_requireExecuted a.status).bind fun _ => ?_
  split
  · exact .error ..
  · exact .ok ..

theorem failsAs_confirming (outcome : Except HttpFailure HttpReply) :
    FailsAs settings.name (confirming settings iccid outcome) := by
  refine (failsAs_conclude confirmationAnswer outcome).bind fun a => ?_
  refine (failsAs_requireExecuted a.status).bind fun _ => ?_
  split
  · exact .error ..
  · exact .ok ..

/-! ## The courses of a release -/

/-- An order as it is written after a number of calls. -/
def orderDraft (settings : VendorSettings) (times : Nat → String) (calls : Nat) (sim : Sim) :
    HttpDraft :=
  draft settings .downloadOrder (order settings (times calls) calls sim)

/-- A confirmation as it is written after a number of calls. -/
def confirmationDraft (settings : VendorSettings) (times : Nat → String) (calls : Nat) (sim : Sim) :
    HttpDraft :=
  draft settings .confirmOrder (confirmation settings (times calls) calls sim)

variable (settings) (times : Nat → String) (calls : Nat) (sim : Sim)
  (replies : List (Option HttpReply))

theorem release_eq : release settings times calls sim =
    .write (orderDraft settings times calls sim) fun outcome =>
      match ordering settings sim.iccid outcome with
      | .error e => .done (.error e, calls + 1)
      | .ok () => .write (confirmationDraft settings times (calls + 1) sim) fun outcome =>
          .done (confirming settings sim.iccid outcome, calls + 2) :=
  rfl

/-- All that passes for an order. -/
def ordered : Sending := (orderDraft settings times calls sim).sending replies

/-- All that passes for a confirmation, with the replies that the order has left. -/
def confirmed : Sending :=
  (confirmationDraft settings times (calls + 1) sim).sending
    ((orderDraft settings times calls sim).exchange.left replies)

/-- The courses of a release with a vendor that answers with these replies: what passes for the
drafts that are written, and the result. -/
inductive Course : List Sending → Except Error Release × Nat → Prop
  /-- The order is not accepted. -/
  | declined {e : Error}
      (haccepts : ¬ Accepts sim.iccid (ordered settings times calls sim replies).outcome)
      (he : ordering settings sim.iccid (ordered settings times calls sim replies).outcome =
        .error e) :
      Course [ordered settings times calls sim replies] (.error e, calls + 1)
  /-- The order is accepted, and its confirmation is sent. -/
  | accepted {r r' : HttpRequest}
      (haccepts : Accepts sim.iccid (ordered settings times calls sim replies).outcome)
      (hordered : (orderDraft settings times calls sim).build = .ok r)
      (hconfirmed : (confirmationDraft settings times (calls + 1) sim).build = .ok r') :
      Course [ordered settings times calls sim replies, confirmed settings times calls sim replies]
        (confirming settings sim.iccid (confirmed settings times calls sim replies).outcome,
          calls + 2)

/-- Where the order can be built, its confirmation can. -/
theorem exists_build_confirmationDraft {r : HttpRequest} (times' : Nat → String) (calls' : Nat)
    (h : (orderDraft settings times calls sim).build = .ok r) :
    ∃ r', (confirmationDraft settings times' calls' sim).build = .ok r' := by
  -- Both addresses are the endpoint with the same words behind it, but for the last one.
  have haddress (call : ServiceCall) (w : String)
      (hw : callPath call = "/gsma/rsp2" ++ "/" ++ "es2plus" ++ "/" ++ w) :
      RegistryClient.withoutSlashes settings.endpoint ++ callPath call =
        RegistryClient.withoutSlashes settings.endpoint ++ "/gsma/rsp2" ++ "/" ++ "es2plus" ++
          "/" ++ w := by
    rw [hw]
    simp only [String.append_assoc]
  have hes2plus : Url.IsWord "es2plus".toList :=
    ⟨by decide, List.all_eq_true.1 (by decide), by decide, by decide⟩
  have horder : Url.IsWord "downloadOrder".toList :=
    ⟨by decide, List.all_eq_true.1 (by decide), by decide, by decide⟩
  have hconfirm : Url.IsWord "confirmOrder".toList :=
    ⟨by decide, List.all_eq_true.1 (by decide), by decide, by decide⟩
  unfold orderDraft confirmationDraft draft HttpDraft.build at *
  rw [haddress .downloadOrder "downloadOrder" (by decide)] at h
  rw [haddress .confirmOrder "confirmOrder" (by decide)]
  exact HttpRequest.exists_build_otherWord hes2plus horder hconfirm (by decide) h _

/-- An order that is accepted was sent. -/
theorem exists_build_of_accepts
    (h : Accepts sim.iccid (ordered settings times calls sim replies).outcome) :
    ∃ r, (orderDraft settings times calls sim).build = .ok r := by
  cases hbuild : (orderDraft settings times calls sim).build with
  | ok r => exact ⟨r, rfl⟩
  | error failure =>
    obtain ⟨_, ⟨_, hreply, -⟩, -⟩ := h
    rw [ordered, HttpDraft.outcome_sending, HttpDraft.exchange_of_error hbuild] at hreply
    cases hreply

/-- A release takes one of the courses. -/
theorem course_release : Course settings times calls sim replies
    ((release settings times calls sim).sendings replies)
    ((release settings times calls sim).dialogue.result replies) := by
  have houtcome : (orderDraft settings times calls sim).exchange.result replies =
      (ordered settings times calls sim replies).outcome := by
    rw [ordered, HttpDraft.outcome_sending]
  have houtcome' : (confirmationDraft settings times (calls + 1) sim).exchange.result
      ((orderDraft settings times calls sim).exchange.left replies) =
      (confirmed settings times calls sim replies).outcome := by
    rw [confirmed, HttpDraft.outcome_sending]
  rw [release_eq, Correspondence.result_dialogue_write, Correspondence.sendings, houtcome,
    ← ordered]
  cases he : ordering settings sim.iccid (ordered settings times calls sim replies).outcome with
  | error e =>
    refine .declined (fun haccepts => ?_) he
    rw [(ordering_eq_ok_iff _).2 haccepts] at he
    cases he
  | ok u =>
    have haccepts := (ordering_eq_ok_iff _).1 he
    obtain ⟨r, hordered⟩ := exists_build_of_accepts settings times calls sim replies haccepts
    obtain ⟨r', hconfirmed⟩ :=
      exists_build_confirmationDraft settings times calls sim times (calls + 1) hordered
    dsimp only
    rw [Correspondence.result_dialogue_write, Correspondence.sendings, houtcome', ← confirmed,
      Correspondence.sendings, Correspondence.dialogue, Dialogue.result]
    exact .accepted haccepts hordered hconfirmed

variable {settings times calls sim replies} in
/-- What passes for an order comes first, and what passes for the confirmation of an order that is
accepted comes behind it. -/
theorem Course.mem {passed : List Sending} {result : Except Error Release × Nat}
    (h : Course settings times calls sim replies passed result) :
    ordered settings times calls sim replies ∈ passed ∧
      (Accepts sim.iccid (ordered settings times calls sim replies).outcome →
        confirmed settings times calls sim replies ∈ passed) := by
  cases h with
  | declined haccepts => exact ⟨List.mem_cons_self, fun h => absurd h haccepts⟩
  | accepted => exact ⟨List.mem_cons_self, fun _ => List.mem_cons_of_mem _ List.mem_cons_self⟩

/-! ## What a release comes to -/

/-- A release for which this passes and that has this outcome makes the most of what the vendor
answers: it goes on as long as the answers allow it, and succeeds exactly if they do to the end. -/
structure ExactRelease (iccid : String) (order confirmation : HttpDraft) (sendings : List Sending)
    (outcome : Except Error Release) : Prop where
  /-- The order is written. -/
  orders : ∃ s ∈ sendings, s.draft = order
  /-- The confirmation is sent exactly if the answer to the order accepts it. -/
  confirms_iff : (∃ s ∈ sendings, s.draft = confirmation ∧ s.exchanges ≠ []) ↔
    ∃ s ∈ sendings, s.draft = order ∧ Accepts iccid s.outcome
  /-- Success is what both answers say. -/
  ok_iff : ∀ rel, outcome = .ok rel ↔
    (∃ s ∈ sendings, s.draft = order ∧ Accepts iccid s.outcome) ∧
      ∃ s ∈ sendings, s.draft = confirmation ∧ Confirms s.outcome rel
  /-- A failure is one of the vendor. -/
  fails : ∀ e, outcome = .error e → ∃ fault, e = .service settings.name fault
  /-- No request is made twice. -/
  once : (sendings.filterMap fun s => s.draft.build.toOption).Nodup
  /-- Nothing is written but an order and a confirmation. -/
  nothingElse : sendings.map Sending.draft = [order] ∨
    sendings.map Sending.draft = [order, confirmation]

variable {sim replies}

theorem draft_ordered (sim : Sim) (replies : List (Option HttpReply)) :
    (ordered settings times calls sim replies).draft = orderDraft settings times calls sim := by
  rw [ordered, HttpDraft.draft_sending]

theorem draft_confirmed (sim : Sim) (replies : List (Option HttpReply)) :
    (confirmed settings times calls sim replies).draft =
      confirmationDraft settings times (calls + 1) sim := by
  rw [confirmed, HttpDraft.draft_sending]

/-- A confirmation has more members than an order. -/
theorem body_orderDraft_ne (times' : Nat → String) (calls' : Nat) :
    (orderDraft settings times calls sim).body ≠
      (confirmationDraft settings times' calls' sim).body := by
  intro hbody
  have hmembers := congrArg List.length (Json.object.inj (Option.some.inj hbody))
  simp at hmembers

theorem orderDraft_ne (sim : Sim) (times' : Nat → String) (calls' : Nat) :
    orderDraft settings times calls sim ≠ confirmationDraft settings times' calls' sim :=
  fun h => body_orderDraft_ne settings times calls times' calls' (congrArg HttpDraft.body h)

/-- Every course of a release is exact. -/
theorem exactRelease_of_course {sendings : List Sending} {result : Except Error Release × Nat}
    (h : Course settings times calls sim replies sendings result) :
    ExactRelease settings sim.iccid (orderDraft settings times calls sim)
      (confirmationDraft settings times (calls + 1) sim) sendings result.1 := by
  have hordered := draft_ordered settings times calls sim replies
  have hconfirmed := draft_confirmed settings times calls sim replies
  have hne := orderDraft_ne settings times calls sim times (calls + 1)
  cases h with
  | declined haccepts he =>
    exact {
      orders := ⟨_, List.mem_cons_self, hordered⟩
      confirms_iff := by simp [hordered, hne, haccepts]
      ok_iff := fun rel => by simp [hordered, haccepts]
      fails := by
        rintro _ ⟨⟩
        exact (failsAs_ordering _).exists_fault he
      once := by
        rw [List.filterMap_cons, List.filterMap_nil]
        cases (ordered settings times calls sim replies).draft.build.toOption <;> simp
      nothingElse := .inl (by simp [hordered]) }
  | @accepted r r' haccepts hbuild hbuild' =>
    have hsent : (confirmed settings times calls sim replies).exchanges ≠ [] := by
      obtain ⟨rest, hrest⟩ := HttpRequest.exists_exchanges_follow r'
        HttpRequest.maxHops ((orderDraft settings times calls sim).exchange.left replies)
      rw [confirmed, HttpDraft.sending, HttpDraft.exchange_of_ok hbuild', hrest]
      exact List.cons_ne_nil _ _
    have hfails : FailsAs settings.name (confirming settings sim.iccid
        (confirmed settings times calls sim replies).outcome) := failsAs_confirming _
    have hrequests : r ≠ r' := HttpDraft.ne_of_build hbuild hbuild'
      (body_orderDraft_ne settings times calls times (calls + 1))
    exact {
      orders := ⟨_, List.mem_cons_self, hordered⟩
      confirms_iff := by simp [hordered, hconfirmed, hne, haccepts, hsent]
      ok_iff := fun rel => by
        simp [hordered, hconfirmed, hne, hne.symm, haccepts, confirming_eq_ok_iff]
      fails := by
        intro e he
        dsimp only at he
        exact hfails.exists_fault he
      once := by simp [hordered, hconfirmed, hbuild, hbuild', Except.toOption, hrequests]
      nothingElse := .inr (by simp [hordered, hconfirmed]) }

end SimDepot.VendorClient
