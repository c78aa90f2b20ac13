import Mathlib.Data.List.Basic
import SimDepot.Http.Correspondence
import SimDepot.Proofs.Http.LastWord

/-!
# Correspondences with a peer

What passes between a client and a peer that answers with the replies of a list. A draft that can be
built is sent, and sent on for as long as the answers send the client elsewhere; each request takes
the next reply. `HttpDraft.sending` is all that passes for one draft, and a correspondence is the
series of its sendings (`Correspondence.exchanges_dialogue`).

That a draft is written once does not mean that it is sent once: an answer can make the client send
the same request again, elsewhere (`HttpRequest.bodies_of_sendsOn`). It can only do so with a
location, so without one each request that is built is sent once (`HttpDraft.sending_of_settled`).
-/

namespace SimDepot

/-! ## Dialogues -/

namespace Dialogue

variable {α β : Type}

/-- The requests of a dialogue with a peer that answers with the replies of a list, each with its
answer. -/
def exchanges : Dialogue α → List (Option HttpReply) → List (HttpRequest × Option HttpReply)
  | done _, _ => []
  | send r k, [] => (r, none) :: (k none).exchanges []
  | send r k, reply :: rest => (r, reply) :: (k reply).exchanges rest

/-- The replies that are left after a dialogue. -/
def left : Dialogue α → List (Option HttpReply) → List (Option HttpReply)
  | done _, replies => replies
  | send _ k, [] => (k none).left []
  | send _ k, reply :: rest => (k reply).left rest

section

variable (r : HttpRequest) (k : Option HttpReply → Dialogue α) (replies : List (Option HttpReply))

theorem exchanges_send : (send r k).exchanges replies =
    (r, replies.head?.join) :: (k replies.head?.join).exchanges replies.tail := by
  cases replies <;> rfl

theorem result_send : (send r k).result replies = (k replies.head?.join).result replies.tail := by
  cases replies <;> rfl

theorem left_send : (send r k).left replies = (k replies.head?.join).left replies.tail := by
  cases replies <;> rfl

end

theorem map_fst_exchanges (x : Dialogue α) (replies : List (Option HttpReply)) :
    (x.exchanges replies).map Prod.fst = x.requests replies := by
  induction x generalizing replies with
  | done a => rfl
  | send r k ih => cases replies <;> simp only [exchanges, requests, List.map_cons, ih]

/-- The first request gets the first reply, the second one the second, and so on. -/
theorem answer_of_getElem? (x : Dialogue α) {replies : List (Option HttpReply)} {n : Nat}
    {sent : HttpRequest × Option HttpReply} (h : (x.exchanges replies)[n]? = some sent) :
    sent.2 = replies[n]?.join := by
  induction x generalizing replies n with
  | done a => cases h
  | send r k ih =>
    rw [exchanges_send] at h
    cases n with
    | zero =>
      cases h
      cases replies <;> rfl
    | succ n =>
      rw [ih _ (List.getElem?_cons_succ ▸ h), List.getElem?_tail]

theorem left_suffix (x : Dialogue α) (replies : List (Option HttpReply)) :
    x.left replies <:+ replies := by
  induction x generalizing replies with
  | done a => exact List.suffix_rfl
  | send r k ih =>
    rw [left_send]
    exact (ih _ _).trans (List.tail_suffix replies)

theorem exchanges_bind (x : Dialogue α) (f : α → Dialogue β) (replies : List (Option HttpReply)) :
    (x >>= f).exchanges replies =
      x.exchanges replies ++ (f (x.result replies)).exchanges (x.left replies) := by
  induction x generalizing replies with
  | done a => rfl
  | send r k ih =>
    simp only [bind_send, exchanges_send, result_send, left_send, ih, List.cons_append]

theorem result_bind (x : Dialogue α) (f : α → Dialogue β) (replies : List (Option HttpReply)) :
    (x >>= f).result replies = (f (x.result replies)).result (x.left replies) := by
  induction x generalizing replies with
  | done a => rfl
  | send r k ih => simp only [bind_send, result_send, left_send, ih]

end Dialogue

/-! ## One request -/

/-- An answer that sends nobody elsewhere: it has another status, or no location. -/
def HttpReply.Settled (reply : HttpReply) : Prop :=
  reply.status ∉ HttpReply.redirecting ∨ reply.location = none

namespace HttpRequest

variable (r : HttpRequest) (hops : Nat) (replies : List (Option HttpReply))

/-- What a request comes to whose answer, if any, is this and sends the client nowhere. -/
def outcome : Option HttpReply → Except HttpFailure HttpReply
  | none => .error (.unanswered r.url.text)
  | some reply => .ok reply

/-- The request that an answer makes the client send instead, if it can be sent. -/
def onward? (answer : Option HttpReply) : Option HttpRequest := do
  (← r.next? (← answer)).toOption

/-- The client is sent from answer to answer, at most so many times, down to an answer that sends it
nowhere. -/
inductive EndsWith (last : HttpReply) : Nat → HttpRequest → List (Option HttpReply) → Prop
  /-- The first answer is the last. -/
  | here {hops : Nat} {r : HttpRequest} {rest : List (Option HttpReply)}
      (hnext : r.next? last = none) : EndsWith last hops r (some last :: rest)
  /-- The first answer sends the client on. -/
  | onwards {hops : Nat} {r r' : HttpRequest} {reply : HttpReply}
      {rest : List (Option HttpReply)} (hnext : r.next? reply = some (.ok r'))
      (h : EndsWith last hops r' rest) : EndsWith last (hops + 1) r (some reply :: rest)

variable {r hops replies}

theorem next?_of_settled {reply : HttpReply} (h : reply.Settled) : r.next? reply = none := by
  unfold next? HttpReply.destination?
  rcases h with hstatus | hlocation
  · simp [hstatus]
  · simp [hlocation]

section

variable {last reply : HttpReply} {rest : List (Option HttpReply)}

theorem endsWith_of_next?_eq_none (hnext : r.next? reply = none) :
    EndsWith last hops r (some reply :: rest) ↔ reply = last := by
  constructor
  · intro h
    cases h with
    | here => rfl
    | onwards hgoes => cases hnext.symm.trans hgoes
  · rintro rfl
    exact .here hnext

theorem endsWith_of_next?_eq_some {next : Except HttpFailure HttpRequest}
    (hnext : r.next? reply = some next) : EndsWith last hops r (some reply :: rest) ↔
      ∃ n r', hops = n + 1 ∧ next = .ok r' ∧ EndsWith last n r' rest := by
  constructor
  · intro h
    cases h with
    | here hlast => cases hnext.symm.trans hlast
    | onwards hgoes h =>
      cases hnext.symm.trans hgoes
      exact ⟨_, _, rfl, rfl, h⟩
  · rintro ⟨n, r', rfl, rfl, h⟩
    exact .onwards hnext h

/-- The result of going where the answers send the client is the last of them. -/
theorem result_follow_eq_ok_iff :
    (r.follow hops).result replies = .ok last ↔ EndsWith last hops r replies := by
  induction hops generalizing r replies with
  | zero =>
    rw [follow, Dialogue.result_send]
    rcases replies with _ | ⟨_ | reply, rest⟩
    · exact ⟨nofun, nofun⟩
    · exact ⟨nofun, nofun⟩
    · cases hnext : r.next? reply with
      | none => simp [hnext, endsWith_of_next?_eq_none hnext, Dialogue.result]
      | some next => simp [hnext, endsWith_of_next?_eq_some hnext, Dialogue.result]
  | succ hops ih =>
    rw [follow, Dialogue.result_send]
    rcases replies with _ | ⟨_ | reply, rest⟩
    · exact ⟨nofun, nofun⟩
    · exact ⟨nofun, nofun⟩
    · rcases hnext : r.next? reply with _ | failure | r'
      · simp [hnext, endsWith_of_next?_eq_none hnext, Dialogue.result]
      · simp [hnext, endsWith_of_next?_eq_some hnext, Dialogue.result]
      · simp [hnext, endsWith_of_next?_eq_some hnext, ih]

end

/-- What the first answer brings about, where there are hops left. -/
theorem exchanges_follow_succ : (r.follow (hops + 1)).exchanges replies =
    (r, replies.head?.join) :: match r.onward? replies.head?.join with
      | none => []
      | some r' => (r'.follow hops).exchanges replies.tail := by
  rw [follow, Dialogue.exchanges_send]
  rcases replies.head?.join with _ | reply
  · rfl
  · rcases hnext : r.next? reply with _ | failure | r' <;> simp [onward?, hnext, Except.toOption]
    · rfl
    · rfl

theorem exchanges_follow_zero :
    (r.follow 0).exchanges replies = [(r, replies.head?.join)] := by
  rw [follow, Dialogue.exchanges_send]
  rcases replies.head?.join with _ | reply
  · rfl
  · cases hnext : r.next? reply <;> simp [hnext] <;> rfl

/-- The request itself is sent first. -/
theorem exists_exchanges_follow (r : HttpRequest) (hops : Nat)
    (replies : List (Option HttpReply)) :
    ∃ rest, (r.follow hops).exchanges replies = (r, replies.head?.join) :: rest := by
  cases hops with
  | zero => exact ⟨_, exchanges_follow_zero⟩
  | succ hops => exact ⟨_, exchanges_follow_succ⟩

theorem length_exchanges_follow_le : ((r.follow hops).exchanges replies).length ≤ hops + 1 := by
  induction hops generalizing r replies with
  | zero => simp [exchanges_follow_zero]
  | succ hops ih =>
    rw [exchanges_follow_succ, List.length_cons]
    cases r.onward? replies.head?.join with
    | none => simp
    | some r' => exact Nat.succ_le_succ ih

/-- An answer sends a client on with the same method and body, or with a plain request. -/
theorem of_onward?_eq_some {answer : Option HttpReply} {r' : HttpRequest}
    (h : r.onward? answer = some r') : ∃ reply, answer = some reply ∧
      if reply.status = 307 ∨ reply.status = 308 then r'.method = r.method ∧ r'.body = r.body
      else r'.method = .get ∧ r'.body = none := by
  obtain ⟨reply, rfl, next, hnext, h⟩ :
      ∃ reply, answer = some reply ∧
        ∃ next, r.next? reply = some next ∧ next.toOption = some r' := by
    simpa [onward?, Option.bind_eq_some_iff] using h
  refine ⟨reply, rfl, ?_⟩
  obtain ⟨u, -, hu⟩ := Option.map_eq_some_iff.1 hnext
  split at hu <;> subst hu <;> cases h
  unfold onwards
  split_ifs <;> exact ⟨rfl, rfl⟩

theorem next?_of_onward? {answer : Option HttpReply} {reply : HttpReply} {r' : HttpRequest}
    (hreply : answer = some reply) (h : r.onward? answer = some r') :
    r.next? reply = some (.ok r') := by
  subst hreply
  rcases hnext : r.next? reply with _ | failure | next <;>
    simp [onward?, hnext, Except.toOption] at h
  rw [h]

/-- A second request is sent exactly if the first answer sends the client on. -/
theorem one_lt_length_exchanges_follow_iff :
    1 < ((r.follow (hops + 1)).exchanges replies).length ↔
      ∃ reply, replies.head?.join = some reply ∧ ∃ r', r.next? reply = some (.ok r') := by
  have hgoes : (∃ reply, replies.head?.join = some reply ∧ ∃ r', r.next? reply = some (.ok r')) ↔
      ∃ r', r.onward? replies.head?.join = some r' := by
    refine ⟨?_, ?_⟩
    · rintro ⟨reply, hreply, r', hnext⟩
      exact ⟨r', by simp [onward?, hreply, hnext, Except.toOption]⟩
    · rintro ⟨r', hgoes⟩
      obtain ⟨reply, hreply, -⟩ := of_onward?_eq_some hgoes
      exact ⟨reply, hreply, r', next?_of_onward? hreply hgoes⟩
  rw [hgoes, exchanges_follow_succ]
  cases r.onward? replies.head?.join with
  | none => simp
  | some r' =>
    obtain ⟨rest, hrest⟩ := exists_exchanges_follow r' hops replies.tail
    simp [hrest]

theorem follow_of_settled (h : ∀ reply, replies.head?.join = some reply → reply.Settled) :
    (r.follow hops).exchanges replies = [(r, replies.head?.join)] ∧
      (r.follow hops).result replies = r.outcome replies.head?.join ∧
      (r.follow hops).left replies = replies.tail := by
  cases hops <;> rw [follow, Dialogue.exchanges_send, Dialogue.result_send, Dialogue.left_send] <;>
  · cases hreply : replies.head?.join with
    | none => exact ⟨rfl, rfl, rfl⟩
    | some reply =>
      simp only [next?_of_settled (h reply hreply)]
      exact ⟨rfl, rfl, rfl⟩

/-- A request without a body leads to none that has one. -/
theorem body_of_mem_follow (hr : r.body = none) {sent : HttpRequest × Option HttpReply}
    (h : sent ∈ (r.follow hops).exchanges replies) : sent.1.body = none := by
  induction hops generalizing r replies with
  | zero =>
    rw [exchanges_follow_zero, List.mem_singleton] at h
    rw [h, hr]
  | succ hops ih =>
    rw [exchanges_follow_succ, List.mem_cons] at h
    rcases h with rfl | h
    · exact hr
    · cases hgoes : r.onward? replies.head?.join with
      | none => simp [hgoes] at h
      | some r' =>
        simp only [hgoes] at h
        obtain ⟨reply, -, hbody⟩ := of_onward?_eq_some hgoes
        refine ih (r := r') ?_ h
        split_ifs at hbody
        · rw [hbody.2, hr]
        · exact hbody.2

/-- The answer makes the client send the request again, as it is. -/
def SendsOn (r : HttpRequest) (answer : Option HttpReply) : Prop :=
  ∃ reply, answer = some reply ∧ (reply.status = 307 ∨ reply.status = 308) ∧
    ∃ r', r.next? reply = some (.ok r')

theorem not_sendsOn_of_settled {reply : HttpReply} (h : reply.Settled) :
    ¬ r.SendsOn (some reply) := by
  rintro ⟨_, hreply, -, r', hnext⟩
  cases hreply
  rw [next?_of_settled h] at hnext
  cases hnext

/-- Where a request is not sent on, what follows it has no body. -/
theorem exists_exchanges_of_not_sendsOn (hops : Nat) (h : ¬ r.SendsOn replies.head?.join) :
    ∃ rest, (r.follow hops).exchanges replies = (r, replies.head?.join) :: rest ∧
      ∀ sent ∈ rest, sent.1.body = none := by
  cases hops with
  | zero => exact ⟨[], exchanges_follow_zero, by simp⟩
  | succ hops =>
    refine ⟨_, exchanges_follow_succ, fun sent hsent => ?_⟩
    cases hgoes : r.onward? replies.head?.join with
    | none => simp [hgoes] at hsent
    | some r' =>
      simp only [hgoes] at hsent
      obtain ⟨reply, hreply, hbody⟩ := of_onward?_eq_some hgoes
      rw [if_neg fun hstatus => h ⟨reply, hreply, hstatus, r', next?_of_onward? hreply hgoes⟩]
        at hbody
      exact body_of_mem_follow hbody.2 hsent

/-- A body that is not sent on is sent once, also where the client is sent elsewhere without it. -/
theorem bodies_of_not_sendsOn (h : ¬ r.SendsOn replies.head?.join) :
    ((r.follow hops).exchanges replies).filterMap (fun sent => sent.1.body) = r.body.toList := by
  obtain ⟨rest, hexchanges, hrest⟩ := exists_exchanges_of_not_sendsOn hops h
  rw [hexchanges, List.filterMap_cons, List.filterMap_eq_nil_iff.2 hrest]
  cases r.body <;> rfl

/-- A body that is sent on is sent twice at least. -/
theorem bodies_of_sendsOn (h : r.SendsOn replies.head?.join) :
    ∃ rest, ((r.follow (hops + 1)).exchanges replies).filterMap (fun sent => sent.1.body) =
      r.body.toList ++ (r.body.toList ++ rest) := by
  obtain ⟨reply, hreply, hstatus, r', hnext⟩ := h
  have hgoes : r.onward? replies.head?.join = some r' := by
    rw [hreply]
    simp [onward?, hnext, Except.toOption]
  have hbody : r'.body = r.body := by
    obtain ⟨_, hreply', hbody⟩ := of_onward?_eq_some hgoes
    cases hreply.symm.trans hreply'
    rw [if_pos hstatus] at hbody
    exact hbody.2
  obtain ⟨rest, hrest⟩ := exists_exchanges_follow r' hops replies.tail
  refine ⟨rest.filterMap fun sent => sent.1.body, ?_⟩
  rw [exchanges_follow_succ, hgoes]
  simp only [hrest]
  cases hr : r.body <;> simp [hr, hbody]

end HttpRequest

/-! ## One draft -/

/-- All that passes for a draft. -/
structure Sending where
  /-- The draft. -/
  draft : HttpDraft
  /-- What is sent, and what is answered. -/
  exchanges : List (HttpRequest × Option HttpReply)
  /-- What the client gets to know. -/
  outcome : Except HttpFailure HttpReply

namespace Sending

/-- The first answer makes the client send the request again, as it is. -/
def SentAgain (s : Sending) : Prop :=
  ∃ r answer rest, s.exchanges = (r, answer) :: rest ∧ r.SendsOn answer

/-- The bodies that are sent for a draft. -/
def bodies (s : Sending) : List Json := s.exchanges.filterMap fun sent => sent.1.body

end Sending

namespace HttpDraft

variable {d : HttpDraft} {r : HttpRequest} {replies : List (Option HttpReply)}

/-- All that passes for a draft with a peer that has these replies left. -/
def sending (d : HttpDraft) (replies : List (Option HttpReply)) : Sending :=
  ⟨d, d.exchange.exchanges replies, d.exchange.result replies⟩

theorem outcome_sending (d : HttpDraft) (replies : List (Option HttpReply)) :
    (d.sending replies).outcome = d.exchange.result replies := rfl

theorem draft_sending (d : HttpDraft) (replies : List (Option HttpReply)) :
    (d.sending replies).draft = d := rfl

theorem exchange_of_error {failure : HttpFailure} (h : d.build = .error failure) :
    d.exchange = .done (.error failure) := by
  rw [exchange, h]
  rfl

theorem exchange_of_ok (h : d.build = .ok r) : d.exchange = r.follow HttpRequest.maxHops := by
  rw [exchange, h]

theorem exists_of_not_isOk (h : ¬ d.build.isOk) : ∃ failure, d.build = .error failure := by
  cases hbuild : d.build with
  | ok r =>
    rw [hbuild] at h
    exact absurd rfl h
  | error failure => exact ⟨failure, rfl⟩

/-- The body of a request is the one of its draft. -/
theorem body_of_build (h : d.build = .ok r) : r.body = d.body := by
  obtain ⟨_, -, -, -, -, -, rfl⟩ := HttpRequest.build_eq_ok_iff.1 h
  rfl

theorem ne_of_build {d' : HttpDraft} {r' : HttpRequest} (h : d.build = .ok r)
    (h' : d'.build = .ok r') (hbody : d.body ≠ d'.body) : r ≠ r' := by
  rintro rfl
  exact hbody ((body_of_build h).symm.trans (body_of_build h'))

/-- Without an answer that sends the client elsewhere, a draft is sent once. -/
theorem sending_of_settled (h : d.build = .ok r)
    (hsettled : ∀ reply, some reply ∈ replies → reply.Settled) :
    d.sending replies = ⟨d, [(r, replies.head?.join)], r.outcome replies.head?.join⟩ := by
  have hhead : ∀ reply, replies.head?.join = some reply → reply.Settled := fun reply hreply =>
    hsettled reply (List.mem_of_head? (Option.join_eq_some_iff.1 hreply))
  obtain ⟨hexchanges, hresult, -⟩ := HttpRequest.follow_of_settled (r := r) hhead
  rw [sending, exchange_of_ok h, hexchanges, hresult]

theorem sentAgain_sending_iff (h : d.build = .ok r) :
    (d.sending replies).SentAgain ↔ r.SendsOn replies.head?.join := by
  obtain ⟨rest, hrest⟩ :=
    HttpRequest.exists_exchanges_follow r HttpRequest.maxHops replies
  have hexchanges : (d.sending replies).exchanges = (r, replies.head?.join) :: rest := by
    rw [sending, exchange_of_ok h, hrest]
  refine ⟨?_, fun hsends => ⟨_, _, _, hexchanges, hsends⟩⟩
  rintro ⟨_, _, _, heq, hsends⟩
  cases hexchanges.symm.trans heq
  exact hsends

theorem not_sentAgain_of_settled (hsettled : ∀ reply, some reply ∈ replies → reply.Settled) :
    ¬ (d.sending replies).SentAgain := by
  cases hbuild : d.build with
  | error failure =>
    rintro ⟨_, _, _, heq, -⟩
    rw [sending, exchange_of_error hbuild] at heq
    cases heq
  | ok r =>
    rw [sentAgain_sending_iff hbuild]
    rintro ⟨reply, hreply, hsends⟩
    have hmem := List.mem_of_head? (Option.join_eq_some_iff.1 hreply)
    exact HttpRequest.not_sendsOn_of_settled (hsettled reply hmem) ⟨reply, rfl, hsends⟩

/-- The body of a draft that is not sent again is sent once, if it can be built. -/
theorem bodies_of_not_sentAgain (h : ¬ (d.sending replies).SentAgain) :
    (d.sending replies).bodies = if d.build.isOk then d.body.toList else [] := by
  cases hbuild : d.build with
  | error failure =>
    rw [Sending.bodies, sending, exchange_of_error hbuild]
    rfl
  | ok r =>
    rw [sentAgain_sending_iff hbuild] at h
    rw [Sending.bodies, sending, exchange_of_ok hbuild, HttpRequest.bodies_of_not_sendsOn h,
      body_of_build hbuild]
    rfl

/-- The body of a draft that is sent again is sent twice at least. -/
theorem bodies_of_sentAgain (h : (d.sending replies).SentAgain) :
    ∃ rest, (d.sending replies).bodies = d.body.toList ++ (d.body.toList ++ rest) := by
  cases hbuild : d.build with
  | error failure =>
    obtain ⟨_, _, _, heq, -⟩ := h
    rw [sending, exchange_of_error hbuild] at heq
    cases heq
  | ok r =>
    rw [sentAgain_sending_iff hbuild] at h
    rw [Sending.bodies, sending, exchange_of_ok hbuild, ← body_of_build hbuild]
    exact HttpRequest.bodies_of_sendsOn h

end HttpDraft

/-! ## A correspondence -/

namespace Correspondence

variable {α : Type}

/-- What passes for each draft of a correspondence with a peer that answers with the replies of a
list, and with nothing when they are used up. -/
def sendings : Correspondence α → List (Option HttpReply) → List Sending
  | done _, _ => []
  | write d k, replies =>
    d.sending replies :: (k (d.exchange.result replies)).sendings (d.exchange.left replies)

/-- The requests that are made of the drafts of a correspondence. -/
def requests (x : Correspondence α) (replies : List (Option HttpReply)) : List HttpRequest :=
  (x.sendings replies).filterMap fun s => s.draft.build.toOption

theorem requests_write (d : HttpDraft) (k : Except HttpFailure HttpReply → Correspondence α)
    (replies : List (Option HttpReply)) : (write d k).requests replies = d.build.toOption.toList ++
      (k (d.exchange.result replies)).requests (d.exchange.left replies) := by
  rw [requests, sendings, List.filterMap_cons, HttpDraft.sending]
  cases d.build.toOption <;> rfl

theorem result_dialogue_write (d : HttpDraft)
    (k : Except HttpFailure HttpReply → Correspondence α) (replies : List (Option HttpReply)) :
    (write d k).dialogue.result replies =
      (k (d.exchange.result replies)).dialogue.result (d.exchange.left replies) :=
  Dialogue.result_bind ..

/-- What passes in a correspondence is what passes for its drafts. -/
theorem exchanges_dialogue (x : Correspondence α) (replies : List (Option HttpReply)) :
    x.dialogue.exchanges replies = (x.sendings replies).flatMap Sending.exchanges := by
  induction x generalizing replies with
  | done a => rfl
  | write d k ih =>
    rw [dialogue, Dialogue.exchanges_bind, ih, sendings, List.flatMap_cons]
    rfl

/-- What passes for a draft is all that can pass for it with the replies that are left. -/
theorem exists_of_mem_sendings {x : Correspondence α} {replies : List (Option HttpReply)}
    {s : Sending} (hs : s ∈ x.sendings replies) :
    ∃ left, left <:+ replies ∧ s = s.draft.sending left := by
  induction x generalizing replies with
  | done a => cases hs
  | write d k ih =>
    rcases List.mem_cons.1 hs with rfl | hs
    · exact ⟨replies, List.suffix_rfl, rfl⟩
    · obtain ⟨left, hleft, h⟩ := ih _ hs
      exact ⟨left, hleft.trans (Dialogue.left_suffix ..), h⟩

/-- How the drafts of a correspondence are sent to a peer that answers with these replies. -/
structure Delivered (x : Correspondence α) (replies : List (Option HttpReply)) : Prop where
  /-- What passes for a draft is what comes of sending it, with replies that are left. -/
  passes : ∀ s ∈ x.sendings replies, ∃ left, left <:+ replies ∧ s = s.draft.sending left
  /-- Nothing else is sent. -/
  sends : x.dialogue.exchanges replies = (x.sendings replies).flatMap Sending.exchanges
  /-- Each request gets the next reply. -/
  answers : ∀ (n : Nat) sent, (x.dialogue.exchanges replies)[n]? = some sent →
    sent.2 = replies[n]?.join
  /-- Where no answer sends the client elsewhere, what is sent is what can be built of the drafts,
  and what comes of a draft is the one answer to it. -/
  settled : (∀ reply, some reply ∈ replies → reply.Settled) →
    x.dialogue.requests replies = x.requests replies ∧
      ∀ s ∈ x.sendings replies, ∀ r, s.draft.build = .ok r →
        ∃ answer, s.exchanges = [(r, answer)] ∧ s.outcome = r.outcome answer

variable {x : Correspondence α} {replies : List (Option HttpReply)}

theorem exchanges_of_settled (hsettled : ∀ reply, some reply ∈ replies → reply.Settled)
    {s : Sending} (hs : s ∈ x.sendings replies) {r : HttpRequest} (hbuild : s.draft.build = .ok r) :
    ∃ answer, s.exchanges = [(r, answer)] ∧ s.outcome = r.outcome answer := by
  obtain ⟨left, hleft, h⟩ := exists_of_mem_sendings hs
  rw [h, HttpDraft.sending_of_settled hbuild fun reply hreply =>
    hsettled reply (hleft.subset hreply)]
  exact ⟨_, rfl, rfl⟩

theorem requests_dialogue_of_settled (hsettled : ∀ reply, some reply ∈ replies → reply.Settled) :
    x.dialogue.requests replies = x.requests replies := by
  have hrequests : ∀ s ∈ x.sendings replies,
      s.exchanges.map Prod.fst = s.draft.build.toOption.toList := by
    intro s hs
    cases hbuild : s.draft.build with
    | ok r =>
      obtain ⟨answer, hexchanges, -⟩ := exchanges_of_settled hsettled hs hbuild
      rw [hexchanges]
      rfl
    | error failure =>
      obtain ⟨left, -, h⟩ := exists_of_mem_sendings hs
      rw [h, HttpDraft.sending, HttpDraft.exchange_of_error hbuild]
      rfl
  rw [← Dialogue.map_fst_exchanges, exchanges_dialogue, List.map_flatMap, requests,
    List.filterMap_eq_flatMap_toList]
  exact List.flatMap_congr hrequests

/-- The drafts of every correspondence are delivered so. -/
theorem delivered (x : Correspondence α) (replies : List (Option HttpReply)) :
    x.Delivered replies where
  passes _ := exists_of_mem_sendings
  sends := exchanges_dialogue x replies
  answers _ _ := x.dialogue.answer_of_getElem?
  settled hsettled := ⟨requests_dialogue_of_settled hsettled,
    fun _ hs _ => exchanges_of_settled hsettled hs⟩

end Correspondence

end SimDepot
