import Mathlib.Algebra.Group.Nat.Defs
import Mathlib.Data.List.Flatten
import Mathlib.Data.List.Nodup
import SimDepot.Proofs.Vendor.Release
import SimDepot.Text.Parts

/-!
# The calls of a vendor client

A client makes one release after another, and its calls are numbered through, whatever comes of
them. `VendorClient.exact_releases` puts this together with what a single release comes to.

The number tells the calls apart that the client writes, but not the requests that the vendor gets:
an answer that makes the client send a call again, elsewhere, makes it send the same number again
(`VendorClient.exact_releases_of_movedOrder`). Nothing else does.
-/

namespace SimDepot

/-- The member of an object with this key. -/
def Json.member? (key : String) : Json → Option Json
  | object members => members.lookup key
  | _ => none

namespace VendorClient

variable (settings : VendorSettings) (times : Nat → String) (calls : Nat)

/-! ## The numbers of calls -/

/-- The identifier of the call, in the header of a body. -/
def callIdentifier? (body : Option Json) : Option String := do
  match ← (← (← body).member? "header").member? "functionCallIdentifier" with
  | .text s => some s
  | _ => none

/-- The number in the identifier of a call: what stands behind the last hyphen. -/
def numberIn? (identifier : String) : Option Nat :=
  (Text.parts '-' identifier.toList).getLast?.map fun digits => Nat.ofDigitChars 10 digits 0

/-- The number of the call, in the header of a body. -/
def callNumber? (body : Option Json) : Option Nat := (callIdentifier? body).bind numberIn?

/-! ## One release after another -/

/-- A release that a vendor is asked for, and how it replies. -/
structure Errand where
  /-- The SIM. -/
  sim : Sim
  /-- The replies. -/
  replies : List (Option HttpReply)

/-- What passes for the drafts of the releases of a client, the first of which is made after a
number of calls. -/
def sendings (calls : Nat) : List Errand → List Sending
  | [] => []
  | e :: rest =>
    (release settings times calls e.sim).sendings e.replies ++
      sendings ((release settings times calls e.sim).dialogue.result e.replies).2 rest

/-- The requests of the releases of a client, the first of which is made after a number of calls. -/
def sent (calls : Nat) : List Errand → List HttpRequest
  | [] => []
  | e :: rest =>
    (release settings times calls e.sim).dialogue.requests e.replies ++
      sent ((release settings times calls e.sim).dialogue.result e.replies).2 rest

/-- What is sent is what passes for the drafts. -/
theorem sent_eq (errands : List Errand) : sent settings times calls errands =
    (sendings settings times calls errands).flatMap fun s => s.exchanges.map Prod.fst := by
  induction errands generalizing calls with
  | nil => rfl
  | cons e rest ih =>
    rw [sent, sendings, List.flatMap_append, ih, ← Dialogue.map_fst_exchanges,
      Correspondence.exchanges_dialogue, List.map_flatMap]

/-- What passes for a draft is what comes of sending it, with replies to its errand. -/
theorem exists_of_mem_sendings {errands : List Errand} {s : Sending}
    (hs : s ∈ sendings settings times calls errands) :
    ∃ e ∈ errands, ∃ left, left <:+ e.replies ∧ s = s.draft.sending left := by
  induction errands generalizing calls with
  | nil => cases hs
  | cons e rest ih =>
    rw [sendings, List.mem_append] at hs
    rcases hs with hs | hs
    · exact ⟨e, List.mem_cons_self, Correspondence.exists_of_mem_sendings hs⟩
    · obtain ⟨e', he', h⟩ := ih _ hs
      exact ⟨e', List.mem_cons_of_mem _ he', h⟩

/-- The identifier of the call that is written after a number of calls. -/
def identifier (calls : Nat) : String := times calls ++ "-" ++ toString (callNumber calls)

/-- A release carries on the numbering, and returns where it ends. -/
theorem callIdentifiers_of_course {sim : Sim} {replies : List (Option HttpReply)}
    {passed : List Sending} {result : Except Error Release × Nat}
    (h : Course settings times calls sim replies passed result) :
    (passed.map fun s => callIdentifier? s.draft.body) =
        (List.range' calls passed.length).map (fun n => some (identifier times n)) ∧
      result.2 = calls + passed.length := by
  cases h <;> simp only [List.map_cons, List.map_nil, draft_ordered, draft_confirmed] <;>
    exact ⟨rfl, rfl⟩

/-- The calls of a client are numbered through. -/
theorem callIdentifiers_sendings (errands : List Errand) :
    ((sendings settings times calls errands).map fun s => callIdentifier? s.draft.body) =
      (List.range' calls (sendings settings times calls errands).length).map
        fun n => some (identifier times n) := by
  -- Each release starts where the one before it ended, so the induction is for any start.
  induction errands generalizing calls with
  | nil => rfl
  | cons e rest ih =>
    obtain ⟨hidentifiers, hcalls⟩ := callIdentifiers_of_course settings times calls
      (course_release settings times calls e.sim e.replies)
    rw [sendings, List.map_append, hidentifiers, ih, hcalls, List.length_append,
      ← List.range'_append_1, List.map_append]

theorem numberIn?_identifier (calls : Nat) :
    numberIn? (identifier times calls) = some (callNumber calls) := by
  have htoList : (identifier times calls).toList =
      (times calls).toList ++ '-' :: Nat.toDigits 10 (callNumber calls) := by
    simp [identifier, Nat.toList_repr]
  -- The time may have hyphens as well, the number has none.
  have hdigits : '-' ∉ Nat.toDigits 10 (callNumber calls) := fun hmem =>
    absurd (Nat.isDigit_of_mem_toDigits (by decide) (by decide) hmem) (by decide)
  rw [numberIn?, htoList, Text.parts_append_cons, Text.parts_of_not_mem hdigits,
    List.getLast?_concat, Option.map_some, Nat.ofDigitChars_toDigits (by decide) (by decide)]

theorem callIdentifier?_of_sendings {errands : List Errand} {n : Nat} {s : Sending}
    (hs : (sendings settings times calls errands)[n]? = some s) :
    callIdentifier? s.draft.body = some (identifier times (calls + n)) := by
  have hn : n < (sendings settings times calls errands).length := (List.getElem?_eq_some_iff.1 hs).1
  have hidentifiers := congrArg (fun l => l[n]?)
    (callIdentifiers_sendings settings times calls errands)
  simp only [List.getElem?_map, hs, List.getElem?_range' hn, Option.map_some, Nat.one_mul]
    at hidentifiers
  exact Option.some.inj hidentifiers

theorem callNumber?_of_sendings {errands : List Errand} {n : Nat} {s : Sending}
    (hs : (sendings settings times calls errands)[n]? = some s) :
    callNumber? s.draft.body = some (callNumber (calls + n)) := by
  rw [callNumber?, callIdentifier?_of_sendings settings times calls hs]
  exact numberIn?_identifier times (calls + n)

theorem callNumbers_sendings (errands : List Errand) :
    ((sendings settings times calls errands).map fun s => callNumber? s.draft.body) =
      (List.range' calls (sendings settings times calls errands).length).map
        fun n => some (callNumber n) := by
  have hidentifiers := congrArg (List.map fun s => s.bind numberIn?)
    (callIdentifiers_sendings settings times calls errands)
  rw [List.map_map, List.map_map] at hidentifiers
  refine hidentifiers.trans (List.map_congr_left fun n _ => ?_)
  exact numberIn?_identifier times n

theorem callNumber_of_lt {calls : Nat} (h : calls < 2 ^ 64) : callNumber calls = calls :=
  Nat.mod_eq_of_lt h

/-- No two of the calls that a counter of 64 bits can count have the same number. -/
theorem nodup_callNumbers {errands : List Errand}
    (h : (sendings settings times 0 errands).length ≤ 2 ^ 64) :
    ((sendings settings times 0 errands).map fun s => callNumber? s.draft.body).Nodup := by
  rw [callNumbers_sendings]
  refine List.Nodup.map_on (fun m hm n hn hmn => ?_) List.nodup_range'
  have hnumbers : callNumber m = callNumber n := Option.some.inj hmn
  rw [List.mem_range'_1] at hm hn
  rwa [callNumber_of_lt (by omega), callNumber_of_lt (by omega)] at hnumbers

/-! ## The numbers that are sent -/

/-- The numbers of the calls that are sent for a draft. -/
def numbers (s : Sending) : List Nat := s.bodies.filterMap fun body => callNumber? (some body)

theorem callNumbers_sent (errands : List Errand) :
    (sent settings times calls errands).filterMap (fun r => callNumber? r.body) =
      (sendings settings times calls errands).flatMap numbers := by
  rw [sent_eq, List.filterMap_flatMap]
  refine List.flatMap_congr fun s _ => ?_
  rw [numbers, Sending.bodies, List.filterMap_map, List.filterMap_filterMap]
  refine List.filterMap_congr fun x _ => ?_
  cases h : x.1.body <;> simp [h, callNumber?, callIdentifier?]

/-- A call that is not sent again is sent once at most. -/
theorem numbers_sublist {d : HttpDraft} {left : List (Option HttpReply)}
    (h : ¬ (d.sending left).SentAgain) :
    (numbers (d.sending left)).Sublist (callNumber? d.body).toList := by
  rw [numbers, HttpDraft.bodies_of_not_sentAgain h]
  split
  · cases d.body with
    | none => exact List.nil_sublist _
    | some body => cases hn : callNumber? (some body) <;> simp [hn]
  · exact List.nil_sublist _

/-- A call that is sent again has its number sent again. -/
theorem not_nodup_numbers {d : HttpDraft} {left : List (Option HttpReply)} {n : Nat}
    (hn : callNumber? d.body = some n) (h : (d.sending left).SentAgain) :
    ¬ (numbers (d.sending left)).Nodup := by
  obtain ⟨rest, hbodies⟩ := HttpDraft.bodies_of_sentAgain h
  rw [numbers, hbodies]
  cases hbody : d.body with
  | none =>
    rw [hbody] at hn
    cases hn
  | some body =>
    rw [hbody] at hn
    simp [hn]

/-- No number is sent twice exactly if no call is sent again. -/
theorem nodup_callNumbers_sent_iff {errands : List Errand}
    (h : (sendings settings times 0 errands).length ≤ 2 ^ 64) :
    ((sent settings times 0 errands).filterMap fun r => callNumber? r.body).Nodup ↔
      ∀ s ∈ sendings settings times 0 errands, ¬ s.SentAgain := by
  rw [callNumbers_sent]
  refine ⟨fun hnodup s hs hagain => ?_, fun hall => ?_⟩
  · obtain ⟨n, hn⟩ := List.getElem?_of_mem hs
    obtain ⟨-, -, left, -, hleft⟩ := exists_of_mem_sendings settings times 0 hs
    rw [hleft] at hagain
    have hnumbers : (numbers s).Nodup := (List.nodup_flatMap.1 hnodup).1 s hs
    rw [hleft] at hnumbers
    exact not_nodup_numbers (callNumber?_of_sendings settings times 0 hn) hagain hnumbers
  · have hdrafts : ((sendings settings times 0 errands).flatMap
        fun s => (callNumber? s.draft.body).toList).Nodup := by
      have hnumbers := (nodup_callNumbers settings times h).filterMap (f := id)
        fun m m' n hm hm' => hm.trans hm'.symm
      rwa [List.filterMap_map, List.filterMap_eq_flatMap_toList] at hnumbers
    refine hdrafts.sublist (List.Sublist.flatMap_right _ fun s hs => ?_)
    obtain ⟨-, -, left, -, hleft⟩ := exists_of_mem_sendings settings times 0 hs
    have hagain := hall s hs
    rw [hleft] at hagain ⊢
    exact numbers_sublist hagain

/-- A release succeeds exactly on two answers that allow it, and nothing but what an answer allows
is written; a card number, a chip or a token that an answer has no member for, or null, is one that
it does not tell. The calls of all releases of a client carry the numbers from zero on, and so no
two of them the same number, also where nothing comes of them. The same number is sent twice exactly
if an answer makes the client send a call again, and so never where no answer sends it elsewhere. -/
theorem exact_releases :
    (∀ calls sim replies, (release settings times calls sim).Delivered replies ∧
      ExactRelease settings sim.iccid (orderDraft settings times calls sim)
        (confirmationDraft settings times (calls + 1) sim)
        ((release settings times calls sim).sendings replies)
        ((release settings times calls sim).dialogue.result replies).1) ∧
    (∀ (members : List (Option String × Document)) (complete : Bool),
      (∀ a, orderAnswer (.mapping members complete) = .ok a →
        (Document.mapping members complete).member "iccid" = .ofText? a.iccid) ∧
      ∀ a, confirmationAnswer (.mapping members complete) = .ok a →
        (Document.mapping members complete).member "eid" = .ofText? a.eid ∧
          (Document.mapping members complete).member "matchingId" = .ofText? a.matchingId) ∧
    ∀ errands : List Errand,
      (∀ (n : Nat) (s : Sending), (sendings settings times 0 errands)[n]? = some s →
        callIdentifier? s.draft.body = some (times n ++ "-" ++ toString (n % 2 ^ 64)) ∧
          callNumber? s.draft.body = some (n % 2 ^ 64)) ∧
      ((sendings settings times 0 errands).length ≤ 2 ^ 64 →
        ((sendings settings times 0 errands).map fun s => callNumber? s.draft.body).Nodup ∧
          (((sent settings times 0 errands).filterMap fun r => callNumber? r.body).Nodup ↔
            ∀ s ∈ sendings settings times 0 errands, ¬ s.SentAgain)) ∧
      ((∀ e ∈ errands, ∀ reply, some reply ∈ e.replies → reply.Settled) →
        ∀ s ∈ sendings settings times 0 errands, ¬ s.SentAgain) := by
  refine ⟨fun calls sim replies => ⟨Correspondence.delivered _ _, ?_⟩,
    fun members complete => ⟨fun a ha => ?_, fun a ha => ?_⟩,
    fun errands => ⟨fun n s hs => ?_, fun hlength => ?_, fun hsettled s hs => ?_⟩⟩
  · exact exactRelease_of_course settings times calls (course_release ..)
  · exact member_of_orderAnswer ha
  · exact member_of_confirmationAnswer ha
  · have hidentifier := callIdentifier?_of_sendings settings times 0 hs
    have hnumber := callNumber?_of_sendings settings times 0 hs
    rw [Nat.zero_add] at hidentifier hnumber
    exact ⟨hidentifier, hnumber⟩
  · exact ⟨nodup_callNumbers settings times hlength,
      nodup_callNumbers_sent_iff settings times hlength⟩
  · obtain ⟨e, he, left, hleft, h⟩ := exists_of_mem_sendings settings times 0 hs
    rw [h]
    exact HttpDraft.not_sentAgain_of_settled fun reply hreply =>
      hsettled e he reply (hleft.subset hreply)

/-- A vendor on the machine itself. -/
def nearbyVendor : VendorSettings where
  name := "vendor"
  endpoint := "http://[::1]/"
  activationHost := "smdp.example"
  requesterId := "depot"
  timeoutSecs := 1

/-- A card whose profile is held by a vendor. -/
def heldCard : Sim where
  id := 1
  iccid := "8901"
  imsi := "90170"
  msisdn := none
  eid := none
  profileType := "data"
  registryId := 1
  vendorId := 1
  batchId := 1
  registryState := .notActivated
  vendorState := .available
  provisionState := .available
  matchingId := none
  suspendedAt := none

/-- The header of an answer to a call that was executed. -/
def executedHeader : String :=
  "\"header\":\x7b\"functionExecutionStatus\":\x7b\"status\":\"Executed-Success\"\x7d\x7d"

/-- The answer to an order, which tells nothing but that it was executed. -/
def briefAnswer : HttpReply where
  status := 200
  body := "\x7b" ++ executedHeader ++ "\x7d"

/-- The answer to a confirmation, with a token and an empty identity of the chip. -/
def tokenAnswer : HttpReply where
  status := 200
  body := "\x7b" ++ executedHeader ++ ",\"eid\":\"\",\"matchingId\":\"M-1\"\x7d"

/-- An answer that sends the client elsewhere with its request. -/
def movedAnswer : HttpReply where
  status := 307
  location := some "/moved"
  body := ""

/-- The answers of a vendor that grants what it is asked for, perhaps after it has sent the client
elsewhere. -/
def grantedReplies (moved : Bool) : List (Option HttpReply) :=
  if moved then [some movedAnswer, some briefAnswer, some tokenAnswer]
  else [some briefAnswer, some tokenAnswer]

/-- The release succeeds; these are the numbers that are sent for it, and if it takes more requests
than calls, then because a call was sent again. -/
def Granted (moved : Bool) : Prop :=
  ((release nearbyVendor (fun _ => "0") 0 heldCard).dialogue.result (grantedReplies moved)).1 =
      .ok ⟨"M-1", none⟩ ∧
    ((sent nearbyVendor (fun _ => "0") 0 [⟨heldCard, grantedReplies moved⟩]).filterMap
      fun r => callNumber? r.body) = (if moved then [0, 0, 1] else [0, 1]) ∧
    ((∀ s ∈ sendings nearbyVendor (fun _ => "0") 0 [⟨heldCard, grantedReplies moved⟩],
      ¬ s.SentAgain) ↔ moved = false)

/-- Whether or not the order is sent elsewhere first, the release succeeds. Where it is, its number
is sent twice. -/
theorem exact_releases_of_movedOrder : Granted false ∧ Granted true := by
  suffices hgranted : ∀ moved, Granted moved from ⟨hgranted false, hgranted true⟩
  intro moved
  obtain ⟨hreleases, -, herrands⟩ := exact_releases nearbyVendor fun _ => "0"
  obtain ⟨hordered, hconfirmed⟩ :=
    (course_release nearbyVendor (fun _ => "0") 0 heldCard (grantedReplies moved)).mem
  have haccepts : Accepts heldCard.iccid
      (ordered nearbyVendor (fun _ => "0") 0 heldCard (grantedReplies moved)).outcome :=
    ⟨⟨"Executed-Success", none⟩, ⟨briefAnswer, by cases moved <;> decide +kernel, by decide,
      by decide +kernel⟩, rfl, .inl rfl⟩
  have hconfirms : Confirms
      (confirmed nearbyVendor (fun _ => "0") 0 heldCard (grantedReplies moved)).outcome
      ⟨"M-1", none⟩ :=
    ⟨⟨"Executed-Success", some "", some "M-1"⟩, ⟨tokenAnswer, by cases moved <;> decide +kernel,
      by decide, by decide +kernel⟩, rfl, rfl, by decide, by decide⟩
  have hnumbers : ((sent nearbyVendor (fun _ => "0") 0 [⟨heldCard, grantedReplies moved⟩]).filterMap
      fun r => callNumber? r.body) = (if moved then [0, 0, 1] else [0, 1]) := by
    cases moved <;> decide +kernel
  have hlength : (sendings nearbyVendor (fun _ => "0") 0
      [⟨heldCard, grantedReplies moved⟩]).length ≤ 2 ^ 64 := by
    rw [sendings, sendings, List.append_nil]
    rcases (hreleases 0 heldCard (grantedReplies moved)).2.nothingElse with h | h <;>
      exact (List.length_map Sending.draft ▸ congrArg List.length h).trans_le (by decide)
  obtain ⟨-, hiff⟩ := (herrands [⟨heldCard, grantedReplies moved⟩]).2.1 hlength
  refine ⟨((hreleases 0 heldCard _).2.ok_iff _).2 ⟨⟨_, hordered, draft_ordered .., haccepts⟩,
    _, hconfirmed haccepts, draft_confirmed .., hconfirms⟩, hnumbers, ?_⟩
  rw [← hiff, hnumbers]
  cases moved <;> decide

end VendorClient

end SimDepot
