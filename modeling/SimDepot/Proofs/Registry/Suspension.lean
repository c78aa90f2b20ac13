import SimDepot.Proofs.Http.Correspondence
import SimDepot.Proofs.Http.Percent
import SimDepot.Service.RegistryClient

/-!
# Where suspensions go

A suspension names the SIM in its address: the ICCID stands behind the last slash, as the depot has
it. So the request tells the SIM only as far as the address does. An ICCID that is one segment of a
path stands at the end of the target, with the characters encoded that cannot be there. Two of them
have the same target exactly if they are written the same, or if the endpoint has begun a fragment,
which is not sent (`suspensions_apart`). That keeps all ICCIDs apart that have no percent sign; the
sign itself is never encoded, so that `1 2` and `1%202` have one target (`suspensions_meet`).

An ICCID that is more than one segment need not be in the target at all: `x/../1` has that of `1`.
-/

namespace SimDepot

/-- What a request asks the host for. The fragment of the address is not sent. -/
def Url.target (u : Url) : String :=
  u.path ++ (match u.query with | some q => "?" ++ q | none => "")

/-- What stands at the end of an address is at the end of the target, but for a fragment. -/
theorem Url.EndsIn.exists_target_eq {p : Part} {ending : String → Url} (h : EndsIn p ending) :
    ∃ front, ∀ text, (ending text).target = front ++ if p = .fragment then "" else text := by
  cases h with
  | path scheme authority front => exact ⟨front, fun text => by simp [target]⟩
  | query scheme authority path front =>
    exact ⟨path ++ "?" ++ front, fun text => by simp [target, String.append_assoc]⟩
  | fragment scheme authority path query front =>
    exact ⟨(⟨scheme, some authority, path, query, none⟩ : Url).target, fun text => by simp [target]⟩

namespace RegistryClient

open Url

variable {settings : RegistrySettings} {i j : String} {replies replies' : List (Option HttpReply)}
  {r r' : HttpRequest}

/-- The part of the addresses of suspensions that the ICCID stands in. -/
def iccidPart (settings : RegistrySettings) : Part := .after settings.endpoint.toList

/-- The ICCID as it is in the target of its suspension. -/
def iccidShown (settings : RegistrySettings) (iccid : String) : String :=
  if iccidPart settings = .fragment then "" else (iccidPart settings).written iccid

theorem mem_base_iff {c : Char} (hc : c ≠ '/') :
    c ∈ (base settings).toList ↔ c ∈ settings.endpoint.toList := by
  have hback : c ∈ settings.endpoint.toList ↔ c ∈ settings.endpoint.toList.reverse :=
    List.mem_reverse.symm
  rw [base, withoutSlashes, String.toList_ofList, List.mem_reverse, hback]
  generalize settings.endpoint.toList.reverse = cs
  conv_rhs => rw [← List.takeWhile_append_dropWhile (p := (· == '/')) (l := cs), List.mem_append]
  refine (or_iff_right fun hslash => hc ?_).symm
  simpa using List.mem_takeWhile_imp hslash

theorem after_base : Part.after (base settings).toList = iccidPart settings :=
  Part.after_eq_of_mem_iff fun c hc => mem_base_iff (by rcases hc with rfl | rfl <;> decide)

theorem suspend_eq (hi : i ≠ "") : suspend settings i =
    .write (suspensionDraft settings i) fun answer =>
      .done (conclude settings .deactivate i 200 answer) :=
  if_neg hi

/-- A suspension is the one request that can be built with the ICCID. -/
theorem requests_suspend (hi : i ≠ "") : (suspend settings i).requests replies =
    (HttpRequest.build .delete (base settings ++ "/" ++ "deactivate" ++ "/" ++ i)
      (headers settings) none).toOption.toList := by
  have haddress : base settings ++ "/" ++ "deactivate" ++ "/" ++ i =
      base settings ++ "/deactivate/" ++ i := by
    simp only [String.append_assoc]
    rfl
  have hbuild : (suspensionDraft settings i).build = HttpRequest.build .delete
      (base settings ++ "/deactivate/" ++ i) (headers settings) none := rfl
  rw [suspend_eq hi, Correspondence.requests_write, haddress, ← hbuild]
  exact List.append_nil _

theorem isSegment_deactivate : IsSegment "deactivate".toList :=
  IsWord.isSegment ⟨by decide, List.all_eq_true.1 (by decide), by decide, by decide⟩

theorem mem_requests_suspend_iff (hi : i ≠ "") : r ∈ (suspend settings i).requests replies ↔
    HttpRequest.build .delete (base settings ++ "/" ++ "deactivate" ++ "/" ++ i) (headers settings)
      none = .ok r := by
  rw [requests_suspend hi]
  cases HttpRequest.build .delete (base settings ++ "/" ++ "deactivate" ++ "/" ++ i)
      (headers settings) none with
  | error failure => exact iff_of_false nofun nofun
  | ok request =>
    refine List.mem_singleton.trans ⟨fun h => congrArg Except.ok h.symm, fun h => ?_⟩
    exact (Except.ok.inj h).symm

theorem ne_empty_of_isSegment (hi : IsSegment i.toList) : i ≠ "" := by
  rintro rfl
  exact hi.ne_nil rfl

theorem build_of_mem_requests (hi : IsSegment i.toList)
    (hr : r ∈ (suspend settings i).requests replies) :
    HttpRequest.build .delete (base settings ++ "/" ++ "deactivate" ++ "/" ++ i) (headers settings)
      none = .ok r :=
  (mem_requests_suspend_iff (ne_empty_of_isSegment hi)).1 hr

theorem exists_mem_requests (hi : i ≠ "") (hbuild : (HttpRequest.build .delete
    (base settings ++ "/" ++ "deactivate" ++ "/" ++ i) (headers settings) none).isOk)
    (replies : List (Option HttpReply)) : ∃ r, r ∈ (suspend settings i).requests replies := by
  cases hr : HttpRequest.build .delete (base settings ++ "/" ++ "deactivate" ++ "/" ++ i)
      (headers settings) none with
  | error failure =>
    rw [hr] at hbuild
    cases hbuild
  | ok r => exact ⟨r, (mem_requests_suspend_iff hi).2 hr⟩

/-- Suspensions of the same registry share the front of their targets. -/
theorem exists_front_of_suspend (hi : IsSegment i.toList)
    (hr : r ∈ (suspend settings i).requests replies) :
    ∃ front, ∀ {j : String} {replies : List (Option HttpReply)} {r : HttpRequest},
      IsSegment j.toList → r ∈ (suspend settings j).requests replies →
        r.method = .delete ∧ r.url.target = front ++ iccidShown settings j := by
  obtain ⟨ending, hending, hall⟩ :=
    HttpRequest.exists_build_segment isSegment_deactivate hi (build_of_mem_requests hi hr)
  rw [after_base] at hending hall
  obtain ⟨front, htarget⟩ := hending.exists_target_eq
  refine ⟨front, fun hj hr => ?_⟩
  rw [(hall _ none hj).1 _ (build_of_mem_requests hj hr), htarget]
  exact ⟨rfl, rfl⟩

/-- Where one suspension can be sent, any can whose ICCID is written no longer. -/
theorem exists_requests_suspend (hi : IsSegment i.toList)
    (hr : r ∈ (suspend settings i).requests replies) (hj : IsSegment j.toList)
    (hle : ((iccidPart settings).written j).utf8ByteSize ≤
      ((iccidPart settings).written i).utf8ByteSize) (replies' : List (Option HttpReply)) :
    ∃ r', r' ∈ (suspend settings j).requests replies' := by
  obtain ⟨ending, -, hall⟩ :=
    HttpRequest.exists_build_segment isSegment_deactivate hi (build_of_mem_requests hi hr)
  rw [after_base] at hall
  exact ⟨_, (mem_requests_suspend_iff (ne_empty_of_isSegment hj)).2 ((hall j none hj).2 hle)⟩

theorem iccidPart_eq_fragment_iff :
    iccidPart settings = .fragment ↔ '#' ∈ settings.endpoint.toList := by
  unfold iccidPart Part.after
  split
  next h => exact iff_of_true rfl h
  next h => split <;> exact iff_of_false nofun h

/-- Texts without a percent sign are told apart in every part of an address. -/
theorem written_inj {p : Part} (hi : '%' ∉ i.toList) (hj : '%' ∉ j.toList)
    (h : p.written i = p.written j) : i = j := by
  have hencoded := congrArg String.toList h
  simp only [Part.written, String.toList_ofList] at hencoded
  exact String.toList_inj.1 (Percent.encode_inj hi hj hencoded)

/-- Two suspensions have one target exactly if the ICCIDs are written the same, or are not sent at
all, and so never where the endpoint has no fragment and the ICCIDs differ and have no percent
sign. -/
theorem suspensions_apart (hi : IsSegment i.toList) (hj : IsSegment j.toList)
    (hr : r ∈ (suspend settings i).requests replies)
    (hr' : r' ∈ (suspend settings j).requests replies') :
    r.method = .delete ∧ r'.method = .delete ∧
    (∃ front, r.url.target = front ++ iccidShown settings i ∧
      r'.url.target = front ++ iccidShown settings j) ∧
    (r.url.target = r'.url.target ↔ '#' ∈ settings.endpoint.toList ∨
      (iccidPart settings).written i = (iccidPart settings).written j) ∧
    ('#' ∉ settings.endpoint.toList → '%' ∉ i.toList → '%' ∉ j.toList → i ≠ j →
      r.url.target ≠ r'.url.target) := by
  obtain ⟨front, hfront⟩ := exists_front_of_suspend hi hr
  obtain ⟨hmethod, htarget⟩ := hfront hi hr
  obtain ⟨hmethod', htarget'⟩ := hfront hj hr'
  have hsame : r.url.target = r'.url.target ↔ '#' ∈ settings.endpoint.toList ∨
      (iccidPart settings).written i = (iccidPart settings).written j := by
    rw [htarget, htarget', String.append_right_inj, ← iccidPart_eq_fragment_iff]
    unfold iccidShown
    by_cases hfragment : iccidPart settings = .fragment
    · simp [hfragment]
    · simp [hfragment]
  refine ⟨hmethod, hmethod', ⟨front, htarget, htarget'⟩, hsame, fun hendpoint hi' hj' hne heq => ?_⟩
  exact hne (written_inj hi' hj' ((hsame.1 heq).resolve_left hendpoint))

theorem isSegment_blank : IsSegment "1 2".toList :=
  ⟨by decide, by simp, by simp [isPadding], by decide, by decide⟩

theorem isSegment_encodedBlank : IsSegment "1%202".toList :=
  ⟨by decide, by simp, by simp [isPadding], by decide, by decide⟩

theorem written_blank (p : Part) : p.written "1 2" = p.written "1%202" := by
  cases p <;> decide +kernel

/-- There is no endpoint that keeps all ICCIDs apart. -/
theorem exists_same_target (hr : r ∈ (suspend settings "1%202").requests replies) :
    ∃ r', r' ∈ (suspend settings "1 2").requests replies ∧ r'.url.target = r.url.target := by
  obtain ⟨r', hr'⟩ := exists_requests_suspend isSegment_encodedBlank hr isSegment_blank
    (Nat.le_of_eq (congrArg String.utf8ByteSize (written_blank _))) replies
  obtain ⟨front, hfront⟩ := exists_front_of_suspend isSegment_encodedBlank hr
  refine ⟨r', hr', ?_⟩
  rw [(hfront isSegment_blank hr').2, (hfront isSegment_encodedBlank hr).2, iccidShown,
    written_blank, ← iccidShown]

/-- A registry on the machine itself. -/
def nearbyRegistry : RegistrySettings where
  name := "registry"
  endpoint := "http://[::1]/"
  apiKey := "key"
  userId := "user"
  timeoutSecs := 1

/-- A blank and its encoded form are sent as the same. -/
theorem suspensions_meet : (IsSegment "1 2".toList ∧ IsSegment "1%202".toList) ∧
    ∃ r r' : HttpRequest, r ∈ (suspend nearbyRegistry "1 2").requests [] ∧
      r' ∈ (suspend nearbyRegistry "1%202").requests [] ∧ r.url.target = r'.url.target := by
  obtain ⟨r, hr⟩ : ∃ r, r ∈ (suspend nearbyRegistry "1 2").requests [] :=
    exists_mem_requests (by decide) (by decide +kernel) []
  obtain ⟨r', hr'⟩ : ∃ r', r' ∈ (suspend nearbyRegistry "1%202").requests [] :=
    exists_mem_requests (by decide) (by decide +kernel) []
  exact ⟨⟨isSegment_blank, isSegment_encodedBlank⟩, r, r', hr, hr',
    (suspensions_apart isSegment_blank isSegment_encodedBlank hr hr').2.2.2.1.2
      (.inr (written_blank _))⟩

/-- An ICCID with a step back in it is sent as what stands behind the step. -/
example : (HttpRequest.build .delete (base nearbyRegistry ++ "/deactivate/" ++ "x/../1")
    (headers nearbyRegistry) none).toOption.map (·.url.target) = some "/deactivate/1" := by
  decide +kernel

end RegistryClient

end SimDepot
