import SimDepot.Proofs.Handout.Recording
import SimDepot.Proofs.Session.InTurn

/-!
# Calls that activate, and the numbers that are stored

A call that activates a SIM tells its registry a subscriber number. `Chronicle.activationsOf` reads
the calls about a card off the chronicle, those that the registry carried out and those that it did
not. `Chronicle.Numbered` relates them to what is stored: a SIM has the number of the last call
about it. It is kept by whatever makes no call and gives no number, and by a number that is given
before the call is made.
-/

namespace SimDepot

variable {ι : Type}

/-- A call that asked a registry to serve a card under a subscriber number. -/
structure Activation where
  /-- The number of the card. -/
  iccid : String
  /-- The subscriber number. -/
  msisdn : String
  /-- The registry carried it out. -/
  succeeded : Bool
  deriving DecidableEq, Repr

/-- The request asks a registry to serve a card. -/
def Request.isActivation : Request → Bool
  | activate .. => true
  | _ => false

theorem Request.isActivation_of_not_isCall {r : Request} (h : r.isCall = false) :
    r.isActivation = false := by
  cases r with
  | activate _ _ _ => cases h
  | _ => rfl

/-- The call that a request made, if it asked a registry to serve a card. -/
def Turn.activation? : Turn → Option Activation
  | ⟨.activate _ iccid msisdn, .ok _⟩ => some ⟨iccid, msisdn, true⟩
  | ⟨.activate _ iccid msisdn, .error _⟩ => some ⟨iccid, msisdn, false⟩
  | _ => none

theorem Turn.activation?_of_not_isActivation {t : Turn} (h : t.request.isActivation = false) :
    t.activation? = none := by
  unfold activation?
  split
  · cases h
  · cases h
  · rfl

theorem Turn.activation?_activate (registry : RegistryId) (iccid msisdn : String)
    (res : Except Error Unit) :
    activation? ⟨.activate registry iccid msisdn, res⟩ = some ⟨iccid, msisdn, res.isOk⟩ := by
  cases res <;> rfl

namespace Chronicle

variable {h h' : Chronicle ι} {i : ι}

/-- The calls that asked registries to serve a card, in order. -/
def activationsOf (h : Chronicle ι) (iccid : String) : List Activation :=
  h.past.filterMap fun d => d.turn.activation?.filter (·.iccid = iccid)

/-- Requests of other kinds are no such calls. -/
theorem OnlyAsked.activationsOf_eq (hasked : OnlyAsked i (fun r => r.isActivation = false) h h') :
    h'.activationsOf = h.activationsOf := by
  funext iccid
  refine hasked.filterMap_eq fun d hd => ?_
  rw [Turn.activation?_of_not_isActivation hd, Option.filter_none]

theorem activationsOf_note (h : Chronicle ι) (i : ι) (turn : Turn) (s : Store) (iccid : String) :
    (h.note i turn s).activationsOf iccid =
      h.activationsOf iccid ++ (turn.activation?.filter (·.iccid = iccid)).toList := by
  rw [activationsOf, past_note, List.filterMap_append]
  rfl

/-- What a call adds to the calls about its card. -/
theorem activationsOf_activate (registry : RegistryId) (iccid msisdn : String)
    (res : Except Error Unit) (s : Store) :
    (h.note i ⟨.activate registry iccid msisdn, res⟩ s).activationsOf iccid =
      h.activationsOf iccid ++ [⟨iccid, msisdn, res.isOk⟩] := by
  rw [activationsOf_note, Turn.activation?_activate, Option.filter_some_pos (by simp)]
  rfl

/-- A call about one card is none about another one. -/
theorem activationsOf_activate_of_ne {registry : RegistryId} {iccid msisdn other : String}
    (hother : iccid ≠ other) (res : Except Error Unit) (s : Store) :
    (h.note i ⟨.activate registry iccid msisdn, res⟩ s).activationsOf other =
      h.activationsOf other := by
  rw [activationsOf_note, Turn.activation?_activate, Option.filter_some_neg (by simpa using hother)]
  exact List.append_nil _

end Chronicle

/-! ## What is stored -/

/-- The change assigns a subscriber number, or records that a SIM is active. -/
def SimChange.renumbers : SimChange → Bool
  | setMsisdn _ | setRegistryState .activated => true
  | _ => false

theorem Sim.msisdn_change {r : Sim} {change : SimChange} (hchange : change.renumbers = false) :
    (r.change change).msisdn = r.msisdn ∧
      ((r.change change).registryState = .activated → r.registryState = .activated) := by
  cases change with
  | setMsisdn msisdn => cases hchange
  | setRegistryState state =>
    cases state with
    | activated => cases hchange
    | notActivated => exact ⟨rfl, nofun⟩
  | suspend time => exact ⟨rfl, nofun⟩
  | setVendorState state => cases state <;> exact ⟨rfl, fun h => h⟩
  | _ => exact ⟨rfl, fun h => h⟩

/-- SIMs stay and keep their subscriber numbers, and none becomes active. -/
structure Store.NumbersKept (s s' : Store) : Prop where
  /-- A SIM was there before with its number, or it is new and not active. -/
  origin : ∀ r' ∈ s'.sims.rows,
    (∃ r ∈ s.sims.rows, r.iccid = r'.iccid ∧ r.msisdn = r'.msisdn ∧
      (r'.registryState = .activated → r.registryState = .activated)) ∨
    (∀ r ∈ s.sims.rows, r.iccid ≠ r'.iccid) ∧ r'.registryState = .notActivated
  /-- A SIM that was there stays. -/
  stays : ∀ r ∈ s.sims.rows, ∃ r' ∈ s'.sims.rows, r'.iccid = r.iccid

namespace Store.NumbersKept

theorem refl (s : Store) : s.NumbersKept s where
  origin r hr := .inl ⟨r, hr, rfl, rfl, id⟩
  stays r hr := ⟨r, hr, rfl⟩

theorem trans {a b c : Store} (hab : a.NumbersKept b) (hbc : b.NumbersKept c) :
    a.NumbersKept c where
  origin r'' hr'' := by
    rcases hbc.origin r'' hr'' with ⟨r', hr', hiccid', hmsisdn', hactive'⟩ | ⟨hnew', hnot⟩
    · rcases hab.origin r' hr' with ⟨r, hr, hiccid, hmsisdn, hactive⟩ | ⟨hnew, hnot⟩
      · exact .inl ⟨r, hr, hiccid.trans hiccid', hmsisdn.trans hmsisdn', hactive ∘ hactive'⟩
      · refine .inr ⟨fun r hr h => hnew r hr (h.trans hiccid'.symm), ?_⟩
        cases hstate : r''.registryState with
        | notActivated => rfl
        | activated => exact absurd (hnot.symm.trans (hactive' hstate)) nofun
    · refine .inr ⟨fun r hr h => ?_, hnot⟩
      obtain ⟨r', hr', hiccid'⟩ := hab.stays r hr
      exact hnew' r' hr' (hiccid'.trans h)
  stays r hr := by
    obtain ⟨r', hr', hiccid'⟩ := hab.stays r hr
    obtain ⟨r'', hr'', hiccid''⟩ := hbc.stays r' hr'
    exact ⟨r'', hr'', hiccid''.trans hiccid'⟩

/-- A command that stores new SIMs as imports do and changes no number keeps the numbers. -/
theorem exec {s s' : Store} {c : Command} {a : c.Answer} (hfresh : c.StoresFresh)
    (hchange : ∀ id change, c = .changeSim id change → change.renumbers = false)
    (hexec : c.exec s = .ok (s', a)) : s.NumbersKept s' where
  origin r' hr' := by
    rcases Command.row_after hexec hr' with hr | ⟨r, hr, change, hc, -, rfl⟩ | hnew
    · exact .inl ⟨r', hr, rfl, rfl, id⟩
    · obtain ⟨hmsisdn, hactive⟩ := Sim.msisdn_change (r := r) (hchange r.id change hc)
      exact .inl ⟨r, hr, (SimChange.iccid_apply _ _).symm, hmsisdn.symm, hactive⟩
    · obtain ⟨drafts, hc, d, hd, hrd⟩ := hnew
      by_cases hold : ∃ r ∈ s.sims.rows, r.iccid = r'.iccid
      · -- A card number that is taken cannot be stored again.
        obtain ⟨r, hr, hiccid⟩ := hold
        have hr₁ : r ∈ s'.sims.rows := by
          rcases Command.row_before hexec hr with hr₁ | ⟨change, hc', -⟩
          · exact hr₁
          · rw [hc] at hc'
            cases hc'
        obtain rfl := Store.eq_of_iccid hr₁ hr' hiccid
        exact .inl ⟨r, hr, rfl, rfl, id⟩
      · refine .inr ⟨fun r hr hiccid => hold ⟨r, hr, hiccid⟩, ?_⟩
        rw [hrd]
        exact (hfresh drafts hc d hd).registryState
  stays r hr := by
    rcases Command.row_before hexec hr with hr₁ | ⟨change, -, -, hr₁⟩
    · exact ⟨r, hr₁, rfl⟩
    · exact ⟨_, hr₁, SimChange.iccid_apply _ _⟩

end Store.NumbersKept

/-- Numbers are kept. -/
def numbersKept : Discipline where
  inv _ := True
  rel := Store.NumbersKept
  refl := .refl
  trans := .trans

/-- Between operations every SIM has the number of the last call about it, and it is active only if
its registry carried a call out. `awaited` is a card that has its number already while the call is
still to be made. -/
structure Chronicle.Numbered (awaited : Option String) (h : Chronicle ι) : Prop where
  /-- The number of a SIM is the one of the last call. -/
  number : ∀ r ∈ h.store.sims.rows, some r.iccid ≠ awaited → ∀ last,
    (h.activationsOf r.iccid).getLast? = some last → r.msisdn = some last.msisdn
  /-- For a SIM that is active there was a call that its registry carried out. -/
  carriedOut : ∀ r ∈ h.store.sims.rows, r.registryState = .activated →
    ∃ a ∈ h.activationsOf r.iccid, a.succeeded
  /-- Calls are about SIMs that are stored. -/
  stored : ∀ iccid, h.activationsOf iccid ≠ [] → ∃ r ∈ h.store.sims.rows, r.iccid = iccid

namespace Chronicle.Numbered

variable {h h' : Chronicle ι} {i : ι} {awaited : Option String}

theorem start : (Chronicle.start .empty : Chronicle ι).Numbered none where
  number _ hr := absurd hr List.not_mem_nil
  carriedOut _ hr := absurd hr List.not_mem_nil
  stored _ hiccid := absurd rfl hiccid

theorem weaken (hh : h.Numbered none) : h.Numbered awaited where
  number r hr _ := hh.number r hr nofun
  carriedOut := hh.carriedOut
  stored := hh.stored

/-- No call is made, and the numbers are kept. -/
theorem kept (hh : h.Numbered none) (hcalls : h'.activationsOf = h.activationsOf)
    (hkept : h.store.NumbersKept h'.store) : h'.Numbered none where
  number r' hr' _ last hlast := by
    rw [hcalls] at hlast
    rcases hkept.origin r' hr' with ⟨r, hr, hiccid, hmsisdn, -⟩ | ⟨hnew, -⟩
    · rw [← hiccid] at hlast
      exact hmsisdn.symm.trans (hh.number r hr nofun last hlast)
    · -- No call can have been about a card that was not stored.
      have hsome : h.activationsOf r'.iccid ≠ [] := by
        intro hnil
        rw [hnil] at hlast
        cases hlast
      obtain ⟨r, hr, hiccid⟩ := hh.stored _ hsome
      exact absurd hiccid (hnew r hr)
  carriedOut r' hr' hactive' := by
    rw [hcalls]
    rcases hkept.origin r' hr' with ⟨r, hr, hiccid, -, hactive⟩ | ⟨-, hnot⟩
    · rw [← hiccid]
      exact hh.carriedOut r hr (hactive hactive')
    · exact absurd (hnot.symm.trans hactive') nofun
  stored iccid hiccid := by
    rw [hcalls] at hiccid
    obtain ⟨r, hr, rfl⟩ := hh.stored iccid hiccid
    exact hkept.stays r hr

/-- No call is made, and one SIM is changed. -/
theorem change (hh : h.Numbered none) (hcalls : h'.activationsOf = h.activationsOf) {r : Sim}
    (hr : r ∈ h.store.sims.rows) {change : SimChange}
    (hstore : h'.store = (h.store.changeSim r.id change).1)
    (hnumber : some r.iccid ≠ awaited → (r.change change).msisdn = r.msisdn)
    (hactive : (r.change change).registryState = .activated →
      ∃ a ∈ h.activationsOf r.iccid, a.succeeded) : h'.Numbered awaited := by
  have hrows : ∀ r' ∈ h'.store.sims.rows, r' = r.change change ∨ r' ∈ h.store.sims.rows := by
    intro r' hr'
    rw [hstore] at hr'
    rcases Store.mem_rows_changeSim hr rfl hr' with hchanged | ⟨hr', -⟩
    · split at hchanged
      · exact .inl hchanged
      · exact .inr (hchanged ▸ hr)
    · exact .inr hr'
  have hiccid : (r.change change).iccid = r.iccid := SimChange.iccid_apply _ _
  refine ⟨fun r' hr' hawaited last hlast => ?_, fun r' hr' hactive' => ?_, fun iccid hsome => ?_⟩
  · rw [hcalls] at hlast
    rcases hrows r' hr' with rfl | hr'
    · rw [hiccid] at hawaited hlast
      exact (hnumber hawaited).trans (hh.number r hr nofun last hlast)
    · exact hh.number r' hr' nofun last hlast
  · rw [hcalls]
    rcases hrows r' hr' with rfl | hr'
    · rw [hiccid]
      exact hactive hactive'
    · exact hh.carriedOut r' hr' hactive'
  · rw [hcalls] at hsome
    obtain ⟨r₀, hr₀, rfl⟩ := hh.stored iccid hsome
    have hcard : r₀.card ∈ h'.store.cards := by
      rw [hstore, Store.cards_changeSim]
      exact Store.card_mem hr₀
    obtain ⟨r', hr', hcard'⟩ := List.mem_map.1 hcard
    exact ⟨r', hr', congrArg Card.iccid hcard'⟩

/-- The call about a SIM that has its number already. -/
theorem call {r : Sim} (hh : h.Numbered (some r.iccid)) (hr : r ∈ h.store.sims.rows)
    {msisdn : String} (hmsisdn : r.msisdn = some msisdn) {registry : RegistryId}
    {res : Except Error Unit} :
    (h.note i ⟨.activate registry r.iccid msisdn, res⟩ h.store).Numbered none := by
  refine ⟨fun r' hr' _ last hlast => ?_, fun r' hr' hactive => ?_, fun iccid hsome => ?_⟩
  · by_cases hiccid : r.iccid = r'.iccid
    · obtain rfl := Store.eq_of_iccid hr hr' hiccid
      rw [activationsOf_activate, List.getLast?_concat] at hlast
      cases hlast
      exact hmsisdn
    · rw [activationsOf_activate_of_ne hiccid] at hlast
      exact hh.number r' hr' (fun h => hiccid (Option.some.inj h).symm) last hlast
  · obtain ⟨a, ha, hsucceeded⟩ := hh.carriedOut r' hr' hactive
    refine ⟨a, ?_, hsucceeded⟩
    by_cases hiccid : r.iccid = r'.iccid
    · rw [← hiccid] at ha ⊢
      rw [activationsOf_activate]
      exact List.mem_append_left _ ha
    · rw [activationsOf_activate_of_ne hiccid]
      exact ha
  · by_cases hiccid : r.iccid = iccid
    · exact ⟨r, hr, hiccid⟩
    · rw [activationsOf_activate_of_ne hiccid] at hsome
      exact hh.stored iccid hsome

end Chronicle.Numbered

end SimDepot
