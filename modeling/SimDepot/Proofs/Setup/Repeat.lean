import SimDepot.Proofs.Lifecycle.Operation
import SimDepot.Proofs.Session.Return
import SimDepot.Proofs.Setup.Binding

/-!
# Setting up again

A depot puts its settings into effect whenever it starts. The second time, and every further time,
everything is stored already: nothing changes, and the same services are bound to the same entries.
That the setup succeeds takes two things more. The names have to be trimmed, since an entry is
looked up by its name as the settings give it; and the tables must have an identity left, since the
store looks for one before it looks at the name.
-/

namespace SimDepot

open SimDepot.Action

/-! ## Names are trimmed, whatever is asked -/

/-- What is asked of a depot from its beginning on. -/
inductive Errand
  /-- An operation. -/
  | operation (o : Operation) (bindings : Bindings)
  /-- That settings are put into effect. -/
  | setUp (settings : Settings)

namespace Errand

/-- What an errand returns. -/
abbrev Value : Errand → Type
  | operation o _ => o.Value
  | setUp _ => Setup

/-- What is done for an errand. -/
def action : (e : Errand) → Action e.Value
  | operation o bindings => o.action bindings
  | setUp settings => Setup.ofSettings settings

end Errand

section Issues

variable {P : Command → Prop}

theorem Setup.issues_bindAll {α : Type} {role : Role} {name : α → String} {bound : IdMap α}
    {as : List α} (hentry : ∀ role name, P (.addEntry role (Text.trim name))) :
    Issues P false (bindAll role name bound as) := by
  induction as generalizing bound with
  | nil => exact issues_pure
  | cons a rest ih => exact issues_bind (Directory.issues_ensure (hentry _ _)) fun _ => ih

theorem Setup.issues_grant {p : PermissionSettings} (hP : ∀ p, P (.addPermission p)) :
    Issues P false (grant p) := by
  refine issues_bind Directory.issues_named fun _ => issues_bind Directory.issues_named fun _ =>
    issues_bind (issues_attempt (Directory.issues_permit (hP _))) fun res => ?_
  match res with
  | .ok _ => exact issues_pure
  | .error e =>
    cases e with
    | alreadyExists _ => exact issues_pure
    | _ => exact issues_throw

theorem Setup.issues_ofSettings {settings : Settings}
    (hentry : ∀ role name, P (.addEntry role (Text.trim name)))
    (hpermission : ∀ p, P (.addPermission p)) : Issues P false (ofSettings settings) := by
  unfold ofSettings
  simp only [bindRegistries_eq_bindAll, bindVendors_eq_bindAll]
  exact issues_bind (issues_bindAll hentry) fun _ => issues_bind (issues_bindAll hentry) fun _ =>
    issues_bind (issues_forM fun _ _ => issues_grant hpermission) fun _ => issues_pure

end Issues

/-- All names in the directory are trimmed. -/
def trimmedNames : Discipline :=
  ⟨Store.NamesTrimmed, fun _ _ => True, fun _ => trivial, fun _ _ => trivial⟩

theorem keeps_trimmedNames {c : Command} (hc : c.StoresTrimmed) :
    trimmedNames.Keeps (fun _ => True) c := by
  intro s s' a hs _ hexec
  refine ⟨fun role e he => ?_, trivial⟩
  rcases Command.entry_after hexec he with he | rfl
  · exact hs role e he
  · exact hc role e.name rfl

theorem Errand.issues_action (e : Errand) :
    Issues (trimmedNames.Keeps fun _ => True) false e.action := by
  cases e with
  | operation o bindings =>
    exact o.issues_tidy (fun _ _ htrimmed _ => keeps_trimmedNames htrimmed)
      fun _ _ _ => keeps_trimmedNames (Command.storesTrimmed_of_ne (by simp))
  | setUp settings =>
    exact Setup.issues_ofSettings
      (fun role name => keeps_trimmedNames (Command.storesTrimmed_addEntry role name))
      fun _ => keeps_trimmedNames (Command.storesTrimmed_of_ne (by simp))

/-- From empty tables on, errands in whatever order their requests are answered leave trimmed names
only. -/
theorem namesTrimmed_of_run {ι : Type} [DecidableEq ι] {errands : ι → Errand}
    {moves : List (Move ι)} {w : World fun i => Except Error (errands i).Value}
    (hrun : (World.start .empty fun i => (errands i).action.run).run moves = some w) :
    w.store.NamesTrimmed := by
  have hstart : (World.start .empty fun i => (errands i).action.run).Orderly trimmedNames.law True
      fun _ _ st _ => st.isOpen = false :=
    Discipline.orderly_start Store.namesTrimmed_empty fun i => (errands i).issues_action
  exact (hstart.run (fun _ _ _ => trivial) hrun).lawful.1

/-! ## The first time and the second time -/

namespace Setup

variable {s s' : Store} {settings : Settings} {setup : Setup}

/-- The settings are in effect: the store holds what they say, and the setup is theirs. -/
structure Installed (settings : Settings) (s : Store) (setup : Setup) : Prop where
  /-- Names are trimmed. -/
  trimmed : s.NamesTrimmed
  /-- Every registry is bound to its entry. -/
  registries : Binds (s.entries .registry) (·.name) .empty settings.registries setup.registries
  /-- Every vendor is bound to its entry. -/
  vendors : Binds (s.entries .vendor) (·.name) .empty settings.vendors setup.vendors
  /-- Every permission is found. -/
  found : ∀ p ∈ settings.permissions, ∃ q, Denotes s p q
  /-- Every permission is stored. -/
  granted : ∀ p ∈ settings.permissions, ∀ q, Denotes s p q → q ∈ s.permissions
  /-- The tuning is that of the settings. -/
  tuning : setup.tuning = settings.tuning

/-- Every name of the settings is stable. -/
structure Repeatable (settings : Settings) (s : Store) : Prop where
  /-- The names of the registries are. -/
  registries : ∀ r ∈ settings.registries, Directory.Stable s .registry r.name
  /-- The names of the vendors are. -/
  vendors : ∀ v ∈ settings.vendors, Directory.Stable s .vendor v.name

/-- When a setup succeeds, the settings are in effect. -/
theorem alone_ofSettings (hs : s.NamesTrimmed) (settings : Settings) :
    Alone (fun res _ s' => ∀ setup, res = .ok setup → Installed settings s' setup)
      (ofSettings settings) .outside s := by
  unfold ofSettings
  rw [bindRegistries_eq_bindAll]
  refine alone_bind ((alone_bindAll hs _ _).mono ?_)
  rintro res st s₁ ⟨rfl, hregistries⟩
  cases res with
  | error e => exact nofun
  | ok registries =>
    obtain ⟨-, htrimmed₁, hregistries⟩ := hregistries registries rfl
    dsimp only
    rw [bindVendors_eq_bindAll]
    refine alone_bind ((alone_bindAll htrimmed₁ _ _).mono ?_)
    rintro res st s₂ ⟨rfl, hvendors⟩
    cases res with
    | error e => exact nofun
    | ok vendors =>
      obtain ⟨hs₂, htrimmed₂, hvendors⟩ := hvendors vendors rfl
      refine alone_bind ((alone_grantAll s₂ settings.permissions).mono ?_)
      rintro res st s₃ ⟨rfl, hgrants⟩
      cases res with
      | error e => exact nofun
      | ok u =>
        refine alone_pure fun setup hsetup => ?_
        cases hsetup
        have hdenotes : ∀ {p q}, Denotes s₃ p q ↔ Denotes s₂ p q :=
          denotes_iff_of_entries hgrants.entries
        refine ⟨?_, (hregistries.of_enlisted hs₂).of_enlisted hgrants.enlisted,
          hvendors.of_enlisted hgrants.enlisted, fun p hp => ?_, fun p hp q hq => ?_, rfl⟩
        · intro role e he
          rw [hgrants.entries] at he
          exact htrimmed₂ role e he
        · simp only [hdenotes]
          exact hgrants.ok_iff.1 rfl p hp
        · exact (hgrants.mem_iff rfl q).2 (.inr ⟨p, hp, hdenotes.1 hq⟩)

/-- Where settings are in effect, putting them into effect changes nothing, and succeeds with the
same setup exactly when their names are stable. -/
theorem alone_ofSettings_again (h : Installed settings s setup) :
    Alone (fun res _ s' => s' = s ∧ (res = .ok setup ↔ Repeatable settings s))
      (ofSettings settings) .outside s := by
  unfold ofSettings
  rw [bindRegistries_eq_bindAll]
  refine alone_bind ((alone_bindAll_again h.trimmed h.registries).mono ?_)
  rintro res st s₁ ⟨rfl, rfl, ⟨rfl, hregistries⟩ | ⟨⟨err, rfl⟩, hunstable⟩⟩
  · dsimp only
    rw [bindVendors_eq_bindAll]
    refine alone_bind ((alone_bindAll_again h.trimmed h.vendors).mono ?_)
    rintro res st s₂ ⟨rfl, rfl, ⟨rfl, hvendors⟩ | ⟨⟨err, rfl⟩, hunstable⟩⟩
    · refine alone_bind ((alone_grantAll s₂ settings.permissions).mono ?_)
      rintro res st s₃ ⟨rfl, hgrants⟩
      have hok := hgrants.ok_iff.2 h.found
      have hsame := hgrants.again h.granted
      subst hok
      refine alone_pure ⟨hsame, iff_of_true ?_ ⟨hregistries, hvendors⟩⟩
      rw [← h.tuning]
    · exact ⟨rfl, iff_of_false nofun fun hall => hunstable hall.vendors⟩
  · exact ⟨rfl, iff_of_false nofun fun hall => hunstable hall.registries⟩

end Setup

/-- From empty tables on, whatever was asked of the depot so far, with whatever settings it was set
up and whatever went wrong. When settings are put into effect, and then once more, nothing changes
the second time; it succeeds, with the same services bound to the same entries, exactly when every
name of a service is trimmed and its table has an identity left. It is the same with a single
entry. -/
theorem setUp_again_iff {ι : Type} [DecidableEq ι] (errands : ι → Errand) {moves : List (Move ι)}
    {w : World fun i => Except Error (errands i).Value}
    (hrun : (World.start .empty fun i => (errands i).action.run).run moves = some w) :
    (∀ settings setup s res s',
      (Setup.ofSettings settings).run.ComesTo w.store (.ok setup) s →
      (Setup.ofSettings settings).run.ComesTo s res s' →
        s' = s ∧ (res = .ok setup ↔ Setup.Repeatable settings s)) ∧
    ∀ role name e s res s',
      (Directory.ensure role name).run.ComesTo w.store (.ok e) s →
      (Directory.ensure role name).run.ComesTo s res s' →
        s' = s ∧ (res = .ok e ↔ Directory.Stable s role name) := by
  have hs := namesTrimmed_of_run hrun
  constructor
  · intro settings setup s res s' hfirst hsecond
    obtain ⟨-, hinstalled⟩ := Flow.post_of_comesTo (Setup.alone_ofSettings hs settings) hfirst
    obtain ⟨-, hagain⟩ :=
      Flow.post_of_comesTo (Setup.alone_ofSettings_again (hinstalled setup rfl)) hsecond
    exact hagain
  · intro role name e s res s' hfirst hsecond
    obtain ⟨-, -, hensured⟩ := Flow.post_of_comesTo (Directory.alone_ensure _ role name) hfirst
    obtain ⟨-, -, hagain⟩ := Flow.post_of_comesTo (Directory.alone_ensure _ role name) hsecond
    obtain ⟨-, htrimmed, hblank, he⟩ := hensured.named?_of_ok hs
    obtain ⟨rfl, ⟨rfl, hstable⟩ | ⟨⟨err, rfl⟩, hunstable⟩⟩ := hagain.again htrimmed hblank he
    · exact ⟨rfl, iff_of_true rfl hstable⟩
    · exact ⟨rfl, iff_of_false nofun hunstable⟩

/-- A registry with white space around its name. -/
def paddedRegistry : Settings :=
  ⟨[⟨" North ", "http://north", "key", "user", 10⟩], [], [], .default⟩

/-- A depot that was set up with it. -/
def padded : World fun _ : Unit => Except Error Setup :=
  ((World.start .empty fun _ => (Setup.ofSettings paddedRegistry).run).run
    [.turn () .plain, .turn () .plain]).get (by decide +kernel)

/-- The depot is set up the first time, and not the second time. -/
theorem not_setUp_again_of_padded :
    ∃ setup s, (Setup.ofSettings paddedRegistry).run.ComesTo .empty (.ok setup) s ∧
      ∀ res s', (Setup.ofSettings paddedRegistry).run.ComesTo s res s' →
        s' = s ∧ res ≠ .ok setup := by
  obtain ⟨setup, hsetup⟩ := Flow.exists_eq_done_ok (x := padded.rest ()) (by decide +kernel)
  have hfirst : (Setup.ofSettings paddedRegistry).run.ComesTo .empty (.ok setup) padded.store :=
    ⟨[.turn () .plain, .turn () .plain], padded, by decide, (Option.some_get _).symm, hsetup, rfl⟩
  refine ⟨setup, padded.store, hfirst, fun res s' hsecond => ?_⟩
  let errands : Unit → Errand := fun _ => .setUp paddedRegistry
  have hrun : (World.start .empty fun i => (errands i).action.run).run [] = some _ := rfl
  obtain ⟨hsame, hagain⟩ :=
    (setUp_again_iff errands hrun).1 paddedRegistry setup padded.store res s' hfirst hsecond
  refine ⟨hsame, fun hok => ?_⟩
  have htrimmed := ((hagain.1 hok).registries _ (List.mem_singleton.2 rfl)).trimmed
  revert htrimmed
  decide

end SimDepot
