import SimDepot.Proofs.Directory.Licence
import SimDepot.Proofs.Session.Return

/-!
# Grants

A vendor is permitted for a registry from the moment on when the command of a call that permits it
was carried out (`Chronicle.HasPermitted`). The call goes on to find the permission again, and
others see it before that; but since nothing else stores permissions, and nothing takes them back,
it does find it, unless the store fails. So a call that has succeeded has permitted the vendor, and
where nothing fails one that has permitted it succeeds.
-/

namespace SimDepot

open SimDepot.Action

variable {ι : Type} {ops : ι → Operation}

/-- Permissions stay, and every one that is stored was given by a session that was asked for it. -/
structure Chronicle.Vouched (ops : ι → Operation) (h : Chronicle ι) : Prop where
  /-- Permissions stay. -/
  stay : ∀ d ∈ h.past, d.before.permissions ⊆ d.after.permissions
  /-- Those that are stored were given. -/
  given : ∀ p ∈ h.store.permissions, ∃ d ∈ h.past,
    ops d.session = .permit p.vendorId p.registryId ∧ d.turn = ⟨.write (.addPermission p), .ok p⟩

namespace Chronicle

variable {h h' : Chronicle ι} {i : ι} {turn : Turn} {s : Store}

theorem vouched_start : (start .empty : Chronicle ι).Vouched ops :=
  ⟨by simp, by simp [Store.empty]⟩

theorem Vouched.note (hh : h.Vouched ops) (hstay : h.store.permissions ⊆ s.permissions)
    (hgiven : ∀ p ∈ s.permissions, p ∈ h.store.permissions ∨
      ops i = .permit p.vendorId p.registryId ∧ turn = ⟨.write (.addPermission p), .ok p⟩) :
    (h.note i turn s).Vouched ops where
  stay d hd := by
    rcases List.mem_append.1 hd with hd | hd
    · exact hh.stay d hd
    · rw [List.mem_singleton.1 hd]
      exact hstay
  given p hp := by
    rcases hgiven p hp with hold | hnew
    · obtain ⟨d, hd, hdeed⟩ := hh.given p hold
      exact ⟨d, List.mem_append_left _ hd, hdeed⟩
    · exact ⟨⟨i, turn, h.store, s⟩, by simp, hnew⟩

theorem Vouched.quiet (i : ι) : Quiet i (Vouched ops) :=
  fun _ _ hh => hh.note (List.Subset.refl _) fun _ => .inl

/-- What is permitted at one time is permitted at any later time. -/
theorem Vouched.subset (hh : h'.Vouched ops) (he : h.Extends h') :
    h.store.permissions ⊆ h'.store.permissions :=
  he.rel (R := fun s s' => s.permissions ⊆ s'.permissions) (fun _ => List.Subset.refl _)
    List.Subset.trans hh.stay

end Chronicle

/-- Permissions stay as they are. -/
def ungranting : Discipline where
  inv _ := True
  rel s s' := s'.permissions = s.permissions
  refl _ := rfl
  trans h h' := h'.trans h

theorem serves_ungranting (i : ι) : ungranting.Serves i (Chronicle.Vouched ops) where
  inv _ := trivial
  note _ _ _ hh hrel := hh.note (fun _ hp => hrel ▸ hp) fun _ hp => .inl (hrel ▸ hp)

/-- Only what permits a vendor stores a permission. -/
theorem Operation.Gives.keeps_ungranting {F : Store → Prop} {o : Operation} {c : Command}
    (h : o.Gives c) (hnot : ∀ vendor registry, o ≠ .permit vendor registry) :
    ungranting.Keeps F c := by
  intro s s' a _ _ hexec
  refine ⟨trivial, ?_⟩
  rcases Command.exec_permissions hexec with hsame | ⟨p, rfl, -⟩
  · exact hsame
  · cases h with
    | permission => exact absurd rfl (hnot _ _)

/-- Session `i` has permitted a vendor: its command was carried out. -/
def Chronicle.HasPermitted [DecidableEq ι] (h : Chronicle ι) (i : ι) (p : Permission) : Prop :=
  ⟨.write (.addPermission p), .ok p⟩ ∈ h.turnsOf i

theorem Chronicle.not_hasPermitted_start [DecidableEq ι] {i : ι} {p : Permission} :
    ¬ (start .empty : Chronicle ι).HasPermitted i p :=
  List.not_mem_nil

namespace Directory

variable {i : ι} {h : Chronicle ι} {vendor : VendorId} {registry : RegistryId} {faulty : Prop}

/-- A call that permits a vendor, up to the answer to its command. -/
def grant (vendor : VendorId) (registry : RegistryId) : Action Permission := do
  let _ ← withId .vendor vendor
  let _ ← withId .registry registry
  writeOr (.ofInsertion (.permission vendor registry)) (.addPermission ⟨vendor, registry⟩)

/-- All that is left to do then is to find the permission again. -/
theorem permit_eq_grant_bind : permit vendor registry = grant vendor registry >>= fun p =>
    readOr (.ofInsertion (.permission vendor registry)) (.permission p) >>= fun found =>
      expect found (.ofInsertion (.permission vendor registry) .unfound) := by
  simp only [permit, grant, Action.insert, bind_assoc]

theorem exists_run_permit (vendor : VendorId) (registry : RegistryId) :
    ∃ g, (permit vendor registry).run = (grant vendor registry).run >>= g := by
  rw [permit_eq_grant_bind, ExceptT.run_bind]
  exact ⟨_, rfl⟩

theorem asks_withId_ne {role : Role} {id : Int} {c : Command} :
    Asks (· ≠ .write c) (withId role id) :=
  asks_bind (asks_read (by simp)) fun _ => asks_expect

theorem asks_permit_ne_begin : Asks (· ≠ .begin) (permit vendor registry) := by
  have hlookup {role : Role} {id : Int} : Asks (· ≠ .begin) (withId role id) :=
    asks_bind (asks_read (by simp)) fun _ => asks_expect
  exact asks_bind hlookup fun _ => asks_bind hlookup fun _ =>
    asks_insert (by simp) fun _ => asks_read (by simp)

/-- Its first part is at its end once the command was carried out. -/
theorem settledBy_grant : (grant vendor registry).run.SettledBy
    ⟨.write (.addPermission ⟨vendor, registry⟩), .ok ⟨vendor, registry⟩⟩
    (.ok ⟨vendor, registry⟩) :=
  settledBy_bind asks_withId_ne fun _ => settledBy_bind asks_withId_ne fun _ => settledBy_writeOr

/-- So it is in a call that goes on from there. -/
theorem returned_grant {turns : List Turn} {y : Flow (Except Error Permission)}
    (h : (permit vendor registry).run.Follows turns y)
    (hmem : ⟨.write (.addPermission ⟨vendor, registry⟩), .ok ⟨vendor, registry⟩⟩ ∈ turns) :
    (grant vendor registry).run.Returned turns (.ok ⟨vendor, registry⟩) := by
  rw [permit_eq_grant_bind, ExceptT.run_bind] at h
  refine Flow.SettledBy.returned settledBy_grant (fun res => ?_) h hmem
  cases res with
  | ok p => exact asks_bind (asks_read (by simp)) fun _ => asks_expect
  | error e => trivial

/-- Then the call has returned, or it is about to find the permission again. -/
theorem follows_of_granted {turns : List Turn} {y : Flow (Except Error Permission)}
    (h : (permit vendor registry).run.Follows turns y)
    (hmem : ⟨.write (.addPermission ⟨vendor, registry⟩), .ok ⟨vendor, registry⟩⟩ ∈ turns) :
    (∃ res, (permit vendor registry).run.Returned turns res) ∨
      ∃ k, y = .ask (.read (.permission ⟨vendor, registry⟩)) k ∧
        (permit vendor registry).run.Returned
          (turns ++ [⟨.read (.permission ⟨vendor, registry⟩), .ok (some ⟨vendor, registry⟩)⟩])
          (.ok ⟨vendor, registry⟩) := by
  have hreturned := returned_grant h hmem
  have hsplit := h
  rw [permit_eq_grant_bind, ExceptT.run_bind] at hsplit
  obtain ⟨late, hlate⟩ := hreturned.exists_follows hsplit
  -- One question is left, and nothing behind it.
  obtain ⟨k, hk, hend, hfound⟩ : ∃ k : Except StoreFailure (Option Permission) → Flow _,
      (readOr (.ofInsertion (.permission vendor registry)) (.permission ⟨vendor, registry⟩) >>=
        fun found => expect found (.ofInsertion (.permission vendor registry) .unfound)).run =
          .ask (.read (.permission ⟨vendor, registry⟩)) k ∧ (∀ a, (k a).isDone) ∧
            k (.ok (some ⟨vendor, registry⟩)) = .done (.ok ⟨vendor, registry⟩) := by
    refine ⟨_, rfl, fun a => ?_, rfl⟩
    rcases a with _ | _ | _ <;> rfl
  replace hlate : Flow.Follows (.ask (.read (.permission ⟨vendor, registry⟩)) k) late y :=
    hk ▸ hlate
  cases hlate with
  | refl =>
    have hsnoc := h.snoc (.ok (some ⟨vendor, registry⟩))
    rw [hfound] at hsnoc
    exact .inr ⟨k, rfl, _, [], (List.append_nil _).symm, hsnoc⟩
  | @ask _ _ a late _ hrest =>
    obtain ⟨res, hres⟩ := Flow.exists_eq_done (hend a)
    rw [hres] at hrest
    cases hrest
    exact .inl ⟨res, turns, [], (List.append_nil _).symm, h⟩

variable [DecidableEq ι]

/-- Looking an entry up permits nothing. -/
theorem abides_withId_unpermitted {law : Chronicle ι → Prop} {role : Role} {id : Int}
    {p : Permission} (hquiet : Quiet i law) (hlaw : law h) (hnot : ¬ h.HasPermitted i p) :
    Action.Abides i law faulty (fun _ st h => (st = .outside ∧ law h) ∧ ¬ h.HasPermitted i p)
      (fun _ _ h => ¬ h.HasPermitted i p) (withId role id) .outside h := by
  -- None of the new requests is the command.
  have hnone : ∀ h' : Chronicle ι, (∃ new, h'.deedsOf i = h.deedsOf i ++ new ∧
      ∀ d ∈ new, d.turn.request ≠ .write (.addPermission p)) → ¬ h'.HasPermitted i p := by
    rintro h' ⟨new, hnew, hQ⟩ hp
    obtain ⟨d, hd, hturn⟩ := List.mem_map.1 hp
    rw [hnew] at hd
    rcases List.mem_append.1 hd with hd | hd
    · exact hnot (List.mem_map.2 ⟨d, hd, hturn⟩)
    · exact hQ d hd (by rw [hturn])
  refine Flow.Abides.mono (Flow.Abides.asking (abides_withId hquiet hlaw)
    (asks_withId_ne (c := .addPermission p)) ⟨[], (List.append_nil _).symm, by simp⟩) ?_
  rintro (e | entry) st h' ⟨hpost, hdeeds⟩
  · exact hnone h' hdeeds
  · exact ⟨hpost, hnone h' hdeeds⟩

/-- When its command was carried out, the vendor is permitted. -/
theorem abides_grant (hop : ops i = .permit vendor registry) (hlaw : h.Vouched ops)
    (hnot : ¬ h.HasPermitted i ⟨vendor, registry⟩) :
    Action.Abides i (Chronicle.Vouched ops) faulty
      (fun p st h => (p = ⟨vendor, registry⟩ ∧ st = .outside) ∧ h.Vouched ops ∧
        h.HasPermitted i ⟨vendor, registry⟩ ∧ ⟨vendor, registry⟩ ∈ h.store.permissions)
      (fun _ _ h => ¬ h.HasPermitted i ⟨vendor, registry⟩) (grant vendor registry) .outside h := by
  have hquiet : Quiet i (Chronicle.Vouched ops) := Chronicle.Vouched.quiet i
  refine abides_bind ((abides_withId_unpermitted hquiet hlaw hnot).mono ?_ fun _ _ _ h => h)
  rintro _ st h₁ ⟨⟨rfl, hlaw₁⟩, hnot₁⟩
  refine abides_bind ((abides_withId_unpermitted hquiet hlaw₁ hnot₁).mono ?_ fun _ _ _ h => h)
  rintro _ st h₂ ⟨⟨rfl, hlaw₂⟩, hnot₂⟩
  refine abides_write_turn (fun h₃ s p hd hexec => ?_) fun h₃ failure hd =>
    ⟨hquiet h₃ _ (hd.lawful hlaw₂), ?_⟩
  · obtain ⟨rfl, -, hnodup, rfl⟩ := Store.addPermission_eq_ok hexec
    have hadded : ∀ q ∈ h₃.store.permissions ++ [⟨vendor, registry⟩],
        q ∈ h₃.store.permissions ∨ ops i = .permit q.vendorId q.registryId ∧
          (⟨.write (.addPermission ⟨vendor, registry⟩), .ok ⟨vendor, registry⟩⟩ : Turn) =
            ⟨.write (.addPermission q), .ok q⟩ := by
      refine fun q hq => (List.mem_append.1 hq).imp_right fun hq => ?_
      obtain rfl := List.mem_singleton.1 hq
      exact ⟨hop, rfl⟩
    have hlaw₃ : Chronicle.Vouched ops (h₃.note i _ { h₃.store with
        permissions := _, nodup_permissions := hnodup }) :=
      (hd.lawful hlaw₂).note (List.subset_append_left _ _) hadded
    exact ⟨hlaw₃, ⟨rfl, rfl⟩, hlaw₃, by simp [Chronicle.HasPermitted],
      List.mem_append_right _ (List.mem_singleton_self _)⟩
  · simpa [Chronicle.HasPermitted, hd.turnsOf_eq] using hnot₂

/-- A call that permits a vendor: when it succeeds its command was carried out, and when it fails
although the command was carried out, the store has failed. -/
theorem abides_permit (hop : ops i = .permit vendor registry) (hlaw : h.Vouched ops)
    (hnot : ¬ h.HasPermitted i ⟨vendor, registry⟩) :
    Action.Abides i (Chronicle.Vouched ops) faulty
      (fun _ _ h => h.HasPermitted i ⟨vendor, registry⟩)
      (fun _ _ h => h.HasPermitted i ⟨vendor, registry⟩ → faulty) (permit vendor registry)
      .outside h := by
  rw [permit_eq_grant_bind]
  refine abides_bind ((abides_grant hop hlaw hnot).mono ?_ fun _ _ _ hnot hp => absurd hp hnot)
  rintro _ st h₁ ⟨⟨rfl, rfl⟩, hlaw₁, hpermitted, hmem⟩
  refine abides_bind (abides_read (Chronicle.Vouched.quiet i) hlaw₁ (fun h₂ hm => ?_)
    fun hfaulty _ _ _ _ => hfaulty)
  -- The permission stays, so it is found.
  have hfound : Query.eval h₂.store (.permission ⟨vendor, registry⟩) = some ⟨vendor, registry⟩ :=
    Query.eval_permission_eq_some_iff.2 ⟨rfl, (hm.lawful hlaw₁).subset hm.toExtends hmem⟩
  exact abides_expect (fun _ _ => hm.toExtends.turnsOf_subset i hpermitted) fun hnone =>
    absurd (hfound.symm.trans hnone) (by simp)

omit [DecidableEq ι] in
/-- A check is settled by the answer to its question. -/
theorem returned_checkPermission (found : Option Permission) :
    (checkPermission vendor registry).run.Returned
      [⟨.read (.permission ⟨vendor, registry⟩), .ok found⟩]
      (match found with
        | some _ => .ok ()
        | none => .error (.forbidden (.supply vendor registry))) := by
  refine ⟨[⟨.read (.permission ⟨vendor, registry⟩), .ok found⟩], [], rfl, .ask ?_⟩
  cases found <;> exact .refl (.done _)

end Directory

/-- No operation stores a permission but the one that was asked to give it. -/
theorem Operation.abides_vouched [DecidableEq ι] {i : ι} {h : Chronicle ι} {faulty : Prop}
    (bindings : Bindings) {o : Operation} (hop : ops i = o) (hlaw : h.Vouched ops)
    (hfirst : h.turnsOf i = []) :
    Action.Abides i (Chronicle.Vouched ops) faulty
      (fun _ _ h => ∀ vendor registry, o = .permit vendor registry →
        h.HasPermitted i ⟨vendor, registry⟩)
      (fun _ _ h => ∀ vendor registry, o = .permit vendor registry →
        h.HasPermitted i ⟨vendor, registry⟩ → faulty)
      (o.action bindings) .outside h := by
  have hother (hnot : ∀ vendor registry, o ≠ .permit vendor registry) :
      Action.Abides i (Chronicle.Vouched ops) faulty
        (fun _ _ h => ∀ vendor registry, o = .permit vendor registry →
          h.HasPermitted i ⟨vendor, registry⟩)
        (fun _ _ h => ∀ vendor registry, o = .permit vendor registry →
          h.HasPermitted i ⟨vendor, registry⟩ → faulty)
        (o.action bindings) .outside h :=
    Flow.Abides.mono ((serves_ungranting i).abides_of_issues (Flow.Obeys.widen o.issues_gives
      fun _ hc => hc.keeps_ungranting hnot) hlaw) fun res _ _ _ => by
        cases res <;> exact fun vendor registry ho => absurd ho (hnot vendor registry)
  cases o with
  | permit vendor registry =>
    refine (Directory.abides_permit hop hlaw (by simp [Chronicle.HasPermitted, hfirst])).mono ?_ ?_
    · rintro _ _ h' hp _ _ ⟨⟩
      exact hp
    · rintro _ _ h' hp _ _ ⟨⟩
      exact hp
  | _ => exact hother (by simp)

section Runs

variable [DecidableEq ι] {bindings : ι → Bindings} {moves : List (Move ι)}
  {w : World fun i => Except Error (ops i).Value}

theorem orderly_vouched (ops : ι → Operation) (bindings : ι → Bindings) (faulty : Prop) :
    (World.start .empty fun i => ((ops i).action (bindings i)).run).Orderly
      (Chronicle.Vouched ops) faulty fun i res _ h => ∀ vendor registry,
        ops i = .permit vendor registry → h.HasPermitted i ⟨vendor, registry⟩ →
          res.isOk ∨ faulty :=
  World.Orderly.start Chronicle.vouched_start fun i => by
    refine Flow.Abides.mono (Operation.abides_vouched (bindings i) rfl Chronicle.vouched_start
      rfl) fun res _ _ hpost vendor registry hop hp => ?_
    cases res with
    | ok a => exact .inl rfl
    | error e => exact .inr (hpost vendor registry hop hp)

/-- Whatever is asked of the depot, permitted is what the command of a call has permitted. -/
theorem permitted_iff_of_run
    (hrun : (World.start .empty fun i => ((ops i).action (bindings i)).run).run moves = some w)
    (vendor : VendorId) (registry : RegistryId) :
    ⟨vendor, registry⟩ ∈ w.store.permissions ↔
      ∃ j, ops j = .permit vendor registry ∧ w.HasPermitted j ⟨vendor, registry⟩ := by
  have horderly := orderly_vouched ops bindings True
  have hlaw := (horderly.run (fun _ _ _ => trivial) hrun).lawful
  constructor
  · intro hp
    obtain ⟨d, hd, hop, hturn⟩ := hlaw.given _ hp
    have hmem : d.turn ∈ w.turnsOf d.session :=
      List.mem_map_of_mem (List.mem_filter.2 ⟨hd, by simp⟩)
    rw [hturn] at hmem
    exact ⟨d.session, hop, hmem⟩
  · rintro ⟨j, hop, hpermitted⟩
    -- The first part of the call has returned, and the permission was stored then.
    obtain ⟨f, hf⟩ := Operation.exists_run_eq_bind hop (bindings j)
    obtain ⟨g, hg⟩ := Directory.exists_run_permit vendor registry
    have hfirst : ((ops j).action (bindings j)).run =
        (Directory.grant vendor registry).run >>= fun res => g res >>= f := by
      rw [hf, ← bind_assoc, ← hg]
      rfl
    have hreturned : ∀ o : Operation, o = .permit vendor registry → ∀ y,
        (o.action (bindings j)).run.Follows (w.turnsOf j) y →
          (Directory.grant vendor registry).run.Returned (w.turnsOf j)
            (.ok ⟨vendor, registry⟩) := by
      rintro _ rfl y hfollows
      exact Directory.returned_grant hfollows hpermitted
    obtain ⟨st, h, he, -, -, -, hmem⟩ := horderly.post_of_returned hfirst
      (Directory.abides_grant hop Chronicle.vouched_start Chronicle.not_hasPermitted_start)
      (fun _ _ _ => trivial) hrun (hreturned _ hop _ (World.follows_of_run hrun j))
    exact hlaw.subset he hmem

/-- A call that permits a vendor and has succeeded has carried its command out. -/
theorem hasPermitted_of_returned
    (hrun : (World.start .empty fun i => ((ops i).action (bindings i)).run).run moves = some w)
    {j : ι} {vendor : VendorId} {registry : RegistryId} (hop : ops j = .permit vendor registry)
    {p : Permission}
    (hreturned : (Directory.permit vendor registry).run.Returned (w.turnsOf j) (.ok p)) :
    w.HasPermitted j ⟨vendor, registry⟩ := by
  obtain ⟨f, hf⟩ := Operation.exists_run_eq_bind hop (bindings j)
  obtain ⟨st, h, he, hp⟩ := (orderly_vouched ops bindings True).post_of_returned hf
    (Directory.abides_permit hop Chronicle.vouched_start Chronicle.not_hasPermitted_start)
    (fun _ _ _ => trivial) hrun hreturned
  exact he.turnsOf_subset j hp

/-- Where nothing fails, a call whose command was carried out does not return an error. -/
theorem isOk_of_hasPermitted
    (hrun : (World.start .empty fun i => ((ops i).action (bindings i)).run).run moves = some w)
    (hsmooth : ∀ m ∈ moves, m.isSmooth) {j : ι} {vendor : VendorId} {registry : RegistryId}
    (hop : ops j = .permit vendor registry) {res : Except Error Permission}
    (hreturned : (Directory.permit vendor registry).run.Returned (w.turnsOf j) res)
    (hpermitted : w.HasPermitted j ⟨vendor, registry⟩) : res.isOk := by
  have hdone : ∀ o : Operation, o = .permit vendor registry → ∀ y,
      (o.action (bindings j)).run.Follows (w.turnsOf j) y → y.isDone ∧ y.isDoneOk = res.isOk := by
    rintro _ rfl y hfollows
    obtain ⟨early, late, hsplit, hearly⟩ := hreturned
    obtain ⟨-, rfl⟩ := hearly.eq_done (hsplit ▸ hfollows)
    cases res <;> exact ⟨rfl, rfl⟩
  obtain ⟨hend, hok⟩ := hdone _ hop _ (World.follows_of_run hrun j)
  obtain ⟨res', hres'⟩ := Flow.exists_eq_done hend
  have hworld := (orderly_vouched ops bindings False).run
    (fun m hm => by simp [Move.not_isFault_of_isSmooth (hsmooth m hm)]) hrun
  obtain ⟨h, hd, hpost⟩ :=
    hworld.post_of_done (World.not_isGone_of_smooth (fun _ => rfl) hsmooth hrun j) hres'
  have hthen : h.HasPermitted j ⟨vendor, registry⟩ := by
    rwa [Chronicle.HasPermitted, ← hd.turnsOf_eq]
  have hsuccess := (hpost vendor registry hop hthen).resolve_right id
  rw [← hok, hres']
  cases res' with
  | ok a => rfl
  | error e => cases hsuccess

/-- Where nothing fails, a call whose command was carried out has succeeded, or it does with the
next answer. -/
theorem returned_of_hasPermitted
    (hrun : (World.start .empty fun i => ((ops i).action (bindings i)).run).run moves = some w)
    (hsmooth : ∀ m ∈ moves, m.isSmooth) {j : ι} {vendor : VendorId} {registry : RegistryId}
    (hop : ops j = .permit vendor registry) (hpermitted : w.HasPermitted j ⟨vendor, registry⟩) :
    (∃ p, (Directory.permit vendor registry).run.Returned (w.turnsOf j) (.ok p)) ∨
      ∃ w', w.step (.turn j .plain) = some w' ∧
        (Directory.permit vendor registry).run.Returned (w'.turnsOf j)
          (.ok ⟨vendor, registry⟩) := by
  have hfollows := World.follows_of_run hrun j
  have hleft : ∀ o : Operation, o = .permit vendor registry → ∀ y,
      (o.action (bindings j)).run.Follows (w.turnsOf j) y →
        (∀ t ∈ w.turnsOf j, t.request ≠ .begin) ∧
        ((∃ res, (Directory.permit vendor registry).run.Returned (w.turnsOf j) res) ∨
          ∃ k, y = .ask (.read (.permission ⟨vendor, registry⟩)) k ∧
            (Directory.permit vendor registry).run.Returned (w.turnsOf j ++
              [⟨.read (.permission ⟨vendor, registry⟩), .ok (some ⟨vendor, registry⟩)⟩])
              (.ok ⟨vendor, registry⟩)) := by
    rintro _ rfl y hy
    exact ⟨hy.request Directory.asks_permit_ne_begin, Directory.follows_of_granted hy hpermitted⟩
  obtain ⟨hturns, ⟨res, hreturned⟩ | ⟨k, hask, hreturned⟩⟩ := hleft _ hop _ hfollows
  · have hok := isOk_of_hasPermitted hrun hsmooth hop hreturned hpermitted
    cases res with
    | ok p => exact .inl ⟨p, hreturned⟩
    | error e => cases hok
  · have hstanding : w.standing j = .outside := World.outside_of_ne_begin hrun hturns
      (World.not_isGone_of_smooth (fun _ => rfl) hsmooth hrun j)
    have hmem := (permitted_iff_of_run hrun vendor registry).2 ⟨j, hop, hpermitted⟩
    have hfound : Query.eval w.store (.permission ⟨vendor, registry⟩) =
        some ⟨vendor, registry⟩ := Query.eval_permission_eq_some_iff.2 ⟨rfl, hmem⟩
    refine .inr ⟨w.proceed j ⟨.read (.permission ⟨vendor, registry⟩), .ok (some ⟨vendor, registry⟩)⟩
      .outside w.store (k (.ok (some ⟨vendor, registry⟩))), ?_, ?_⟩
    · simp [World.step, hask, hstanding, serve, Standing.isGone, Request.isWrite, hfound]
    · simpa [World.proceed] using hreturned

/-- A call that checks a permission, and is answered now, succeeds exactly if it is stored. -/
theorem check_of_run
    (hrun : (World.start .empty fun i => ((ops i).action (bindings i)).run).run moves = some w)
    {i : ι} {vendor : VendorId} {registry : RegistryId}
    (hop : ops i = .inquire (.permission vendor registry)) (hturns : w.turnsOf i = [])
    (halive : (w.standing i).isGone = false) :
    ∃ w' res, w.step (.turn i .plain) = some w' ∧
      (Directory.checkPermission vendor registry).run.Returned (w'.turnsOf i) res ∧
      (res.isOk ↔ ⟨vendor, registry⟩ ∈ w.store.permissions) := by
  have hstanding : w.standing i = .outside :=
    World.outside_of_ne_begin hrun (by simp [hturns]) halive
  have hfirst : ∀ o : Operation, o = .inquire (.permission vendor registry) → ∃ k,
      (o.action (bindings i)).run = .ask (.read (.permission ⟨vendor, registry⟩)) k := by
    rintro _ rfl
    exact ⟨_, rfl⟩
  obtain ⟨k, hk⟩ := hfirst _ hop
  have hfollows := World.follows_of_run hrun i
  rw [hturns] at hfollows
  have hrest := hfollows.eq_of_nil.trans hk
  obtain ⟨found, hfound⟩ : ∃ found, Query.eval w.store (.permission ⟨vendor, registry⟩) = found :=
    ⟨_, rfl⟩
  have hstep : w.step (.turn i .plain) = some (w.proceed i
      ⟨.read (.permission ⟨vendor, registry⟩), .ok found⟩ .outside w.store (k (.ok found))) := by
    simp [World.step, hrest, hstanding, serve, Standing.isGone, Request.isWrite, hfound]
  refine ⟨_, ?result, hstep, ?returned, ?succeeds⟩
  case returned =>
    simp only [World.proceed, Chronicle.turnsOf_note_self, hturns, List.nil_append]
    exact Directory.returned_checkPermission found
  case succeeds =>
    cases found with
    | none =>
      refine iff_of_false Bool.false_ne_true fun hp => ?_
      cases hfound.symm.trans (Query.eval_permission_eq_some_iff.2 ⟨rfl, hp⟩)
    | some p => exact iff_of_true rfl (Query.eval_permission_eq_some_iff.1 hfound).2

end Runs

end SimDepot
