import Mathlib.Algebra.BigOperators.Group.Finset.Piecewise
import SimDepot.Proofs.Session.Conduct
import SimDepot.Proofs.Store.Growth

/-!
# What a run brings about

A condition on SIMs picks out some identities of a store, in ascending order. What a deed gains are
those that it picks out afterwards and not before; `Chronicle.gains` lists what was gained so far,
deed by deed. Where nothing is ever lost, this is what the store has now and had not at first, each
once; where moreover every store goes on where the one before it ended, it is in ascending order.
-/

namespace SimDepot

variable {ι : Type}

/-! ## Identities in order -/

/-- Two ascending lists have the same head when that of the first one is in the second one, and that
of the second one in the first one unless it is larger. -/
theorem head_eq_of_ascending {a b : Int} {A B : List Int} (hA : (a :: A).Pairwise (· < ·))
    (hB : (b :: B).Pairwise (· < ·)) (ha : a ∈ b :: B) (hb : b < a → b ∈ a :: A) : a = b := by
  rw [List.pairwise_cons] at hA hB
  have hle : b ≤ a := by
    rcases List.mem_cons.1 ha with rfl | ha
    · exact Int.le_refl _
    · exact Int.le_of_lt (hB.1 a ha)
  by_contra hne
  have hlt : b < a := by omega
  rcases List.mem_cons.1 (hb hlt) with hba | hb
  · omega
  · have := hA.1 b hb
    omega

/-- One ascending list begins another one when it holds all of it up to some point. -/
theorem isPrefix_iff_of_ascending {A B : List Int} (hA : A.Pairwise (· < ·))
    (hB : B.Pairwise (· < ·)) :
    A <+: B ↔ A ⊆ B ∧ ∀ a ∈ A, ∀ b ∈ B, b < a → b ∈ A := by
  constructor
  · rintro ⟨C, rfl⟩
    refine ⟨List.subset_append_left A C, fun a ha b hb hlt => ?_⟩
    rcases List.mem_append.1 hb with hb | hb
    · exact hb
    · have := (List.pairwise_append.1 hB).2.2 a ha b hb
      omega
  · rintro ⟨hsub, hclosed⟩
    induction A generalizing B with
    | nil => exact List.nil_prefix
    | cons a A ih =>
      cases B with
      | nil => exact absurd (hsub (List.mem_cons_self ..)) (by simp)
      | cons b B =>
        obtain rfl := head_eq_of_ascending hA hB (hsub (List.mem_cons_self ..))
          (hclosed a (List.mem_cons_self ..) b (List.mem_cons_self ..))
        rw [List.pairwise_cons] at hA hB
        rw [List.cons_prefix_cons, and_iff_right rfl]
        refine ih hA.2 hB.2 (fun x hx => ?_) fun x hx y hy hlt => ?_
        · rcases List.mem_cons.1 (hsub (List.mem_cons_of_mem a hx)) with rfl | hx'
          · exact absurd (hA.1 x hx) (by omega)
          · exact hx'
        · rcases List.mem_cons.1 (hclosed x (by simp [hx]) y (by simp [hy]) hlt) with rfl | hy'
          · exact absurd (hB.1 y hy) (by omega)
          · exact hy'

theorem nodup_of_ascending {A : List Int} (hA : A.Pairwise (· < ·)) : A.Nodup :=
  hA.imp Int.ne_of_lt

/-- What an ascending list has beyond its beginning. -/
theorem append_filter_of_isPrefix {A B : List Int} (hB : B.Nodup) (h : A <+: B) :
    A ++ B.filter (fun id => id ∉ A) = B := by
  obtain ⟨C, rfl⟩ := h
  have hapart := (List.nodup_append.1 hB).2.2
  rw [List.filter_append, List.filter_eq_nil_iff.2 (by simp), List.nil_append,
    List.filter_eq_self.2 fun c hc => ?_]
  simpa using fun hcA => hapart c hcA c hc rfl

namespace Store

variable {s s' : Store} {p q : Sim → Bool}

/-- The identities of the SIMs that satisfy a condition, ascending. -/
def idsWhere (s : Store) (p : Sim → Bool) : List SimId := (s.sims.select p).map (·.id)

theorem mem_idsWhere {id : SimId} :
    id ∈ s.idsWhere p ↔ ∃ r ∈ s.sims.rows, p r ∧ r.id = id := by
  simp [idsWhere, Table.select, and_assoc]

/-- A SIM that is stored satisfies a condition when its identity is among those that do. -/
theorem id_mem_idsWhere {r : Sim} (hr : r ∈ s.sims.rows) : r.id ∈ s.idsWhere p ↔ p r := by
  rw [mem_idsWhere]
  constructor
  · rintro ⟨r', hr', hp, hid⟩
    obtain rfl := Table.id_inj hr' hr hid
    exact hp
  · exact fun hp => ⟨r, hr, hp, rfl⟩

theorem pairwise_idsWhere (s : Store) (p : Sim → Bool) : (s.idsWhere p).Pairwise (· < ·) :=
  List.pairwise_map.2 (s.sims.sorted.filter _)

theorem nodup_idsWhere (s : Store) (p : Sim → Bool) : (s.idsWhere p).Nodup :=
  nodup_of_ascending (s.pairwise_idsWhere p)

theorem idsWhere_of_sims_eq (h : s'.sims = s.sims) (p : Sim → Bool) :
    s'.idsWhere p = s.idsWhere p := by
  rw [idsWhere, h, idsWhere]

/-- What a change does to an identity that satisfies a condition. -/
theorem mem_idsWhere_changeSim {id id' : SimId} {change : SimChange} :
    id' ∈ (s.changeSim id change).1.idsWhere p ↔ ∃ r ∈ s.sims.rows, r.id = id' ∧
      p (if r.id = id ∧ change.admits r.toSimData then r.change change else r) := by
  rw [mem_idsWhere, rows_changeSim]
  constructor
  · rintro ⟨_, hmem, hp, hid⟩
    obtain ⟨r, hr, rfl⟩ := List.mem_map.1 hmem
    refine ⟨r, hr, ?_, hp⟩
    rw [← hid]
    split <;> rfl
  · rintro ⟨r, hr, hid, hp⟩
    refine ⟨_, List.mem_map_of_mem hr, hp, ?_⟩
    rw [← hid]
    split <;> rfl

/-- A change that a condition does not look at. -/
theorem idsWhere_changeSim {id : SimId} {change : SimChange}
    (hp : ∀ r : Sim, p (r.change change) = p r) :
    (s.changeSim id change).1.idsWhere p = s.idsWhere p := by
  have hrow : ∀ r : Sim,
      p (if r.id = id ∧ change.admits r.toSimData then r.change change else r) = p r := by
    intro r
    split
    · exact hp r
    · rfl
  show ((s.changeSim id change).1.sims.rows.filter p).map (·.id) =
    (s.sims.rows.filter p).map (·.id)
  rw [rows_changeSim, List.filter_map, List.map_map]
  rw [show (p ∘ fun r : Sim => if r.id = id ∧ change.admits r.toSimData then r.change change
    else r) = p from funext hrow]
  refine List.map_congr_left fun r _ => ?_
  simp only [Function.comp_apply]
  split <;> rfl

/-- New SIMs come last. -/
theorem Grown.idsWhere {new : List Sim} (h : s.Grown s' new) (p : Sim → Bool) :
    s'.idsWhere p = s.idsWhere p ++ (new.filter p).map (·.id) := by
  show (s'.sims.rows.filter p).map (·.id) = _
  rw [h.rows, List.filter_append, List.map_append]
  rfl

end Store

/-! ## Gains -/

/-- The identities that satisfy a condition after a deed and did not before. -/
def Deed.gains (d : Deed ι) (p : Sim → Bool) : List SimId :=
  (d.after.idsWhere p).filter fun id => id ∉ d.before.idsWhere p

namespace Deed

variable {d : Deed ι} {p : Sim → Bool}

theorem mem_gains {id : SimId} :
    id ∈ d.gains p ↔ id ∈ d.after.idsWhere p ∧ id ∉ d.before.idsWhere p := by
  simp [gains]

theorem nodup_gains (d : Deed ι) (p : Sim → Bool) : (d.gains p).Nodup :=
  (d.after.nodup_idsWhere p).filter _

/-- A deed that picks out nothing new gains nothing. -/
theorem gains_eq_nil (h : d.after.idsWhere p ⊆ d.before.idsWhere p) : d.gains p = [] := by
  refine List.filter_eq_nil_iff.2 fun id hid => ?_
  simpa using h hid

end Deed

namespace Chronicle

variable {h : Chronicle ι} {p : Sim → Bool}

/-- The identities that came to satisfy a condition, in the order in which they did. -/
def gains (h : Chronicle ι) (p : Sim → Bool) : List SimId := h.past.flatMap (·.gains p)

/-- Those that session `i` brought about. -/
def gainsOf [DecidableEq ι] (h : Chronicle ι) (i : ι) (p : Sim → Bool) : List SimId :=
  (h.deedsOf i).flatMap (·.gains p)

@[simp] theorem gains_start (s : Store) : (start s : Chronicle ι).gains p = [] := rfl

theorem gains_note (h : Chronicle ι) (i : ι) (turn : Turn) (s : Store) :
    (h.note i turn s).gains p = h.gains p ++ (⟨i, turn, h.store, s⟩ : Deed ι).gains p := by
  simp [gains]

/-- Where every store picks out what the one before it does and then more, the gains are what the
store picks out now, in ascending order. -/
theorem gains_eq_idsWhere {s : Store} (he : (start s).Extends h) (hs : s.idsWhere p = [])
    (hgrow : ∀ d ∈ h.past, d.before.idsWhere p <+: d.after.idsWhere p) :
    h.gains p = h.store.idsWhere p := by
  induction he with
  | refl => exact hs.symm
  | @note h _ i turn s' ih =>
    have hlast : h.store.idsWhere p <+: s'.idsWhere p := hgrow ⟨i, turn, h.store, s'⟩ (by simp)
    rw [gains_note, ih fun d hd => hgrow d (by simp [hd])]
    exact append_filter_of_isPrefix (s'.nodup_idsWhere p) hlast

/-- Where nothing is lost, the gains are what the store picks out now and did not at first. -/
theorem mem_gains_iff {s : Store} (he : (start s).Extends h)
    (hkeep : ∀ d ∈ h.past, d.before.idsWhere p ⊆ d.after.idsWhere p) {id : SimId} :
    id ∈ h.gains p ↔ id ∈ h.store.idsWhere p ∧ id ∉ s.idsWhere p := by
  induction he with
  | refl => simp
  | @note h he i turn s' ih =>
    have hkeep' : ∀ d ∈ h.past, d.before.idsWhere p ⊆ d.after.idsWhere p :=
      fun d hd => hkeep d (by simp [hd])
    have hlast : h.store.idsWhere p ⊆ s'.idsWhere p := hkeep ⟨i, turn, h.store, s'⟩ (by simp)
    have hfirst : s.idsWhere p ⊆ h.store.idsWhere p :=
      he.rel (R := fun a b => a.idsWhere p ⊆ b.idsWhere p) (fun _ => List.Subset.refl _)
        (fun hab hbc _ hid => hbc (hab hid)) hkeep'
    rw [gains_note, List.mem_append, ih hkeep', Deed.mem_gains]
    constructor
    · rintro (⟨hid, hnot⟩ | ⟨hid, hnot⟩)
      · exact ⟨hlast hid, hnot⟩
      · exact ⟨hid, fun hs => hnot (hfirst hs)⟩
    · rintro ⟨hid, hnot⟩
      by_cases hmem : id ∈ h.store.idsWhere p
      · exact .inl ⟨hmem, hnot⟩
      · exact .inr ⟨hid, hmem⟩

/-- Where nothing is lost, nothing is gained twice. -/
theorem nodup_gains {s : Store} (he : (start s).Extends h)
    (hkeep : ∀ d ∈ h.past, d.before.idsWhere p ⊆ d.after.idsWhere p) : (h.gains p).Nodup := by
  induction he with
  | refl => exact List.nodup_nil
  | @note h he i turn s' ih =>
    have hkeep' : ∀ d ∈ h.past, d.before.idsWhere p ⊆ d.after.idsWhere p :=
      fun d hd => hkeep d (by simp [hd])
    rw [gains_note, List.nodup_append]
    refine ⟨ih hkeep', Deed.nodup_gains _ p, fun id hid id' hid' heq => ?_⟩
    subst heq
    exact (Deed.mem_gains.1 hid').2 ((mem_gains_iff he hkeep').1 hid).1

variable [DecidableEq ι] {i j : ι}

theorem gainsOf_note_self (h : Chronicle ι) (i : ι) (turn : Turn) (s : Store) :
    (h.note i turn s).gainsOf i p = h.gainsOf i p ++ (⟨i, turn, h.store, s⟩ : Deed ι).gains p := by
  simp [gainsOf, deedsOf]

/-- A request that changes nothing brings nothing about. -/
theorem gainsOf_note_store (h : Chronicle ι) (i : ι) (turn : Turn) (p : Sim → Bool) :
    (h.note i turn h.store).gainsOf i p = h.gainsOf i p := by
  rw [gainsOf_note_self, Deed.gains_eq_nil (List.Subset.refl _), List.append_nil]

theorem gainsOf_note_of_ne (hj : j ≠ i) (h : Chronicle ι) (turn : Turn) (s : Store) :
    (h.note j turn s).gainsOf i p = h.gainsOf i p := by
  simp [gainsOf, deedsOf, hj]

/-- What a session brought about is among all that came about. -/
theorem gainsOf_subset (h : Chronicle ι) (i : ι) (p : Sim → Bool) : h.gainsOf i p ⊆ h.gains p := by
  intro id hid
  obtain ⟨d, hd, hgain⟩ := List.mem_flatMap.1 hid
  exact List.mem_flatMap.2 ⟨d, (List.mem_filter.1 hd).1, hgain⟩

/-- What was gained once was gained by one session. -/
theorem session_unique (hnodup : (h.gains p).Nodup) {id : SimId} (hi : id ∈ h.gainsOf i p)
    (hj : id ∈ h.gainsOf j p) : i = j := by
  obtain ⟨d, hd, hgain⟩ := List.mem_flatMap.1 hi
  obtain ⟨e, he, hgain'⟩ := List.mem_flatMap.1 hj
  obtain ⟨hd, hdi⟩ := List.mem_filter.1 hd
  obtain ⟨he, hej⟩ := List.mem_filter.1 he
  have hde : d = e := by
    by_contra hne
    have hsymm : Std.Symm (Function.onFun List.Disjoint fun d : Deed ι => d.gains p) :=
      ⟨fun _ _ => List.Disjoint.symm⟩
    exact (List.nodup_flatMap.1 hnodup).2.forall hd he hne hgain hgain'
  rw [decide_eq_true_eq] at hdi hej
  rw [← hdi, ← hej, hde]

/-- The gains are those of all sessions together. -/
theorem length_gains {S : Finset ι} (hS : ∀ d ∈ h.past, d.session ∈ S ∨ d.gains p = []) :
    (h.gains p).length = ∑ i ∈ S, (h.gainsOf i p).length := by
  unfold gains gainsOf deedsOf
  generalize h.past = past at hS
  induction past with
  | nil => simp
  | cons d rest ih =>
    rw [List.flatMap_cons, List.length_append, ih fun e he => hS e (by simp [he])]
    have hsplit : ∀ i, ((List.filter (fun e : Deed ι => e.session = i) (d :: rest)).flatMap
        (·.gains p)).length = (if d.session = i then (d.gains p).length else 0) +
          ((List.filter (fun e : Deed ι => e.session = i) rest).flatMap (·.gains p)).length := by
      intro i
      by_cases hi : d.session = i <;> simp [hi]
    rw [Finset.sum_congr rfl fun i _ => hsplit i, Finset.sum_add_distrib, Finset.sum_ite_eq]
    rcases hS d (by simp) with hmem | hnil
    · rw [if_pos hmem]
    · simp [hnil]

end Chronicle

end SimDepot
