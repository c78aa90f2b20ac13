import SimDepot.Flow.Basic
import Mathlib.Logic.Function.Basic

/-!
# Sessions on one store

Operations run side by side as sessions. A session makes the requests of its flow one after the
other; between any two of them the other sessions may make theirs. All share one store:

* a command outside of a transaction lasts at once, one inside of it when the transaction commits;
* from its first command to its end a transaction holds the write lock, and a command of another
  session waits until then, or fails;
* a question is answered by what lasts when it is put, be it in a transaction or not, for the holder
  of the lock by what its transaction made of it.

What the store does not decide is left to cues: when a statement fails, what time it is, what a
service answers. A `World` with a list of moves is one run, `World.run` computes where it leads, and
a statement about all runs is one about all lists of moves.
-/

namespace SimDepot

/-- A request and what it was answered with. -/
structure Turn where
  /-- The request. -/
  request : Request
  /-- The answer. -/
  answer : request.Answer

/-- Where a session stands towards the store. -/
inductive Standing
  /-- Outside of transactions. -/
  | outside
  /-- In a transaction that has not written. -/
  | inside
  /-- In a transaction that has written, with the store as it sees it. -/
  | writing (draft : Store)
  /-- The process died. -/
  | gone

namespace Standing

/-- The store as a session sees it. -/
def view : Standing → Store → Store
  | writing draft, _ => draft
  | _, s => s

/-- The session holds the write lock. -/
def isWriting : Standing → Bool
  | writing _ => true
  | _ => false

/-- The process died. -/
def isGone : Standing → Bool
  | gone => true
  | _ => false

/-- The answer to a command, and how it leaves the session and what lasts. -/
def write (st : Standing) (c : Command) (s : Store) :
    Except StoreFailure c.Answer × Standing × Store :=
  match c.exec (st.view s) with
  | .error refusal => (.error (.refused .execution refusal), st, s)
  | .ok (s', a) =>
    match st with
    | outside | gone => (.ok a, st, s')
    | inside | writing _ => (.ok a, writing s', s)

@[simp] theorem view_outside (s : Store) : outside.view s = s := rfl

@[simp] theorem view_inside (s : Store) : inside.view s = s := rfl

@[simp] theorem view_writing (draft s : Store) : (writing draft).view s = draft := rfl

theorem view_of_not_isWriting {st : Standing} (h : st.isWriting = false) (s : Store) :
    st.view s = s := by
  cases st with
  | writing draft => simp [isWriting] at h
  | _ => rfl

end Standing

/-- What is left open when a request is answered. -/
inductive Cue
  /-- The store does what it is asked for, and waiting comes to an end. -/
  | plain
  /-- The statement fails and changes nothing. -/
  | fault (failure : StoreFailure)
  /-- What the clock shows. -/
  | time (t : Timestamp)
  /-- What a registry service answers. -/
  | call (result : Except Error Unit)
  /-- What a vendor service answers. -/
  | release (result : Except Error Release)
  /-- Whether a registry service is well. -/
  | health (well : Bool)

/-- The store fails. -/
def Cue.isFault : Cue → Bool
  | fault _ => true
  | _ => false

/-- The answer to a request of a session, and how it leaves the session and what lasts; nothing
where the cue does not fit the request. -/
def serve : (r : Request) → Cue → Standing → Store → Option (r.Answer × Standing × Store)
  | .read q, .plain, st, s => some (.ok (q.eval (st.view s)), st, s)
  | .write c, .plain, st, s => some (st.write c s)
  | .begin, .plain, _, s => some (.ok (), .inside, s)
  | .commit, .plain, st, s => some (.ok (), .outside, st.view s)
  | .rollback, .plain, _, s => some (.ok (), .outside, s)
  | .read _, .fault failure, st, s => some (.error failure, st, s)
  | .write _, .fault failure, st, s => some (.error failure, st, s)
  | .begin, .fault failure, st, s => some (.error failure, st, s)
  | .commit, .fault failure, st, s => some (.error failure, st, s)
  | .rollback, .fault failure, st, s => some (.error failure, st, s)
  | .abandon, .plain, _, s => some ((), .outside, s)
  | .now, .time t, st, s => some (t, st, s)
  | .pause _, .plain, st, s => some ((), st, s)
  | .activate .., .call result, st, s => some (result, st, s)
  | .suspend .., .call result, st, s => some (result, st, s)
  | .release .., .release result, st, s => some (result, st, s)
  | .probe _, .health well, st, s => some (well, st, s)
  | _, _, _, _ => none

/-- A statement that fails changes nothing. -/
theorem serve_of_isFault {r : Request} {cue : Cue} {st st' : Standing} {s s' : Store} {a : r.Answer}
    (hcue : cue.isFault) (h : serve r cue st s = some (a, st', s')) : st' = st ∧ s' = s := by
  cases cue <;> cases hcue
  cases r <;> cases h <;> exact ⟨rfl, rfl⟩

/-- The request is a command. -/
def Request.isWrite : Request → Bool
  | write _ => true
  | _ => false

/-- A request that a session made: its answer, and what lasted before and after it. -/
structure Deed (ι : Type) where
  /-- The session. -/
  session : ι
  /-- The request and its answer. -/
  turn : Turn
  /-- What lasted before. -/
  before : Store
  /-- What lasted after. -/
  after : Store

/-- What lasts, and how it came about. -/
structure Chronicle (ι : Type) where
  /-- What lasts. -/
  store : Store
  /-- Every request so far, in the order of the answers. -/
  past : List (Deed ι)

namespace Chronicle

variable {ι : Type}

/-- Nothing has happened yet. -/
def start (s : Store) : Chronicle ι := ⟨s, []⟩

/-- Notes a request of session `i` down, after which `s` lasts. -/
def note (h : Chronicle ι) (i : ι) (turn : Turn) (s : Store) : Chronicle ι :=
  ⟨s, h.past ++ [⟨i, turn, h.store, s⟩]⟩

/-- What a session did. -/
def deedsOf [DecidableEq ι] (h : Chronicle ι) (i : ι) : List (Deed ι) :=
  h.past.filter fun d => d.session = i

/-- The requests of a session with their answers. -/
def turnsOf [DecidableEq ι] (h : Chronicle ι) (i : ι) : List Turn := (h.deedsOf i).map (·.turn)

@[simp] theorem store_start (s : Store) : (start s : Chronicle ι).store = s := rfl

@[simp] theorem past_start (s : Store) : (start s : Chronicle ι).past = [] := rfl

@[simp] theorem store_note (h : Chronicle ι) (i : ι) (turn : Turn) (s : Store) :
    (h.note i turn s).store = s := rfl

@[simp] theorem past_note (h : Chronicle ι) (i : ι) (turn : Turn) (s : Store) :
    (h.note i turn s).past = h.past ++ [⟨i, turn, h.store, s⟩] := rfl

theorem deedsOf_note_self [DecidableEq ι] (h : Chronicle ι) (i : ι) (turn : Turn) (s : Store) :
    (h.note i turn s).deedsOf i = h.deedsOf i ++ [⟨i, turn, h.store, s⟩] := by
  simp [deedsOf]

@[simp] theorem turnsOf_note_self [DecidableEq ι] (h : Chronicle ι) (i : ι) (turn : Turn)
    (s : Store) : (h.note i turn s).turnsOf i = h.turnsOf i ++ [turn] := by
  simp [turnsOf, deedsOf]

theorem turnsOf_note_of_ne [DecidableEq ι] {i j : ι} (hj : j ≠ i) (h : Chronicle ι) (turn : Turn)
    (s : Store) : (h.note j turn s).turnsOf i = h.turnsOf i := by
  simp [turnsOf, deedsOf, hj]

end Chronicle

/-- Sessions on a store; what is left to do for session `i` has a result of type `α i`. -/
structure World {ι : Type} (α : ι → Type) extends Chronicle ι where
  /-- Where each session stands. -/
  standing : ι → Standing
  /-- The session that holds the write lock. -/
  writer : Option ι
  /-- What is left to do for each session. -/
  rest : (i : ι) → Flow (α i)

/-- What can happen next. -/
inductive Move (ι : Type)
  /-- The next request of a session is answered. -/
  | turn (i : ι) (cue : Cue)
  /-- The process of a session dies, and with it the transaction it is in. -/
  | death (i : ι)

namespace Move

variable {ι : Type}

/-- The store fails. -/
def isFault : Move ι → Bool
  | turn _ cue => cue.isFault
  | death _ => false

/-- Nothing goes wrong: the store does not fail and no process dies. -/
def isSmooth : Move ι → Bool
  | turn _ cue => !cue.isFault
  | death _ => false

theorem not_isFault_of_isSmooth {m : Move ι} (h : m.isSmooth) : m.isFault = false := by
  cases m with
  | turn i cue => simpa [isSmooth, isFault] using h
  | death i => rfl

end Move

namespace World

variable {ι : Type} {α : ι → Type}

/-- Sessions that have done nothing yet. -/
def start (s : Store) (x : (i : ι) → Flow (α i)) : World α :=
  { toChronicle := .start s, standing := fun _ => .outside, writer := none, rest := x }

variable [DecidableEq ι]

/-- The world when a request of session `i` was answered. -/
def proceed (w : World α) (i : ι) (turn : Turn) (st : Standing) (s : Store) (x : Flow (α i)) :
    World α where
  toChronicle := w.toChronicle.note i turn s
  standing := Function.update w.standing i st
  writer := if st.isWriting then some i else if w.writer = some i then none else w.writer
  rest := Function.update w.rest i x

/-- The world when the process of session `i` died. -/
def bury (w : World α) (i : ι) : World α :=
  { w with
    standing := Function.update w.standing i .gone
    writer := if w.writer = some i then none else w.writer }

/-- Another session holds the write lock. -/
def isLockedFor (w : World α) (i : ι) : Bool := w.writer.isSome && w.writer != some i

/-- The world after a move; nothing where the move cannot happen. -/
def step (w : World α) : Move ι → Option (World α)
  | .death i => some (w.bury i)
  | .turn i cue =>
    match w.rest i with
    | .done _ => none
    | .ask r k =>
      if (w.standing i).isGone || (r.isWrite && w.isLockedFor i && !cue.isFault) then none
      else (serve r cue (w.standing i) w.store).map fun (a, st, s) =>
        w.proceed i ⟨r, a⟩ st s (k a)

/-- The world after moves, in order. -/
def run (w : World α) : List (Move ι) → Option (World α)
  | [] => some w
  | m :: rest => (w.step m).bind fun w => w.run rest

/-- A session makes a move only while it is alive and has something left to do, and while another
one holds the lock its commands can only fail. -/
theorem step_turn {w w' : World α} {i : ι} {cue : Cue} (h : w.step (.turn i cue) = some w') :
    ∃ r k a st s, w.rest i = .ask r k ∧ (w.standing i).isGone = false ∧
      (r.isWrite → w.isLockedFor i → cue.isFault) ∧
      serve r cue (w.standing i) w.store = some (a, st, s) ∧
      w' = w.proceed i ⟨r, a⟩ st s (k a) := by
  simp only [step] at h
  split at h
  · cases h
  next r k hrest =>
    split at h
    · cases h
    next hfree =>
      simp only [Bool.or_eq_true, Bool.and_eq_true, not_or, not_and, Bool.not_eq_true,
        Bool.not_eq_eq_eq_not, Bool.not_true, Bool.not_eq_false, and_imp] at hfree
      obtain ⟨⟨a, st, s⟩, hserve, rfl⟩ := Option.map_eq_some_iff.1 h
      exact ⟨r, k, a, st, s, hrest, hfree.1, hfree.2, hserve, rfl⟩

theorem run_cons {w w' : World α} {m : Move ι} {rest : List (Move ι)}
    (h : w.run (m :: rest) = some w') : ∃ w₁, w.step m = some w₁ ∧ w₁.run rest = some w' :=
  Option.bind_eq_some_iff.1 h

/-- A run and a run from where it led are a run. -/
theorem run_append {w w₁ w₂ : World α} {early late : List (Move ι)}
    (hearly : w.run early = some w₁) (hlate : w₁.run late = some w₂) :
    w.run (early ++ late) = some w₂ := by
  induction early generalizing w with
  | nil =>
    cases hearly
    exact hlate
  | cons m rest ih =>
    obtain ⟨v, hstep, hrest⟩ := run_cons hearly
    exact Option.bind_eq_some_iff.2 ⟨v, hstep, ih hrest⟩

/-- What every move keeps that satisfies `A`, a run of such moves keeps. -/
theorem run_induction {P : World α → Prop} {A : Move ι → Prop}
    (hstep : ∀ w m w', P w → A m → w.step m = some w' → P w') {w w' : World α}
    {moves : List (Move ι)} (hw : P w) (hok : ∀ m ∈ moves, A m) (hrun : w.run moves = some w') :
    P w' := by
  induction moves generalizing w with
  | nil =>
    cases hrun
    exact hw
  | cons m rest ih =>
    obtain ⟨w₁, h₁, hrest⟩ := run_cons hrun
    exact ih (hstep w m w₁ hw (hok m (by simp)) h₁) (fun m' hm' => hok m' (by simp [hm'])) hrest

end World

end SimDepot
