import SimDepot.Flow.Action

/-!
# Taking SIMs in

Many SIMs are stored in one transaction, two hundred to a command. Either all of them are stored or
none is.

Reference: `insert_all`.
-/

namespace SimDepot.Stock

open SimDepot.Action

/-- The number of SIMs that one command stores. -/
def chunkSize : Nat := 200

/-- A list cut into pieces of `size` items, the last one perhaps shorter; `size` is not zero. -/
def chunks {α : Type} (size : Nat) (hsize : 0 < size) (items : List α) : List (List α) :=
  if _h : items = [] then []
  else items.take size :: chunks size hsize (items.drop size)
termination_by items.length
decreasing_by
  have := List.length_pos_iff.2 _h
  simp only [List.length_drop]
  omega

/-- The pieces of a list are the list. -/
theorem flatten_chunks {α : Type} (size : Nat) (hsize : 0 < size) (items : List α) :
    (chunks size hsize items).flatten = items := by
  fun_induction chunks size hsize items with
  | case1 => rfl
  | case2 items h ih => simp [ih]

/-- Stores SIMs and returns their number. -/
def insertAll (drafts : List SimDraft) : Action Nat :=
  if drafts = [] then return 0
  else inTransaction do
    (chunks chunkSize (by decide) drafts).forM fun chunk =>
      writeOr (.ofInsertion .sim) (.addSims chunk)
    commit
    return drafts.length

end SimDepot.Stock
