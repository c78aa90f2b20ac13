import SimDepot.Connection.Companion
import SimDepot.DatabaseFile.Schema

/-!
# Making the tables

Tables and the index of pools are made where they are missing. What has the name of a table may be a
table or a view, which are left alone, but no index. Whether a database can be written shows only
when something is missing.

Reference: `create_tables`.
-/

namespace SimDepot.Connection

open DatabaseFile (Header Item relation?)

/-- The tables, in the order in which they are made. -/
def tableNames : List String :=
  ["registries", "profile_vendors", "vendor_registry_permissions", "import_batches",
    "sim_resources"]

/-- The table that has an index of pools. -/
def pooledTable : String := "sim_resources"

/-- The name of the index of pools. -/
def poolIndexName : String := "idx_sim_resources_pool"

/-- An index has this name. -/
def hasIndex (found : List Item) (name : String) : Bool :=
  found.any fun i => i.name == name && i.kind == .index

/-- What has to be there. -/
inductive Wanted
  /-- A table. -/
  | table (name : String)
  /-- The index of pools. -/
  | poolIndex
  deriving DecidableEq, Repr

/-- Everything that has to be there, in the order in which it is made. -/
def wanted : List Wanted := tableNames.map .table ++ [.poolIndex]

/-- Something is missing; or it cannot be made beside what is there. -/
def Wanted.isMissing (found : List Item) : Wanted → Except Refusal Bool
  | table name =>
    if (relation? found name).isSome then .ok false
    else if hasIndex found name then
      .error (.other 1 ("there is already an index named " ++ name))
    else .ok true
  | poolIndex =>
    let pooled := (relation? found pooledTable).map Item.kind
    if pooled = some .view then .error (.other 1 "views may not be indexed")
    else if pooled = some .virtualTable then
      .error (.other 1 "virtual tables may not be indexed")
    else if (relation? found poolIndexName).isSome then
      .error (.other 1 ("there is already a table named " ++ poolIndexName))
    else .ok !hasIndex found poolIndexName

/-- The index of pools is filled from a table that is there already; the topmost page of the table
has to be a page of some tree. -/
def Wanted.canFill (f : DatabaseFile) (h : Header) (found : List Item) : Wanted → Bool
  | table _ => true
  | poolIndex => (relation? found pooledTable).all fun i =>
    DatabaseFile.pageKinds.contains (f.byte (DatabaseFile.pageHeader h i.page))

/-- A database whose file has been read. -/
structure Reading where
  /-- The bytes of the file. -/
  file : DatabaseFile
  /-- What its header says. -/
  header : Header
  /-- What it holds. -/
  found : List Item
  deriving DecidableEq

namespace Reading

/-- Reads the file of a database. -/
def ofFile? (file : DatabaseFile) : Except Refusal Reading := do
  let header ← Header.ofFile? file
  return { file, header, found := ← file.items header }

/-- A change can begin: the database may be written, and there are pages that are not free. -/
def begin (r : Reading) (isReadOnly : Bool) : Except Refusal Unit :=
  let h := r.header
  if isReadOnly ∨ !h.isWritable then .error .readOnly
  else if h.freePages ≠ 0 ∧ h.pages ≤ h.freePages ∨ h.pages < h.lastTop then .error .malformed
  else .ok ()

/-- Something can be added to what the database holds. -/
def hasRoom (r : Reading) : Bool :=
  let h := r.header
  r.file.hasSoundFreePages h && r.file.canMoveTop h &&
    (h.pages == 0 || (r.file.lastPages h 1 DatabaseFile.maxDepth).all (r.file.hasSoundSpace h))

/-- Makes what is wanted and missing; `canChange` is what stands against a change at all. Tells also
whether a change was begun. -/
def make (r : Reading) (canChange : Except Refusal Unit) (begun : Bool) :
    List Wanted → Except Refusal Unit × Bool
  | [] => (.ok (), begun)
  | w :: rest =>
    match w.isMissing r.found with
    | .error e => (.error e, begun)
    | .ok false => r.make canChange begun rest
    | .ok true =>
      match canChange with
      | .error e => (.error e, begun)
      | .ok () =>
        if r.hasRoom && w.canFill r.file r.header r.found then r.make canChange true rest
        else (.error .malformed, true)

end Reading

end SimDepot.Connection
