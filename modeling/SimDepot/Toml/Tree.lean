import SimDepot.Document.Basic

/-!
# Trees of tables

A TOML text builds a tree of tables line by line. A table comes into being under its own header, or
because a longer header or a dotted key leads through it. One that came into being on the way may
get its own header later, once; one that a dotted key made may not, and no table gets members from a
dotted key after its header was closed.

Members stay in the order in which they were added. A table that gets its header late goes to the
end.
-/

namespace SimDepot.Toml

/-- A member of a table. -/
inductive Item
  /-- A value. -/
  | value (d : Document)
  /-- A table; `implicit` until it has a header, and `dotted` if a dotted key made it. -/
  | table (implicit dotted : Bool) (members : List (String × Item))
  /-- An array of tables. -/
  | tables (items : List (List (String × Item)))

/-- The members of a table. -/
abbrev Members := List (String × Item)

/-- Puts an item in the place of the one with the same key. -/
def replace (key : String) (item : Item) (members : Members) : Members :=
  members.map fun m => if m.1 == key then (key, item) else m

/-- Follows a path through tables, makes those that are missing, and applies `leaf` to the last one,
which is told whether a dotted key made the table. `byDots` tells that the path itself is a dotted
key. There is no way through a value, nor for a dotted key through a table with a header. -/
def descend {β : Type} (byDots : Bool) (leaf : Bool → Members → Option (Members × β)) :
    List String → Bool → Members → Option (Members × β)
  | [], dotted, members => leaf dotted members
  | key :: path, _, members =>
    match members.lookup key with
    | none => do
      let (sub, b) ← descend byDots leaf path byDots []
      return (members ++ [(key, .table true byDots sub)], b)
    | some (.value _) => none
    | some (.tables items) => do
      -- A header below an array of tables speaks of the last of them.
      let (sub, b) ← descend byDots leaf path false (← items.getLast?)
      return (replace key (.tables (items.dropLast ++ [sub])) members, b)
    | some (.table implicit dotted sub) =>
      if byDots && !implicit then none
      else do
        let (sub, b) ← descend byDots leaf path dotted sub
        return (replace key (.table implicit dotted sub) members, b)

/-- Adds a value under a dotted key, of which `path` is all but the last part. -/
def addValue (path : List String) (key : String) (d : Document) (members : Members) :
    Option Members := do
  let leaf (dotted : Bool) (members : Members) : Option (Members × Unit) :=
    -- A dotted key adds only to tables that dotted keys made, a plain key only to the others.
    if dotted == path.isEmpty || (members.lookup key).isSome then none
    else some (members ++ [(key, .value d)], ())
  let (members, ()) ← descend true leaf path false members
  return members

/-- Where members are added. -/
inductive Place
  /-- To the outermost table. -/
  | root
  /-- To the table with this header. -/
  | table (path : List String) (key : String)
  /-- To the last table of the array with this header. -/
  | tables (path : List String) (key : String)
  deriving DecidableEq, Repr

/-- A tree in the making: the tables that are closed, and the one that members are added to. -/
structure Building where
  /-- The outermost table. -/
  root : Members
  /-- Where members are added. -/
  place : Place
  /-- The members added so far. -/
  members : Members

namespace Building

/-- Nothing has been read. -/
def start : Building := ⟨[], .root, []⟩

/-- Closes the table that members are added to, and returns the outermost one. -/
def close (b : Building) : Option Members :=
  match b.place with
  | .root => some b.members
  | .table path key => do
    let leaf (_ : Bool) (members : Members) : Option (Members × Unit) :=
      match members.lookup key with
      | none => some (members ++ [(key, .table false false b.members)], ())
      | some (.table true _ _) => some (replace key (.table false false b.members) members, ())
      | some _ => none
    let (root, ()) ← descend false leaf path false b.root
    return root
  | .tables path key => do
    let leaf (_ : Bool) (members : Members) : Option (Members × Unit) :=
      match members.lookup key with
      | none => some (members ++ [(key, .tables [b.members])], ())
      | some (.tables items) => some (replace key (.tables (items ++ [b.members])) members, ())
      | some _ => none
    let (root, ()) ← descend false leaf path false b.root
    return root

/-- Opens the table with a header. If it came into being on the way of another header, it keeps the
members it has. -/
def openTable (b : Building) (path : List String) (key : String) : Option Building := do
  let leaf (_ : Bool) (members : Members) : Option (Members × Members) :=
    match members.lookup key with
    | none => some (members, [])
    -- It comes back when it is closed, at the end.
    | some (.table true false sub) => some (members.filter (·.1 != key), sub)
    | some _ => none
  let (root, members) ← descend false leaf path false (← b.close)
  return ⟨root, .table path key, members⟩

/-- Opens a new table of the array with a header. -/
def openTables (b : Building) (path : List String) (key : String) : Option Building := do
  let leaf (_ : Bool) (members : Members) : Option (Members × Unit) :=
    match members.lookup key with
    | none => some (members ++ [(key, .tables [])], ())
    | some (.tables _) => some (members, ())
    | some _ => none
  let (root, ()) ← descend false leaf path false (← b.close)
  return ⟨root, .tables path key, []⟩

/-- Adds a value under a dotted key. -/
def add (b : Building) (path : List String) (key : String) (d : Document) : Option Building := do
  return { b with members := ← addValue path key d b.members }

end Building

/-! ## Documents -/

mutual

/-- The document of an item. -/
def Item.document : Item → Document
  | .value d => d
  | .table _ _ members => .mapping (memberDocuments members) true
  | .tables items => .sequence (tableDocuments items) true

/-- The documents of members. -/
def memberDocuments : List (String × Item) → List (Option String × Document)
  | [] => []
  | (key, item) :: rest => (some key, item.document) :: memberDocuments rest

/-- The documents of the tables of an array. -/
def tableDocuments : List (List (String × Item)) → List Document
  | [] => []
  | members :: rest => .mapping (memberDocuments members) true :: tableDocuments rest

end

end SimDepot.Toml
