import SimDepot.Document.Basic

/-!
# Canonical documents

Where the order of members means nothing and the last of several members with one key counts, a
mapping is canonical when its keys ascend, each once.
-/

namespace SimDepot.Document

/-- Puts a member into its place, where it replaces a member with the same key. -/
def place (key : Option String) (d : Document) :
    List (Option String × Document) → List (Option String × Document)
  | [] => [(key, d)]
  | m :: rest =>
    if key = m.1 then (key, d) :: rest
    else if key.getD "" < m.1.getD "" then (key, d) :: m :: rest
    else m :: place key d rest

mutual

/-- The document with every mapping in canonical form. -/
def canonical : Document → Document
  | sequence items complete => sequence (canonicalItems items) complete
  | mapping members complete => mapping (canonicalMembers [] members) complete
  | d => d

/-- The documents of a list in canonical form. -/
def canonicalItems : List Document → List Document
  | [] => []
  | d :: rest => canonical d :: canonicalItems rest

/-- Members in canonical form, added to those of `done`. -/
def canonicalMembers (done : List (Option String × Document)) :
    List (Option String × Document) → List (Option String × Document)
  | [] => done
  | (key, d) :: rest => canonicalMembers (place key (canonical d) done) rest

end

end SimDepot.Document
