import SimDepot.Connection.Place
import SimDepot.Proofs.Files.Directories

/-!
# Where the name of a database leads

The name of a database is followed by its parts alone, so it leads to `Target.destination` or nowhere
(`Target.eq_destination_of_place?`); it does lead there if only directories are on the way and it is
not too long (`Target.place?_of_fits`). A database that is not there yet can be made there exactly if
all places above are directories (`Target.opened_eq_ok_iff`).
-/

namespace SimDepot.Connection

open FileTree (OnWay IsProper destination enter leadsToDirectory_iff onWay_of_isProper)

variable {t : FileTree} {start place d : List String} {parts : List String} {part : String}
  {target : Target}

/-! ## Looking places up -/

theorem canLookUp_of_isPrefix (hlook : canLookUp t place) (hd : d <+: place) : canLookUp t d := by
  obtain ⟨rest, rfl⟩ := hd
  rw [canLookUp, FileTree.walk_append] at hlook
  rw [canLookUp]
  cases hwalk : t.walk [] d with
  | ok p => rfl
  | error e =>
    rw [hwalk] at hlook
    exact hlook

/-- What can be looked up is a directory, with all places above it, if none of these places is
anything else. -/
theorem leadsToDirectory_iff_of_canLookUp (hproper : IsProper place) (hlook : canLookUp t place) :
    t.leadsToDirectory [] place ↔ ∀ d, d <+: place → t.isDirectory d := by
  constructor
  · exact fun hleads d hd => (leadsToDirectory_iff.1 hleads).1 d ((onWay_of_isProper hproper).2 hd)
  · intro habove
    rw [canLookUp] at hlook
    rw [FileTree.leadsToDirectory]
    split at hlook
    next p hwalk =>
      rw [hwalk, FileTree.eq_destination_of_walk hwalk, FileTree.destination_of_isProper hproper]
      exact habove place List.prefix_rfl
    next hwalk =>
      obtain ⟨d, hway, hnone⟩ := FileTree.exists_missing_of_walk hwalk
      have hd := habove d ((onWay_of_isProper hproper).1 hway)
      rw [FileTree.isDirectory_iff, hnone] at hd
      cases hd
    · cases hlook

/-- Below directories everything can be looked up that has no part that is too long. -/
theorem canLookUp_of_isDirectory (hproper : IsProper place)
    (hshort : ∀ part ∈ place, part.utf8ByteSize ≤ 255)
    (habove : ∀ d, d <+: place.dropLast → t.isDirectory d) : canLookUp t place := by
  rcases List.eq_nil_or_concat' place with rfl | ⟨above, last, rfl⟩
  · rfl
  · rw [List.dropLast_concat] at habove
    have hleads : t.leadsToDirectory [] above := leadsToDirectory_iff.2
      ⟨fun d hd => habove d ((onWay_of_isProper fun q hq => hproper q (by simp [hq])).1 hd),
        fun q hq => hshort q (by simp [hq])⟩
    rw [canLookUp, FileTree.walk_append, FileTree.walk_of_leadsToDirectory hleads, Except.bind,
      FileTree.walk_cons ((leadsToDirectory_iff.1 hleads).1 _ FileTree.onWay_destination)
        (hshort last (by simp))]
    rfl

theorem canLookUp_start (isAbsolute : Bool) : canLookUp t (FileTree.start isAbsolute) := by
  refine canLookUp_of_isDirectory (FileTree.isProper_start isAbsolute) ?_ fun d hd =>
    FileTree.isDirectory_of_isPrefix_start (hd.trans (List.dropLast_prefix _))
  cases isAbsolute <;> decide

/-! ## Following a name -/

theorem follow_dot : follow t start ("." :: parts) = follow t start parts := by
  rw [follow, if_pos rfl]

theorem follow_up : follow t start (".." :: parts) = follow t start.dropLast parts := by
  rw [follow, if_neg (by decide), if_pos rfl]

theorem follow_down (hdot : part ≠ ".") (hup : part ≠ "..") : follow t start (part :: parts) =
    if longestName < nameLength (start ++ [part]) ∨ !canLookUp t (start ++ [part]) then none
    else follow t (start ++ [part]) parts := by
  rw [follow, if_neg hdot, if_neg hup]

/-- Where a name leads, it leads without detours. -/
theorem eq_destination_of_follow (hlook : canLookUp t start)
    (h : follow t start parts = some place) :
    place = destination start parts ∧ canLookUp t place := by
  induction parts generalizing start with
  | nil =>
    rw [follow] at h
    split at h
    · cases h
    · cases h
      exact ⟨rfl, hlook⟩
  | cons part rest ih =>
    rw [FileTree.destination_cons]
    by_cases hdot : part = "."
    · subst hdot
      rw [follow_dot] at h
      exact ih hlook h
    by_cases hup : part = ".."
    · subst hup
      rw [follow_up] at h
      exact ih (canLookUp_of_isPrefix hlook (List.dropLast_prefix start)) h
    rw [follow_down hdot hup] at h
    split at h
    · cases h
    next hfits =>
      rw [not_or] at hfits
      rw [enter, if_neg hdot, if_neg hup]
      exact ih (by simpa using hfits.2) h

/-- A name leads to its destination if everything on the way can be looked up and is not too far
from the root. -/
theorem follow_of_onWay (hway : ∀ d, OnWay start parts d → nameLength d ≤ longestName ∧ canLookUp t d)
    (hroot : destination start parts ≠ [])
    (hroom : nameLength (destination start parts) + 7 ≤ longestName) :
    follow t start parts = some (destination start parts) := by
  induction parts generalizing start with
  | nil =>
    rw [follow, FileTree.destination_nil, if_neg]
    rw [not_or]
    exact ⟨hroot, Nat.not_lt.2 hroom⟩
  | cons part rest ih =>
    have hrest := ih (fun d hd => hway d (FileTree.onWay_cons.2 (.inr hd))) hroot hroom
    have hnext := hway (enter start part) (FileTree.onWay_cons.2 (.inr ⟨[], List.nil_prefix, rfl⟩))
    rw [FileTree.destination_cons]
    by_cases hdot : part = "."
    · subst hdot
      rw [follow_dot]
      exact hrest
    by_cases hup : part = ".."
    · subst hup
      rw [follow_up]
      exact hrest
    rw [enter, if_neg hdot, if_neg hup] at hrest hnext ⊢
    rw [follow_down hdot hup, if_neg, hrest]
    rw [not_or]
    exact ⟨Nat.not_lt.2 hnext.1, by simpa using hnext.2⟩

namespace Target

/-- The place that the name of a target starts from. -/
def origin (target : Target) : List String := FileTree.start (FileTree.isAbsolute target.file)

/-- The place that the name of a target leads to, if there are no obstacles. -/
def destination (target : Target) : List String :=
  FileTree.destination target.origin (nameParts target.file.toList)

theorem isProper_destination : IsProper target.destination :=
  (FileTree.isProper_start _).destination

theorem eq_destination_of_place? (h : target.place? t = some place) :
    place = target.destination ∧ canLookUp t place :=
  eq_destination_of_follow (canLookUp_start _) h

/-- The name of a target is not too long, and is not that of the root. -/
structure Fits (target : Target) : Prop where
  /-- No part is too long. -/
  parts : ∀ part ∈ nameParts target.file.toList, part.utf8ByteSize ≤ 255
  /-- No place on the way is too far from the root. -/
  way : ∀ d, OnWay target.origin (nameParts target.file.toList) d → nameLength d ≤ longestName
  /-- There is room for the names of the files beside the database. -/
  room : nameLength target.destination + 7 ≤ longestName
  /-- The root is no database. -/
  root : target.destination ≠ []

theorem place?_of_fits (hfits : target.Fits)
    (habove : ∀ place, OnWay target.origin (nameParts target.file.toList) place →
      ∀ d, d <+: place.dropLast → t.isDirectory d) : target.place? t = some target.destination := by
  refine follow_of_onWay (fun d hd => ⟨hfits.way d hd, ?_⟩) hfits.root hfits.room
  refine canLookUp_of_isDirectory ((FileTree.isProper_start _).onWay hd) (fun part hpart => ?_)
    (habove d hd)
  rcases FileTree.mem_of_onWay hd hpart with hmem | hmem
  · have hstart : ∀ isAbsolute, ∀ part ∈ FileTree.start isAbsolute, part.utf8ByteSize ≤ 255 := by
      decide
    exact hstart _ part hmem
  · exact hfits.parts part hmem

/-- A target that may be made and that is not a directory is opened exactly if it is there or all
places above it are directories. -/
theorem opened_eq_ok_iff (hcreate : target.access = .create) (hlasting : target.isTransient = false)
    (hmode : target.modeOf = none) (hplace : target.place? t = some place)
    (hfree : t.node? place ≠ some .directory) :
    (target.opened t).1 = .ok ⟨target, some place⟩ ↔
      (t.node? place).isSome ∨ ∀ d, d <+: place.dropLast → t.isDirectory d := by
  obtain ⟨rfl, hlook⟩ := eq_destination_of_place? hplace
  have hleads := leadsToDirectory_iff_of_canLookUp isProper_destination.dropLast
    (canLookUp_of_isPrefix hlook (List.dropLast_prefix _))
  simp only [opened, hlasting, hplace, hmode, Bool.false_eq_true, if_false, Option.all_none,
    Bool.not_true]
  cases hnode : t.node? target.destination with
  | some node =>
    cases node with
    | file bytes => exact iff_of_true rfl (.inl rfl)
    | directory => exact absurd hnode hfree
  | none =>
    simp only [hcreate, true_and, hleads, Option.isSome_none, Bool.false_eq_true, false_or]
    split
    next h => exact iff_of_true rfl (hleads.1 h.2)
    next h => exact iff_of_false nofun fun habove => h ⟨hcreate, hleads.2 habove⟩

end Target

end SimDepot.Connection
