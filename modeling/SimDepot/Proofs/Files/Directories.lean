import Mathlib.Data.List.Basic
import Mathlib.Data.List.Induction
import SimDepot.Files.Tree

/-!
# Making directories

What making a directory and all that are missing above it does to a tree: afterwards every place that
its name passes is a directory, and nothing else has changed (`FileTree.Prepared`). It may fail for
what is in the way, but never because something is missing.
-/

namespace SimDepot.FileTree

variable {t t₁ t' : FileTree} {start place d : List String} {parts rest : List String}
  {part last : String} {node : FileNode}

/-! ## What is where -/

theorem isDirectory_iff : t.isDirectory d ↔ t.node? d = some .directory := beq_iff_eq

theorem isDirectory_of_isPrefix_home (h : d <+: home) : t.isDirectory d := by
  rw [isDirectory_iff, node?, if_pos (List.isPrefixOf_iff_prefix.2 h)]

theorem lookup_filter_of_ne {nodes : List (List String × FileNode)} (h : d ≠ place) :
    (nodes.filter (·.1 != place)).lookup d = nodes.lookup d := by
  induction nodes with
  | nil => rfl
  | cons entry rest ih =>
    obtain ⟨q, node⟩ := entry
    by_cases hq : q = place
    · subst hq
      rw [List.filter_cons_of_neg (by simp), ih, List.lookup_cons, beq_eq_false_iff_ne.2 h]
    · rw [List.filter_cons_of_pos (by simpa using hq), List.lookup_cons, List.lookup_cons, ih]

/-- Where nothing was, there is what was put there; everything else is as it was. -/
theorem node?_set (hfree : t.node? place = none) :
    (t.set place node).node? d = if d = place then some node else t.node? d := by
  have hplace : ¬ place.isPrefixOf home := fun h => by
    rw [node?, if_pos h] at hfree
    cases hfree
  by_cases hd : d = place
  · subst hd
    rw [if_pos rfl, node?, if_neg hplace, set, List.lookup_cons_self]
  · rw [if_neg hd, node?, node?]
    split
    · rfl
    · rw [set, List.lookup_cons, beq_eq_false_iff_ne.2 hd]
      exact lookup_filter_of_ne hd

/-! ## The way of a name -/

/-- The place that the parts of a name lead to, if there are no obstacles. -/
def destination (place : List String) (parts : List String) : List String := parts.foldl enter place

/-- The parts of a name lead through a place, or to it. -/
def OnWay (start parts place : List String) : Prop :=
  ∃ front, front <+: parts ∧ destination start front = place

@[simp] theorem destination_nil : destination place [] = place := rfl

@[simp] theorem destination_cons :
    destination place (part :: rest) = destination (enter place part) rest := rfl

@[simp] theorem destination_concat :
    destination place (parts ++ [last]) = enter (destination place parts) last := by
  simp [destination]

theorem onWay_nil : OnWay start [] d ↔ start = d := by
  simp [OnWay]

theorem onWay_cons : OnWay start (part :: rest) d ↔ start = d ∨ OnWay (enter start part) rest d := by
  simp only [OnWay, List.prefix_cons_iff]
  constructor
  · rintro ⟨front, rfl | ⟨front, rfl, hfront⟩, h⟩
    · exact .inl h
    · exact .inr ⟨front, hfront, h⟩
  · rintro (h | ⟨front, hfront, h⟩)
    · exact ⟨[], .inl rfl, h⟩
    · exact ⟨part :: front, .inr ⟨front, rfl, hfront⟩, h⟩

theorem OnWay.mono {more : List String} (h : OnWay start parts d) (hmore : parts <+: more) :
    OnWay start more d := by
  obtain ⟨front, hfront, h⟩ := h
  exact ⟨front, hfront.trans hmore, h⟩

theorem onWay_destination : OnWay start parts (destination start parts) :=
  ⟨parts, List.prefix_rfl, rfl⟩

/-- A part of a name leads to a place in the same directory, up, or nowhere else. -/
theorem dropLast_enter_isPrefix (place : List String) (part : String) :
    (enter place part).dropLast <+: place := by
  unfold enter
  split
  · exact List.dropLast_prefix place
  · split
    · exact (List.dropLast_prefix _).trans (List.dropLast_prefix place)
    · simp only [List.dropLast_concat, List.prefix_rfl]

/-- A part `.` leads nowhere else. -/
theorem onWay_filter_dots : OnWay start (parts.filter (· ≠ ".")) d ↔ OnWay start parts d := by
  induction parts generalizing start with
  | nil => rfl
  | cons part rest ih =>
    by_cases hdot : part = "."
    · subst hdot
      rw [List.filter_cons_of_neg (by simp), ih, onWay_cons, enter, if_pos rfl]
      exact ⟨.inr, fun h => h.elim (fun h => ⟨[], List.nil_prefix, h⟩) id⟩
    · rw [List.filter_cons_of_pos (by simpa using hdot), onWay_cons, onWay_cons, ih]

theorem onWay_concat : OnWay start (parts ++ [last]) d ↔
    OnWay start parts d ∨ enter (destination start parts) last = d := by
  simp only [OnWay, List.prefix_concat_iff]
  constructor
  · rintro ⟨front, rfl | hfront, h⟩
    · exact .inr (destination_concat.symm.trans h)
    · exact .inl ⟨front, hfront, h⟩
  · rintro (⟨front, hfront, h⟩ | h)
    · exact ⟨front, .inr hfront, h⟩
    · exact ⟨parts ++ [last], .inl rfl, destination_concat.trans h⟩

/-! ## Places that are written without detours -/

/-- No part of the place stands for another place. -/
def IsProper (place : List String) : Prop := ∀ part ∈ place, part ≠ "." ∧ part ≠ ".."

theorem IsProper.dropLast (h : IsProper place) : IsProper place.dropLast := fun part hpart =>
  h part (List.dropLast_subset place hpart)

theorem IsProper.enter (h : IsProper place) : IsProper (enter place part) := by
  unfold FileTree.enter
  split
  · exact h
  next hdot =>
    split
    · exact h.dropLast
    next hup =>
      intro q hq
      rcases List.mem_append.1 hq with hq | hq
      · exact h q hq
      · obtain rfl := List.mem_singleton.1 hq
        exact ⟨hdot, hup⟩

theorem IsProper.destination (h : IsProper start) : IsProper (destination start parts) := by
  induction parts generalizing start with
  | nil => exact h
  | cons part rest ih => exact ih h.enter

theorem IsProper.onWay (h : IsProper start) (hd : OnWay start parts d) : IsProper d := by
  obtain ⟨front, -, rfl⟩ := hd
  exact h.destination

theorem destination_of_isProper (h : IsProper parts) : destination place parts = place ++ parts := by
  induction parts generalizing place with
  | nil => simp
  | cons part rest ih =>
    obtain ⟨⟨hdot, hup⟩, hrest⟩ := List.forall_mem_cons.1 h
    rw [destination_cons, ih hrest, enter, if_neg hdot, if_neg hup, List.append_assoc,
      List.singleton_append]

/-- The way from the root to a place leads through the places above it. -/
theorem onWay_of_isProper (h : IsProper place) : OnWay [] place d ↔ d <+: place := by
  have hfront : ∀ front, front <+: place → destination [] front = front := fun front hfront =>
    destination_of_isProper fun part hpart => h part (hfront.subset hpart)
  constructor
  · rintro ⟨front, hprefix, rfl⟩
    rwa [hfront front hprefix]
  · exact fun hd => ⟨d, hd, hfront d hd⟩

/-- The parts of a place on the way are those of the start and of the name. -/
theorem mem_of_onWay (hd : OnWay start parts d) (hpart : part ∈ d) : part ∈ start ∨ part ∈ parts := by
  induction parts generalizing start with
  | nil => exact .inl (onWay_nil.1 hd ▸ hpart)
  | cons first rest ih =>
    rcases onWay_cons.1 hd with rfl | hd
    · exact .inl hpart
    · rcases ih hd with hmem | hmem
      · unfold enter at hmem
        split at hmem
        · exact .inl hmem
        · split at hmem
          · exact .inl (List.dropLast_subset start hmem)
          · exact (List.mem_append.1 hmem).imp_right fun h =>
              List.mem_cons.2 (.inl (List.mem_singleton.1 h))
      · exact .inr (List.mem_cons_of_mem _ hmem)

theorem isProper_start (isAbsolute : Bool) : IsProper (FileTree.start isAbsolute) := by
  cases isAbsolute
  · show ∀ part ∈ home, part ≠ "." ∧ part ≠ ".."
    decide
  · nofun

/-- The start of a name and all places above it are directories. -/
theorem isDirectory_of_isPrefix_start {isAbsolute : Bool} (h : d <+: FileTree.start isAbsolute) :
    t.isDirectory d := by
  refine isDirectory_of_isPrefix_home (h.trans ?_)
  cases isAbsolute
  · exact List.prefix_rfl
  · exact List.nil_prefix

/-! ## Following a name -/

theorem walk_append : t.walk start (parts ++ rest) =
    (t.walk start parts).bind fun place => t.walk place rest := by
  induction parts generalizing start with
  | nil => rfl
  | cons part parts ih =>
    rw [List.cons_append, walk, walk]
    split
    · rfl
    · rfl
    · split
      · rfl
      · exact ih

theorem walk_cons (hstart : t.isDirectory start) (hpart : part.utf8ByteSize ≤ 255) :
    t.walk start (part :: rest) = t.walk (enter start part) rest := by
  rw [walk, isDirectory_iff.1 hstart]
  exact if_neg (Nat.not_lt.2 hpart)

/-- Where a name leads, it leads without detours. -/
theorem eq_destination_of_walk (h : t.walk start parts = .ok place) :
    place = destination start parts := by
  induction parts generalizing start with
  | nil =>
    cases h
    rfl
  | cons part rest ih =>
    rw [walk] at h
    split at h
    · cases h
    · cases h
    · split at h
      · cases h
      · exact ih h

/-- Where following a name stops because something is missing, it is missing on the way. -/
theorem exists_missing_of_walk (h : t.walk start parts = .error .notFound) :
    ∃ d, OnWay start parts d ∧ t.node? d = none := by
  induction parts generalizing start with
  | nil => cases h
  | cons part rest ih =>
    rw [walk] at h
    split at h
    next hnode => exact ⟨start, onWay_cons.2 (.inl rfl), hnode⟩
    · cases h
    · split at h
      · cases h
      · obtain ⟨d, hd, hnode⟩ := ih h
        exact ⟨d, onWay_cons.2 (.inr hd), hnode⟩

theorem leadsToDirectory_cons : t.leadsToDirectory start (part :: rest) ↔
    t.isDirectory start ∧ part.utf8ByteSize ≤ 255 ∧ t.leadsToDirectory (enter start part) rest := by
  by_cases hstart : t.isDirectory start
  · by_cases hpart : part.utf8ByteSize ≤ 255
    · rw [leadsToDirectory, walk_cons hstart hpart, ← leadsToDirectory]
      simp [hstart, hpart]
    · rw [leadsToDirectory, walk, isDirectory_iff.1 hstart]
      simp [hpart, Nat.lt_of_not_le hpart]
  · refine iff_of_false (fun hleads => ?_) fun h => hstart h.1
    rw [leadsToDirectory, walk] at hleads
    cases hnode : t.node? start with
    | none => simp [hnode] at hleads
    | some node =>
      cases node with
      | file bytes => simp [hnode] at hleads
      | directory => exact hstart (isDirectory_iff.2 hnode)

/-- The parts of a name lead to a directory exactly if every place on their way is one and none of
them is too long. -/
theorem leadsToDirectory_iff : t.leadsToDirectory start parts ↔
    (∀ d, OnWay start parts d → t.isDirectory d) ∧ ∀ part ∈ parts, part.utf8ByteSize ≤ 255 := by
  induction parts generalizing start with
  | nil => simp [onWay_nil, leadsToDirectory, walk]
  | cons part rest ih =>
    rw [leadsToDirectory_cons, ih]
    simp only [onWay_cons, List.forall_mem_cons]
    constructor
    · rintro ⟨hstart, hpart, hway, hrest⟩
      exact ⟨fun d hd => hd.elim (fun h => h ▸ hstart) (hway d), hpart, hrest⟩
    · rintro ⟨hway, hpart, hrest⟩
      exact ⟨hway start (.inl rfl), hpart, fun d hd => hway d (.inr hd), hrest⟩

theorem leadsToDirectory_concat : t.leadsToDirectory start (parts ++ [last]) ↔
    t.leadsToDirectory start parts ∧ last.utf8ByteSize ≤ 255 ∧
      t.isDirectory (enter (destination start parts) last) := by
  induction parts generalizing start with
  | nil =>
    rw [List.nil_append, leadsToDirectory_cons]
    simp [leadsToDirectory, walk]
  | cons part rest ih =>
    rw [List.cons_append, leadsToDirectory_cons, leadsToDirectory_cons, ih, destination_cons]
    simp only [and_assoc]

theorem walk_of_leadsToDirectory (h : t.leadsToDirectory start parts) :
    t.walk start parts = .ok (destination start parts) := by
  rw [leadsToDirectory] at h
  cases hwalk : t.walk start parts with
  | error e =>
    rw [hwalk] at h
    cases h
  | ok place => rw [eq_destination_of_walk hwalk]

/-- A place above another one is that one, or above the directory it is in. -/
theorem eq_or_isPrefix_dropLast (hd : d <+: place) : d = place ∨ d <+: place.dropLast := by
  rcases List.eq_nil_or_concat' place with rfl | ⟨above, last, rfl⟩
  · exact .inl (List.prefix_nil.1 hd)
  · rw [List.dropLast_concat]
    exact List.prefix_concat_iff.1 hd

/-- Above a place that a name leads through there are only directories, if there are only such above
the place where it starts. -/
theorem isDirectory_above (hstart : ∀ d, d <+: start → t.isDirectory d)
    (hleads : t.leadsToDirectory start parts) (hd : d <+: destination start parts) :
    t.isDirectory d := by
  induction parts generalizing start with
  | nil => exact hstart d hd
  | cons part rest ih =>
    obtain ⟨-, -, hrest⟩ := leadsToDirectory_cons.1 hleads
    refine ih (fun d hd => ?_) hrest hd
    have hnext : t.isDirectory (enter start part) := (leadsToDirectory_iff.1 hrest).1 _
      ⟨[], List.nil_prefix, rfl⟩
    rcases eq_or_isPrefix_dropLast hd with rfl | hd
    · exact hnext
    · exact hstart d (hd.trans (dropLast_enter_isPrefix start part))

theorem leadsToDirectory_of_isPrefix {front : List String} (h : t.leadsToDirectory start parts)
    (hfront : front <+: parts) : t.leadsToDirectory start front := by
  rw [leadsToDirectory_iff] at h ⊢
  exact ⟨fun d hd => h.1 d (hd.mono hfront), fun part hpart => h.2 part (hfront.subset hpart)⟩

/-- Where all of a name but its last part leads to a directory, there are only directories above every
place on its way. -/
theorem isDirectory_above_onWay (hstart : ∀ d, d <+: start → t.isDirectory d)
    (hleads : t.leadsToDirectory start parts.dropLast) (hplace : OnWay start parts place)
    (hd : d <+: place.dropLast) : t.isDirectory d := by
  rcases List.eq_nil_or_concat' parts with rfl | ⟨above, last, rfl⟩
  · obtain rfl := onWay_nil.1 hplace
    exact hstart d (hd.trans (List.dropLast_prefix _))
  · rw [List.dropLast_concat] at hleads
    rcases onWay_concat.1 hplace with ⟨front, hfront, rfl⟩ | rfl
    · exact isDirectory_above hstart (leadsToDirectory_of_isPrefix hleads hfront)
        (hd.trans (List.dropLast_prefix _))
    · exact isDirectory_above hstart hleads (hd.trans (dropLast_enter_isPrefix _ _))

/-! ## Making directories -/

/-- The places on the way of a name are directories now, and everything else is as it was. -/
structure Prepared (t t' : FileTree) (start parts : List String) : Prop where
  /-- The name leads to a directory. -/
  leads : t'.leadsToDirectory start parts
  /-- Something is new only on the way, where nothing was. -/
  node : ∀ d, t'.node? d = t.node? d ∨ t.node? d = none ∧ OnWay start parts d

theorem Prepared.isDirectory_iff (h : Prepared t t' start parts) :
    t'.isDirectory d ↔ t.isDirectory d ∨ OnWay start parts d := by
  constructor
  · intro hd
    rcases h.node d with hsame | ⟨-, hway⟩
    · exact .inl (FileTree.isDirectory_iff.2 (hsame ▸ FileTree.isDirectory_iff.1 hd))
    · exact .inr hway
  · rintro (hd | hway)
    · rcases h.node d with hsame | ⟨hnone, -⟩
      · exact FileTree.isDirectory_iff.2 (hsame.trans (FileTree.isDirectory_iff.1 hd))
      · rw [FileTree.isDirectory_iff, hnone] at hd
        cases hd
    · exact (leadsToDirectory_iff.1 h.leads).1 d hway

theorem Prepared.refl (h : t.leadsToDirectory start parts) : Prepared t t start parts :=
  ⟨h, fun _ => .inl rfl⟩

theorem Prepared.trans (h : Prepared t t₁ start parts)
    (h' : Prepared t₁ t' start (parts ++ [last])) : Prepared t t' start (parts ++ [last]) := by
  refine ⟨h'.leads, fun d => ?_⟩
  have hmore : OnWay start parts d → OnWay start (parts ++ [last]) d := fun hd =>
    hd.mono (List.prefix_append _ _)
  rcases h'.node d with hsame | ⟨hnone, hway⟩
  · rw [hsame]
    exact (h.node d).imp_right fun ⟨hnone, hway⟩ => ⟨hnone, hmore hway⟩
  · rcases h.node d with hsame | ⟨hnone', hway'⟩
    · exact .inr ⟨hsame ▸ hnone, hway⟩
    · exact .inr ⟨hnone', hmore hway'⟩

/-- Putting a directory where nothing was keeps every way. -/
theorem leadsToDirectory_set (hfree : t.node? place = none) (h : t.leadsToDirectory start parts) :
    (t.set place .directory).leadsToDirectory start parts := by
  rw [leadsToDirectory_iff] at h ⊢
  refine ⟨fun d hd => ?_, h.2⟩
  rw [isDirectory_iff, node?_set hfree]
  split
  · rfl
  · exact isDirectory_iff.1 (h.1 d hd)

/-- What can be said of making one directory: it is made, or something else than its absence is in
the way. -/
theorem makeDirectory_cases (last : String) (h : t.leadsToDirectory start parts) :
    (∃ t', t.makeDirectory start (parts ++ [last]) = .ok t' ∧
      Prepared t t' start (parts ++ [last])) ∨
      ∃ e, t.makeDirectory start (parts ++ [last]) = .error e ∧ e ≠ .notFound := by
  have hparent : t.node? (destination start parts) = some .directory :=
    isDirectory_iff.1 ((leadsToDirectory_iff.1 h).1 _ onWay_destination)
  simp only [makeDirectory, List.dropLast_concat, List.getLastD_concat, walk_of_leadsToDirectory h,
    bind, Except.bind, hparent]
  by_cases hlong : 255 < last.utf8ByteSize
  · exact .inr ⟨_, if_pos hlong, nofun⟩
  rw [if_neg hlong]
  by_cases hdots : last = "." ∨ last = ".."
  · exact .inr ⟨_, if_pos hdots, nofun⟩
  rw [if_neg hdots]
  by_cases hsome : (t.node? (destination start parts ++ [last])).isSome
  · exact .inr ⟨_, if_pos hsome, nofun⟩
  have hfree : t.node? (destination start parts ++ [last]) = none := by simpa using hsome
  have hdest : destination start (parts ++ [last]) = destination start parts ++ [last] := by
    rw [not_or] at hdots
    rw [destination_concat, enter, if_neg hdots.1, if_neg hdots.2]
  refine .inl ⟨_, if_neg hsome, leadsToDirectory_concat.2 ⟨leadsToDirectory_set hfree h,
    Nat.not_lt.1 hlong, ?_⟩, fun d => ?_⟩
  · rw [← destination_concat, hdest, isDirectory_iff, node?_set hfree, if_pos rfl]
  · rw [node?_set hfree]
    split
    next hd => exact .inr ⟨hd ▸ hfree, hd ▸ hdest ▸ onWay_destination⟩
    · exact .inl rfl

/-- A directory is made only in a directory. -/
theorem leadsToDirectory_of_makeDirectory
    (h : t.makeDirectory start (parts ++ [last]) = .ok t') : t.leadsToDirectory start parts := by
  simp only [makeDirectory, List.dropLast_concat, bind, Except.bind] at h
  split at h
  · cases h
  next parent hwalk =>
    rw [leadsToDirectory, hwalk]
    split at h
    · cases h
    · cases h
    next hnode => exact isDirectory_iff.2 hnode

theorem prepared_of_makeDirectory (h : t.makeDirectory start (parts ++ [last]) = .ok t') :
    Prepared t t' start (parts ++ [last]) := by
  rcases makeDirectory_cases last (leadsToDirectory_of_makeDirectory h) with
    ⟨t₁, hok, hprepared⟩ | ⟨e, herror, -⟩
  · rw [hok] at h
    cases h
    exact hprepared
  · rw [herror] at h
    cases h

theorem prepared_of_ensureDirectory
    (h : t.ensureDirectory start (parts ++ [last]) = (.ok (), t')) :
    Prepared t t' start (parts ++ [last]) := by
  unfold ensureDirectory at h
  split at h
  next hmake =>
    cases h
    exact prepared_of_makeDirectory hmake
  · split at h
    next hleads =>
      cases h
      exact .refl hleads
    · cases h

/-- A directory whose name leads to it up to the last part is made alone. -/
theorem ensureDirectories_of_makeDirectory (hparts : parts ≠ [])
    (h : t.makeDirectory start parts = .ok t') : t.ensureDirectories start parts = (.ok (), t') := by
  rw [ensureDirectories, dif_neg hparts, h]
  simp only [ensureDirectory, h]

/-- Where making a directory with those above it succeeds, its name leads to a directory and nothing
else is new. -/
theorem prepared_of_ensureDirectories (hstart : t.isDirectory start)
    (h : t.ensureDirectories start parts = (.ok (), t')) : Prepared t t' start parts := by
  induction parts using List.reverseRecOn generalizing t t' with
  | nil =>
    rw [ensureDirectories, dif_pos rfl] at h
    cases h
    exact .refl hstart
  | append_singleton parts last ih =>
    rw [ensureDirectories, dif_neg (by simp), List.dropLast_concat] at h
    split at h
    · -- Something above is missing and made first.
      split at h
      next t₁ habove =>
        exact (ih hstart habove).trans (prepared_of_ensureDirectory h)
      · cases h
    · exact prepared_of_ensureDirectory h

theorem ensureDirectory_ne_notFound (h : t.makeDirectory start parts ≠ .error .notFound) :
    (t.ensureDirectory start parts).1 ≠ .error .notFound := by
  intro hmissing
  unfold ensureDirectory at hmissing
  split at hmissing
  · cases hmissing
  next e he =>
    split at hmissing
    · cases hmissing
    · exact h (he.trans (congrArg _ (Except.error.inj hmissing)))

/-- Making a directory with those above it never fails because something is missing. -/
theorem ensureDirectories_ne_notFound (hstart : t.isDirectory start) :
    (t.ensureDirectories start parts).1 ≠ .error .notFound := by
  induction parts using List.reverseRecOn generalizing t with
  | nil =>
    rw [ensureDirectories, dif_pos rfl]
    intro h
    cases h
  | append_singleton parts last ih =>
    rw [ensureDirectories, dif_neg (by simp), List.dropLast_concat]
    split
    · split
      next t₁ habove =>
        refine ensureDirectory_ne_notFound fun hmissing => ?_
        rcases makeDirectory_cases last (prepared_of_ensureDirectories hstart habove).leads
          with ⟨t₂, hok, -⟩ | ⟨e, herror, hne⟩
        · cases hok.symm.trans hmissing
        · exact hne (Except.error.inj (herror.symm.trans hmissing))
      next e t₁ habove =>
        have hne := ih hstart
        rw [habove] at hne
        exact hne
    next hmake => exact ensureDirectory_ne_notFound hmake

end SimDepot.FileTree
