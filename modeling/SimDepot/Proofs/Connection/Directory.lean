import SimDepot.Connection.Open
import SimDepot.Proofs.Connection.Address
import SimDepot.Proofs.Connection.Place

/-!
# The directory that is made and the file that is opened

An address is read twice: for the directory that is made, where its name counts as it is written, and
for the file that is opened, where what is encoded is decoded. `directory_made_is_used` says what
follows. Making the directory makes every place on its way and nothing else, and the file can be made
exactly if these places, with what was there before, are all that is above it. So they are where the
two readings agree on the directory, as they do for a plain name; `directory_made_is_not_used` is an
address on which they do not.
-/

namespace SimDepot.Connection

open FileTree (OnWay onWay_filter_dots onWay_destination isDirectory_of_isPrefix_start)

variable {t t' : FileTree} {address : String} {name cs : List Char} {start place d : List String}
  {target : Target}

/-! ## What is made -/

/-- The directory of an address is at this place or below it. -/
def Makes (address : String) (d : List String) : Prop :=
  ∃ isAbsolute parts, directoryOf? address = some (isAbsolute, parts) ∧
    OnWay (FileTree.start isAbsolute) parts d

theorem filter_components : (components cs).filter (· ≠ ".") = (nameParts cs).filter (· ≠ ".") := by
  unfold components
  split
  next rest hparts =>
    rw [hparts]
    split <;> simp
  next => simp

/-- Leaving out parts that do not count leaves out no place. -/
theorem onWay_components : OnWay start (components cs) d ↔ OnWay start (nameParts cs) d := by
  rw [← onWay_filter_dots, filter_components, onWay_filter_dots]

theorem isDirectory_start (isAbsolute : Bool) : t.isDirectory (FileTree.start isAbsolute) :=
  isDirectory_of_isPrefix_start List.prefix_rfl

/-- Making the directory of an address makes the places on its way, and no other directory. -/
theorem isDirectory_of_prepareDirectory (h : prepareDirectory t address = (.ok (), t')) :
    t'.isDirectory d ↔ t.isDirectory d ∨ Makes address d := by
  unfold prepareDirectory at h
  split at h
  next isAbsolute parts hdirectory =>
    rw [(FileTree.prepared_of_ensureDirectories (isDirectory_start isAbsolute) h).isDirectory_iff]
    refine or_congr_right ⟨fun hway => ⟨isAbsolute, parts, hdirectory, hway⟩, ?_⟩
    rintro ⟨isAbsolute', parts', hdirectory', hway⟩
    cases hdirectory.symm.trans hdirectory'
    exact hway
  next hnone =>
    cases h
    refine (or_iff_left ?_).symm
    rintro ⟨isAbsolute, parts, hdirectory, -⟩
    cases hnone.symm.trans hdirectory

/-- After the directory of a name has been made, all of the name but its last part leads to a
directory. -/
theorem leadsToDirectory_of_prepareDirectory (hdirectory : directoryOf? address = directoryIn? name)
    (h : prepareDirectory t address = (.ok (), t')) :
    t'.leadsToDirectory (FileTree.start (name.head? == some '/')) (components name).dropLast := by
  rw [prepareDirectory, hdirectory, directoryIn?] at h
  split at h
  next isAbsolute parts hsome =>
    split at hsome
    · cases hsome
    · cases hsome
      exact (FileTree.prepared_of_ensureDirectories (isDirectory_start _) h).leads
  next hnone =>
    -- Without a directory of its own, the file is where its name starts.
    have hparent : (components name).dropLast = [] := by
      split at hnone
      next hfew =>
        rcases hfew with hempty | ⟨hempty, -⟩
        · rw [List.isEmpty_iff.1 hempty, List.dropLast_nil]
        · exact List.isEmpty_iff.1 hempty
      · cases hnone
    rw [hparent, FileTree.leadsToDirectory, FileTree.walk]
    exact isDirectory_start _

/-- After the directory of a name has been made, there are only directories above every place on the
way of the name. -/
theorem isDirectory_above_of_prepareDirectory
    (hdirectory : directoryOf? address = directoryIn? name)
    (h : prepareDirectory t address = (.ok (), t'))
    (hplace : OnWay (FileTree.start (name.head? == some '/')) (nameParts name) place)
    (hd : d <+: place.dropLast) : t'.isDirectory d :=
  FileTree.isDirectory_above_onWay (fun _ => isDirectory_of_isPrefix_start)
    (leadsToDirectory_of_prepareDirectory hdirectory h) (onWay_components.2 hplace) hd

/-! ## What is opened -/

/-- An address names a file of its own for the database, which is made where there is none. -/
structure NamesFile (address : String) (target : Target) : Prop where
  /-- It is an address. -/
  parsed : (Url.ofText? address).isSome
  /-- It describes what is opened. -/
  described : ∃ o, Options.ofUrl address = .ok o ∧ Target.ofOptions o = .ok target
  /-- The file is made. -/
  create : target.access = .create
  /-- The database is not kept in memory. -/
  lasting : target.isTransient = false
  /-- A new file does not take the permissions of another one. -/
  permissions : target.modeOf = none

/-- With its directory made, an address is opened as its target is. -/
theorem connect_of_prepareDirectory (hname : nameIn? address = some name)
    (hfile : NamesFile address target) (h : prepareDirectory t address = (.ok (), t')) :
    connect t address = ((target.opened t').1.mapError refuse, (target.opened t').2) := by
  obtain ⟨u, hu⟩ := Option.isSome_iff_exists.1 hfile.parsed
  obtain ⟨o, ho, htarget⟩ := hfile.described
  rw [connect, h]
  simp only [hu, scheme_of_nameIn? hname hu, ne_eq, not_true_eq_false, if_false, ho, htarget]

/-- Opening a database never fails because a directory above the one of its address is missing. -/
theorem connect_ne_notFound (hname : nameIn? address = some name)
    (hfile : NamesFile address target) : (connect t address).1 ≠ .error (.file .notFound) := by
  cases hprepare : prepareDirectory t address with
  | mk result t' =>
    cases result with
    | error failure =>
      have hne : failure ≠ .notFound := by
        rintro rfl
        unfold prepareDirectory at hprepare
        split at hprepare
        · exact FileTree.ensureDirectories_ne_notFound (isDirectory_start _)
            (congrArg Prod.fst hprepare)
        · cases hprepare
      rw [connect, hprepare]
      exact fun h => hne (Error.file.inj (Except.error.inj h))
    | ok _ =>
      rw [connect_of_prepareDirectory hname hfile hprepare]
      cases (target.opened t').1 with
      | error refusal => nofun
      | ok _ => nofun

theorem connect_eq_ok_iff (hname : nameIn? address = some name) (hfile : NamesFile address target)
    (h : prepareDirectory t address = (.ok (), t')) {c : Connected} :
    (connect t address).1 = .ok c ↔ (target.opened t').1 = .ok c := by
  rw [connect_of_prepareDirectory hname hfile h]
  cases (target.opened t').1 with
  | error refusal => exact iff_of_false nofun nofun
  | ok _ => simp [Except.mapError]

/-- The directory of a plain name is that of the file. -/
theorem directoryIn?_of_isPlain (hname : nameIn? address = some name) (hplain : IsPlain name)
    (hfile : NamesFile address target) : directoryIn? name = directoryIn? target.file.toList := by
  obtain ⟨o, ho, htarget⟩ := hfile.described
  rw [file_of_isPlain hname hplain ho htarget, String.toList_ofList]

/-- What making the directory of an address is good for, wherever the address names a file that is to
be made. Nothing is missing when the directory is made. Once it is made,

* exactly the places on its way are new directories;
* where the name of the file leads anywhere but to a directory, the file is opened exactly if it is
  there already or all places above it were directories or have been made;
* where the name as it is written has the directory of the file, as a plain name has, all places above
  the file are directories, and it is opened unless its name is too long or that of a directory. -/
theorem directory_made_is_used (hname : nameIn? address = some name)
    (hfile : NamesFile address target) :
    (connect t address).1 ≠ .error (.file .notFound) ∧
    ∀ t', prepareDirectory t address = (.ok (), t') →
      (∀ d, t'.isDirectory d ↔ t.isDirectory d ∨ Makes address d) ∧
      (∀ place, target.place? t' = some place → t'.node? place ≠ some .directory →
        ((connect t address).1 = .ok ⟨target, some place⟩ ↔ (t'.node? place).isSome ∨
          ∀ d, d <+: place.dropLast → t.isDirectory d ∨ Makes address d)) ∧
      (IsPlain name ∨ directoryIn? name = directoryIn? target.file.toList →
        (∀ d, d <+: target.destination.dropLast → t'.isDirectory d) ∧
        (target.Fits → t'.node? target.destination ≠ some .directory →
          (connect t address).1 = .ok ⟨target, some target.destination⟩)) := by
  refine ⟨connect_ne_notFound hname hfile, fun t' h => ?_⟩
  have hopened : ∀ place, target.place? t' = some place → t'.node? place ≠ some .directory →
      ((connect t address).1 = .ok ⟨target, some place⟩ ↔
        (t'.node? place).isSome ∨ ∀ d, d <+: place.dropLast → t'.isDirectory d) :=
    fun place hplace hfree => (connect_eq_ok_iff hname hfile h).trans
      (Target.opened_eq_ok_iff hfile.create hfile.lasting hfile.permissions hplace hfree)
  refine ⟨fun d => isDirectory_of_prepareDirectory h, fun place hplace hfree => ?_, fun hagree => ?_⟩
  · simpa only [isDirectory_of_prepareDirectory h] using hopened place hplace hfree
  · have hsame : directoryOf? address = directoryIn? target.file.toList := by
      rw [directoryOf?, hname, Option.bind_some]
      exact hagree.elim (directoryIn?_of_isPlain hname · hfile) id
    have habove : ∀ place, OnWay target.origin (nameParts target.file.toList) place →
        ∀ d, d <+: place.dropLast → t'.isDirectory d := fun place hplace d hd =>
      isDirectory_above_of_prepareDirectory hsame h hplace hd
    refine ⟨habove _ onWay_destination, fun hfits hfree => ?_⟩
    exact (hopened _ (Target.place?_of_fits hfits habove) hfree).2
      (.inr (habove _ onWay_destination))

/-! An address with an encoded blank in its directory, and the address where the environment names
none. -/

/-- What is opened to make a file. -/
def Target.ofNewFile (file : String) : Target where
  file := file
  access := .create
  inMemory := false
  vfs := .locking
  immutable := false
  noLock := false
  modeOf := none

/-- The file is `x.sqlite` in the directory `a b`. -/
def encodedUrl : String := "sqlite://a%20b/x.sqlite?mode=rwc"

theorem namesFile_encodedUrl : NamesFile encodedUrl (.ofNewFile "a b/x.sqlite") :=
  ⟨by decide +kernel, ⟨_, rfl, rfl⟩, rfl, rfl, rfl⟩

theorem namesFile_defaultUrl : NamesFile defaultUrl (.ofNewFile "data/sim_inventory.sqlite") :=
  ⟨by decide +kernel, ⟨_, rfl, rfl⟩, rfl, rfl, rfl⟩

theorem prepareDirectory_encodedUrl : prepareDirectory .empty encodedUrl =
    (.ok (), ⟨[(FileTree.home ++ ["a%20b"], .directory)]⟩) := by
  have hdirectory : directoryOf? encodedUrl = some (false, ["a%20b"]) := rfl
  rw [prepareDirectory, hdirectory]
  exact FileTree.ensureDirectories_of_makeDirectory (by decide) rfl

theorem prepareDirectory_defaultUrl : prepareDirectory .empty defaultUrl =
    (.ok (), ⟨[(FileTree.home ++ ["data"], .directory)]⟩) := by
  have hdirectory : directoryOf? defaultUrl = some (false, ["data"]) := rfl
  rw [prepareDirectory, hdirectory]
  exact FileTree.ensureDirectories_of_makeDirectory (by decide) rfl

theorem fits_defaultUrl : (Target.ofNewFile "data/sim_inventory.sqlite").Fits := by
  refine ⟨by decide, fun d hd => ?_, by decide, by decide⟩
  have hparts : nameParts (Target.ofNewFile "data/sim_inventory.sqlite").file.toList =
      ["data", "sim_inventory.sqlite"] := by decide
  rw [hparts] at hd
  simp only [FileTree.onWay_cons, FileTree.onWay_nil] at hd
  rcases hd with rfl | rfl | rfl <;> decide

/-- Where there is nothing, the usual address is opened, and the one with the encoded blank is not:
the directory that is made for it is another one. -/
theorem directory_made_is_not_used :
    (connect .empty defaultUrl).1 = .ok ⟨.ofNewFile "data/sim_inventory.sqlite",
      some (FileTree.home ++ ["data", "sim_inventory.sqlite"])⟩ ∧
    (connect .empty encodedUrl).1 ≠ .ok ⟨.ofNewFile "a b/x.sqlite",
      some (FileTree.home ++ ["a b", "x.sqlite"])⟩ := by
  have hname : nameIn? defaultUrl = some "data/sim_inventory.sqlite".toList := by decide
  have hplain : IsPlain "data/sim_inventory.sqlite".toList := by constructor <;> decide
  have hencoded : nameIn? encodedUrl = some "a%20b/x.sqlite".toList := by decide
  constructor
  · obtain ⟨-, -, hused⟩ := (directory_made_is_used hname namesFile_defaultUrl).2 _
      prepareDirectory_defaultUrl
    exact (hused (.inl hplain)).2 fits_defaultUrl (by decide)
  · obtain ⟨hmakes, hopened, -⟩ := (directory_made_is_used hencoded namesFile_encodedUrl).2 _
      prepareDirectory_encodedUrl
    rw [ne_eq, hopened _ (by decide) (by decide), or_iff_right (by decide)]
    intro hall
    have hmissing := (hmakes _).2 (hall (FileTree.home ++ ["a b"]) (by decide))
    exact absurd hmissing (by decide)

end SimDepot.Connection
