import SchemaDesk.Files

/-!
# Files after reading and writing

What was written to a path is what is read at it, and only there. A file that is made,
written or removed changes what stands at one place, and no path leads anywhere else for
that. Making directories neither makes nor changes a file, whether all of them can be
made or not.
-/

namespace SchemaDesk.Files

/-- The same files hold the same octets; directories may have been made. -/
def SameContents (files other : Files) : Prop :=
  ∀ place octets, files.entryAt? place = some (.file octets) ↔
    other.entryAt? place = some (.file octets)

theorem SameContents.refl (files : Files) : SameContents files files :=
  fun _ _ => Iff.rfl

theorem SameContents.trans {first second third : Files} (hfirst : SameContents first second)
    (hsecond : SameContents second third) : SameContents first third :=
  fun place octets => (hfirst place octets).trans (hsecond place octets)

theorem names_ne_nil_of_entryAt? {files : Files} {place : Path}
    (hentry : files.entryAt? place ≠ some .directory) : place.names ≠ [] := by
  intro hnil
  exact hentry (by simp [entryAt?, hnil])

/-! ## Writing and reading -/

/-- A way passes directories only, so it leads to the same place wherever these are there. -/
theorem walk_of_directories {files other : Files}
    (hdirectories : ∀ place, files.entryAt? place = some .directory →
      other.entryAt? place = some .directory)
    {here target : Path} {names : List Text} (hwalk : files.walk here names = .ok target) :
    other.walk here names = .ok target := by
  induction names generalizing here with
  | nil => exact hwalk
  | cons name rest ih =>
      unfold walk at hwalk ⊢
      split at hwalk
      next => cases hwalk
      next => cases hwalk
      next hhere =>
        rw [hdirectories here hhere]
        dsimp only
        split at hwalk
        next => cases hwalk
        next hlength =>
          rw [if_neg hlength]
          exact ih hwalk

theorem place_of_directories {files other : Files}
    (hdirectories : ∀ place, files.entryAt? place = some .directory →
      other.entryAt? place = some .directory)
    {path target : Path} (hplace : files.place path = .ok target) :
    other.place path = .ok target := by
  unfold Files.place at hplace ⊢
  split at hplace
  next => cases hplace
  next hnul =>
    rw [if_neg hnul]
    split at hplace
    next => cases hplace
    next hlength =>
      rw [if_neg hlength]
      exact walk_of_directories hdirectories hplace

/-- Files among which a path leads to a place where there is no directory, and which are like
other files everywhere else. -/
structure DiffersAt (path target : Path) (files other : Files) : Prop where
  place : other.place path = .ok target
  entry : other.entryAt? target ≠ some .directory
  elsewhere : ∀ place, place ≠ target → other.entryAt? place = files.entryAt? place

section DiffersAt

variable {path target : Path} {files other : Files}

theorem DiffersAt.refl (hplace : files.place path = .ok target)
    (hentry : files.entryAt? target ≠ some .directory) : DiffersAt path target files files where
  place := hplace
  entry := hentry
  elsewhere _ _ := rfl

/-- Whatever else stands at the place then, the path still leads to it. -/
theorem DiffersAt.change (hdiffers : DiffersAt path target files other) {left : Files}
    (hentry : left.entryAt? target ≠ some .directory)
    (helsewhere : ∀ place, place ≠ target → left.entryAt? place = other.entryAt? place) :
    DiffersAt path target files left where
  place := by
    have hdirectories (place : Path) (hdirectory : other.entryAt? place = some .directory) :
        left.entryAt? place = some .directory := by
      by_cases htarget : place = target
      · exact absurd (htarget ▸ hdirectory) hdiffers.entry
      · rw [helsewhere place htarget, hdirectory]
    exact place_of_directories hdirectories hdiffers.place
  entry := hentry
  elsewhere place htarget := (helsewhere place htarget).trans (hdiffers.elsewhere place htarget)

theorem DiffersAt.put (hdiffers : DiffersAt path target files other) (octets : List UInt8) :
    DiffersAt path target files (other.put target (.file octets)) := by
  have hnames := names_ne_nil_of_entryAt? hdiffers.entry
  refine hdiffers.change ?_ fun place htarget => entryAt?_put_of_ne _ _ htarget
  rw [entryAt?_put_self _ _ hnames]
  nofun

theorem DiffersAt.remove (hdiffers : DiffersAt path target files other) :
    DiffersAt path target files (other.remove target) := by
  have hnames := names_ne_nil_of_entryAt? hdiffers.entry
  refine hdiffers.change ?_ fun place htarget => entryAt?_remove_of_ne _ htarget
  rw [entryAt?_remove_self _ hnames]
  nofun

end DiffersAt

theorem write_eq_ok {files left : Files} {path : Path} {octets : List UInt8}
    (hwrite : files.write path octets = .ok left) :
    ∃ place, files.place path = .ok place ∧ files.entryAt? place ≠ some .directory ∧
      left = files.put place (.file octets) := by
  unfold write at hwrite
  split at hwrite
  next => cases hwrite
  next place hplace =>
    split at hwrite
    next => cases hwrite
    next hentry =>
      cases hwrite
      exact ⟨place, hplace, hentry, rfl⟩

theorem write_of_place {files : Files} {path target : Path}
    (hplace : files.place path = .ok target) (hentry : files.entryAt? target ≠ some .directory)
    (octets : List UInt8) : files.write path octets = .ok (files.put target (.file octets)) := by
  unfold write
  rw [hplace]
  dsimp only
  split
  next hdirectory => exact absurd hdirectory hentry
  next => rfl

theorem read_of_file {files : Files} {path target : Path} {octets : List UInt8}
    (hplace : files.place path = .ok target)
    (hfile : files.entryAt? target = some (.file octets)) : files.read path = .ok octets := by
  unfold read
  rw [hplace]
  dsimp only
  rw [hfile]

/-- What was written is read. -/
theorem read_of_write {files left : Files} {path : Path} {octets : List UInt8}
    (hwrite : files.write path octets = .ok left) : left.read path = .ok octets := by
  obtain ⟨place, hplace, hentry, rfl⟩ := write_eq_ok hwrite
  exact read_of_file ((DiffersAt.refl hplace hentry).put octets).place
    (entryAt?_put_self files _ (names_ne_nil_of_entryAt? hentry))

/-- What can be read is there. -/
theorem exists?_of_read {files : Files} {path : Path} {octets : List UInt8}
    (hread : files.read path = .ok octets) : files.exists? path = .ok true := by
  unfold read at hread
  split at hread
  next => cases hread
  next place hplace =>
    split at hread
    next hfile => simp [exists?, find?, hplace, hfile]
    next => cases hread
    next => cases hread

/-! ## Files that come and go -/

theorem create_eq_ok {files left : Files} {path : Path} (hcreate : files.create path = .ok left) :
    ∃ target, files.place path = .ok target ∧ files.entryAt? target = none ∧
      left = files.put target (.file []) := by
  unfold create at hcreate
  split at hcreate
  next => cases hcreate
  next target hplace =>
    split at hcreate
    next => cases hcreate
    next habsent =>
      cases hcreate
      exact ⟨target, hplace, by simpa using habsent, rfl⟩

/-- Where there is no directory, a file is removed, and there was none if it cannot be. -/
theorem unlink_cases {files : Files} {path target : Path} (hplace : files.place path = .ok target)
    (hentry : files.entryAt? target ≠ some .directory) :
    files.unlink path = .ok (files.remove target) ∨
      files.entryAt? target = none ∧
        files.unlink path = .error (.ofFile .missingFile path.text) := by
  unfold unlink
  rw [hplace]
  dsimp only
  split
  next => exact .inl rfl
  next hdirectory => exact absurd hdirectory hentry
  next habsent => exact .inr ⟨habsent, rfl⟩

theorem exists?_of_absent {files : Files} {path target : Path}
    (hplace : files.place path = .ok target) (habsent : files.entryAt? target = none) :
    files.exists? path = .ok false := by
  simp [exists?, find?, hplace, habsent]

theorem read_of_absent {files : Files} {path target : Path}
    (hplace : files.place path = .ok target) (habsent : files.entryAt? target = none) :
    files.read path = .error (.ofFile .missingFile path.text) := by
  unfold read
  rw [hplace]
  dsimp only
  rw [habsent]

/-! ## Making directories -/

theorem sameContents_put_directory {files : Files} {place : Path}
    (habsent : files.entryAt? place = none) : SameContents files (files.put place .directory) := by
  have hentry : files.entryAt? place ≠ some .directory := by
    rw [habsent]
    simp
  have hnames := names_ne_nil_of_entryAt? hentry
  intro other octets
  by_cases hother : other = place
  · subst hother
    rw [habsent, entryAt?_put_self files .directory hnames]
    simp
  · rw [entryAt?_put_of_ne _ _ hother]

theorem sameContents_makeDirectory {files left : Files} {path : Path}
    (hmake : files.makeDirectory path = .ok left) : SameContents files left := by
  unfold makeDirectory at hmake
  split at hmake
  next => cases hmake
  next place _ =>
    split at hmake
    next => cases hmake
    next habsent =>
      cases hmake
      exact sameContents_put_directory (by simpa using habsent)

theorem sameContents_ensureDirectory (files : Files) (path : Path) :
    SameContents files (files.ensureDirectory path).2 := by
  unfold ensureDirectory
  split
  next hmake => exact sameContents_makeDirectory hmake
  next => exact .refl files

theorem sameContents_ensureDirectories (files : Files) (path : Path) :
    SameContents files (files.ensureDirectories path).2 := by
  fun_induction ensureDirectories files path with
  | case1 path => exact .refl files
  | case2 path _ _ fault left hparents ih =>
      rw [hparents] at ih
      exact ih
  | case3 path _ _ left hparents ih =>
      rw [hparents] at ih
      exact ih.trans (sameContents_ensureDirectory left path)
  | case4 path => exact sameContents_ensureDirectory files path

/-! ## Faults -/

theorem kind_ofFile (kind : FaultKind) (name : Text) : (Fault.ofFile kind name).kind = kind := by
  cases kind <;> rfl

theorem isIo_of_walk {files : Files} {here : Path} {names : List Text} {kind : FaultKind}
    (hwalk : files.walk here names = .error kind) : kind.isIo = true := by
  induction names generalizing here with
  | nil => cases hwalk
  | cons name rest ih =>
      unfold walk at hwalk
      split at hwalk
      next =>
        cases hwalk
        rfl
      next =>
        cases hwalk
        rfl
      next =>
        split at hwalk
        next =>
          cases hwalk
          rfl
        next => exact ih hwalk

/-- Only a path that no file can have is refused as a value. -/
theorem isIo_of_place {files : Files} {path : Path} {kind : FaultKind}
    (hnul : '\x00' ∉ path.text) (hplace : files.place path = .error kind) : kind.isIo = true := by
  unfold Files.place at hplace
  rw [if_neg (by simpa using hnul)] at hplace
  split at hplace
  next =>
    cases hplace
    rfl
  next => exact isIo_of_walk hplace

theorem isIo_of_write {files : Files} {path : Path} {octets : List UInt8} {fault : Fault}
    (hnul : '\x00' ∉ path.text) (hwrite : files.write path octets = .error fault) :
    fault.kind.isIo = true := by
  unfold write at hwrite
  split at hwrite
  next kind hplace =>
    cases hwrite
    rw [kind_ofFile]
    exact isIo_of_place hnul hplace
  next =>
    split at hwrite
    next =>
      cases hwrite
      rfl
    next => cases hwrite

theorem isIo_of_read {files : Files} {path : Path} {fault : Fault}
    (hnul : '\x00' ∉ path.text) (hread : files.read path = .error fault) :
    fault.kind.isIo = true := by
  unfold read at hread
  split at hread
  next kind hplace =>
    cases hread
    rw [kind_ofFile]
    exact isIo_of_place hnul hplace
  next =>
    split at hread
    next => cases hread
    next =>
      cases hread
      rfl
    next =>
      cases hread
      rfl

theorem isIo_of_ensureDirectory {files left : Files} {path : Path} {fault : Fault}
    (hnul : '\x00' ∉ path.text) (hensure : files.ensureDirectory path = (.error fault, left)) :
    fault.kind.isIo = true := by
  unfold ensureDirectory at hensure
  split at hensure
  next => cases hensure
  next kind hmake =>
    have hkind : kind.isIo = true := by
      unfold makeDirectory at hmake
      split at hmake
      next hplace =>
        cases hmake
        exact isIo_of_place hnul hplace
      next =>
        split at hmake
        next =>
          cases hmake
          rfl
        next => cases hmake
    split at hensure
    next => cases hensure
    next =>
      cases hensure
      rw [kind_ofFile]
      exact hkind

theorem mem_text_iff {path : Path} {c : Char} (hpoint : c ≠ '.') (hslash : c ≠ '/') :
    c ∈ path.text ↔ c ∈ path.root ∨ ∃ name ∈ path.names, c ∈ name := by
  have hmem : c ∈ path.root ++ List.intercalate ['/'] path.names ↔
      c ∈ path.root ∨ ∃ name ∈ path.names, c ∈ name := by
    simp [Text.mem_intercalate_iff, hslash]
  unfold Path.text
  dsimp only
  split
  next hempty =>
    rw [List.isEmpty_iff] at hempty
    rw [← hmem, hempty]
    simpa using hpoint
  next => exact hmem

/-- A path leads through no character that it does not hold itself. -/
theorem nul_not_mem_parent {path : Path} (hnul : '\x00' ∉ path.text) :
    '\x00' ∉ path.parent.text := by
  rw [mem_text_iff (by decide) (by decide)] at hnul ⊢
  rintro (hroot | ⟨name, hname, hmem⟩)
  · exact hnul (Or.inl hroot)
  · exact hnul (Or.inr ⟨name, List.dropLast_subset _ hname, hmem⟩)

theorem isIo_of_ensureDirectories {files left : Files} {path : Path} {fault : Fault}
    (hnul : '\x00' ∉ path.text) (hensure : files.ensureDirectories path = (.error fault, left)) :
    fault.kind.isIo = true := by
  fun_induction ensureDirectories files path with
  | case1 path =>
      cases hensure
      rfl
  | case2 path _ _ _ _ hparents ih =>
      cases hensure
      exact ih (nul_not_mem_parent hnul) hparents
  | case3 path _ _ left hparents ih => exact isIo_of_ensureDirectory hnul hensure
  | case4 path => exact isIo_of_ensureDirectory hnul hensure

end SchemaDesk.Files
