import SchemaDesk.Formatting.CommandLine
import SchemaDesk.Proofs.FileStates
import SchemaDesk.Proofs.TextForms

/-!
# The temporary file of a formatting tool

A visit to a tool makes a file only if there is a document to hand over and a command to hand
it to. The tool finds the document in that file. Whatever it does with it, and however the visit
ends, nothing stands at the path of the file afterwards, and everywhere else the files are as
they were.
-/

namespace SchemaDesk

open Files (DiffersAt)

/-- At its end a visit is as before but for its files, among which the temporary file is not
there any more: the one thing that can be wrong with removing it is that it is gone already. -/
theorem ToolVisit.tidied_eq {visit : ToolVisit} {before : Files} {temporary target : Path}
    (hdiffers : DiffersAt temporary target before visit.files) :
    ∃ files, visit.tidied temporary = { visit with files } ∧
      DiffersAt temporary target before files ∧ files.entryAt? target = none := by
  unfold tidied
  rcases Files.unlink_cases hdiffers.place hdiffers.entry with hunlink | ⟨habsent, hunlink⟩
  · rw [hunlink]
    have hnames := Files.names_ne_nil_of_entryAt? hdiffers.entry
    exact ⟨_, rfl, hdiffers.remove, Files.entryAt?_remove_self _ hnames⟩
  · rw [hunlink]
    exact ⟨_, rfl, hdiffers, habsent⟩

namespace FormatCommand

/-! ## While the file is there -/

section Running

variable {place : Workplace} {before files : Files} {target : Path}

/-- A tool changes the temporary file alone, and what it leaves there is what is read. -/
theorem afterRun_some (hdiffers : DiffersAt place.temporary target before files)
    (octets : List UInt8) :
    DiffersAt place.temporary target before (afterRun place files (some octets)) ∧
      (afterRun place files (some octets)).read place.temporary = .ok octets := by
  have hwrite := Files.write_of_place hdiffers.place hdiffers.entry octets
  have hleft : afterRun place files (some octets) = files.put target (.file octets) := by
    rw [afterRun, hwrite]
    rfl
  rw [hleft]
  exact ⟨hdiffers.put octets, Files.read_of_write hwrite⟩

/-- What a tool deletes is gone, also if it was gone before. -/
theorem afterRun_none (hdiffers : DiffersAt place.temporary target before files) :
    DiffersAt place.temporary target before (afterRun place files none) ∧
      (afterRun place files none).read place.temporary =
        .error (.ofFile .missingFile place.temporary.text) := by
  unfold afterRun
  dsimp only
  rcases Files.unlink_cases hdiffers.place hdiffers.entry with hunlink | ⟨habsent, hunlink⟩
  · rw [hunlink]
    have hnames := Files.names_ne_nil_of_entryAt? hdiffers.entry
    exact ⟨hdiffers.remove,
      Files.read_of_absent hdiffers.remove.place (Files.entryAt?_remove_self _ hnames)⟩
  · rw [hunlink]
    exact ⟨hdiffers, Files.read_of_absent hdiffers.place habsent⟩

/-- What can be read of the temporary file as a run left it. -/
def readLeft (place : Workplace) : Option (List UInt8) → Except Fault (List UInt8)
  | some octets => .ok octets
  | none => .error (.ofFile .missingFile place.temporary.text)

theorem afterRun_eq (hdiffers : DiffersAt place.temporary target before files)
    (left : Option (List UInt8)) :
    DiffersAt place.temporary target before (afterRun place files left) ∧
      (afterRun place files left).read place.temporary = readLeft place left := by
  cases left with
  | none => exact afterRun_none hdiffers
  | some octets => exact afterRun_some hdiffers octets

/-- A visit in which a tool was run on octets. What came of the visit was told by how the run
ended and by what can be read of the temporary file as the run left it. -/
structure RanOn (tool : FormatCommand) (place : Workplace) (command : List Text)
    (projectRoot : Text) (found : List UInt8) (visit : ToolVisit) : Prop where
  runs : visit.runs = [(tool.invocation place command projectRoot, found)]
  result : ∃ left debug,
    left.read place.temporary =
        readLeft place ((place.run (tool.invocation place command projectRoot)).leaves found) ∧
      visit.result = tool.readRun place
        (place.run (tool.invocation place command projectRoot)).ending left debug

theorem ranOn_runHere (tool : FormatCommand) (command : List Text) (projectRoot : Text)
    {found : List UInt8} (hdiffers : DiffersAt place.temporary target before files)
    (hread : files.read place.temporary = .ok found) :
    tool.RanOn place command projectRoot found (tool.runHere place command projectRoot files) ∧
      DiffersAt place.temporary target before
        (tool.runHere place command projectRoot files).files := by
  obtain ⟨hleft, hreadLeft⟩ := afterRun_eq hdiffers
    ((place.run (tool.invocation place command projectRoot)).leaves found)
  unfold runHere
  rw [hread]
  exact ⟨⟨rfl, _, _, hreadLeft, rfl⟩, hleft⟩

/-- The tool finds the document in the temporary file. -/
theorem ranOn_runWith (tool : FormatCommand) (command : List Text) (source projectRoot : Text)
    (hdiffers : DiffersAt place.temporary target before files) :
    tool.RanOn place command projectRoot (Text.Utf8.encode source)
        (tool.runWith place command source projectRoot files) ∧
      DiffersAt place.temporary target before
        (tool.runWith place command source projectRoot files).files := by
  have hwrite := Files.write_of_place hdiffers.place hdiffers.entry (Text.Utf8.encode source)
  unfold runWith
  rw [hwrite]
  exact ranOn_runHere tool command projectRoot (hdiffers.put _) (Files.read_of_write hwrite)

end Running

/-! ## From its making to its end -/

/-- The files of a workplace are as a visit found them, and the temporary file is not there. -/
structure Restored (place : Workplace) (visit : ToolVisit) : Prop where
  removed : visit.files.exists? place.temporary = .ok false
  unchanged : ∀ other, visit.files.entryAt? other = place.files.entryAt? other

theorem ranOn_runOn (tool : FormatCommand) {place : Workplace} {made : Files}
    (hcreate : place.files.create place.temporary = .ok made) (command : List Text)
    (source projectRoot : Text) :
    tool.RanOn place command projectRoot (Text.Utf8.encode source)
        (tool.runOn place command source projectRoot) ∧
      (tool.runOn place command source projectRoot).made = some place.temporary ∧
      Restored place (tool.runOn place command source projectRoot) := by
  obtain ⟨target, hplace, habsent, hmade⟩ := Files.create_eq_ok hcreate
  have hentry : place.files.entryAt? target ≠ some .directory := by
    rw [habsent]
    nofun
  have hfresh : DiffersAt place.temporary target place.files made :=
    hmade ▸ (DiffersAt.refl hplace hentry).put []
  obtain ⟨hran, hdiffers⟩ := ranOn_runWith tool command source projectRoot hfresh
  obtain ⟨files, htidied, hleft, hgone⟩ := ToolVisit.tidied_eq hdiffers
  unfold runOn
  rw [hcreate]
  dsimp only
  rw [htidied]
  refine ⟨⟨hran.runs, hran.result⟩, rfl, Files.exists?_of_absent hleft.place hgone, ?_⟩
  intro other
  by_cases hother : other = target
  · rw [hother, habsent]
    exact hgone
  · exact hleft.elsewhere other hother

/-- A tool is run only on a document that is not blank, with a command that was found for it,
and on a temporary file that could be made. -/
structure Engages (tool : FormatCommand) (place : Workplace) (asked : FormatRequest)
    (command : List Text) (source : Text) : Prop where
  handed : asked.source = some source
  notBlank : Text.allBlank source = false
  resolved : tool.resolve place asked.projectRoot = .ok command
  created : ∃ files, place.files.create place.temporary = .ok files

section Visits

variable (tool : FormatCommand) (place : Workplace) (asked : FormatRequest)

/-- A visit runs the tool on the document and removes the file again, or it runs nothing and
does not touch the files; it comes to a fault then, if there was a document to format. -/
theorem visit_cases :
    (∃ command source, tool.Engages place asked command source ∧
        tool.RanOn place command asked.projectRoot (Text.Utf8.encode source)
          (tool.visit place asked) ∧
        (tool.visit place asked).made = some place.temporary ∧
        Restored place (tool.visit place asked)) ∨
      (∀ command source, ¬tool.Engages place asked command source) ∧
        ∃ result, tool.visit place asked = { result, files := place.files } ∧
          ∀ source, asked.source = some source → Text.allBlank source = false →
            ∃ fault, result = .error fault := by
  cases hsource : asked.source with
  | none =>
      refine .inr ⟨?_, _, by rw [visit, hsource], nofun⟩
      rintro command source ⟨hhanded, -⟩
      cases hsource.symm.trans hhanded
  | some source =>
      have hidle (hno : ∀ command, ¬tool.Engages place asked command source)
          (command : List Text) (other : Text) : ¬tool.Engages place asked command other := by
        intro hnow
        cases hsource.symm.trans hnow.handed
        exact hno command hnow
      unfold visit
      rw [hsource]
      dsimp only
      split
      next hblank =>
        refine .inr ⟨hidle ?_, _, rfl, ?_⟩
        · rintro command ⟨-, hnot, -⟩
          rw [hblank] at hnot
          cases hnot
        · rintro source' ⟨⟩ hnot
          rw [hblank] at hnot
          cases hnot
      next hblank =>
        split
        next command hcommand =>
          cases hcreate : place.files.create place.temporary with
          | ok files =>
              exact .inl ⟨command, source,
                ⟨hsource, by simpa using hblank, hcommand, files, hcreate⟩,
                ranOn_runOn tool hcreate command source asked.projectRoot⟩
          | error fault =>
              refine .inr ⟨hidle ?_, _, by rw [runOn, hcreate], fun _ _ _ => ⟨fault, rfl⟩⟩
              rintro other ⟨-, -, -, files, hcreated⟩
              cases hcreate.symm.trans hcreated
        next fault hfault =>
          refine .inr ⟨hidle ?_, _, rfl, fun _ _ _ => ⟨fault, rfl⟩⟩
          rintro command ⟨-, -, hresolved, -⟩
          cases hfault.symm.trans hresolved

/-- A temporary file is made exactly for a document that is not blank, if a command is found and
the file can be made, and a tool is run on no other one. When the visit has ended, with a result
or a fault, that file does not exist any more, and what stands at any place is what stood
there before. -/
theorem temporary_file_removed :
    (∀ path, (tool.visit place asked).made = some path →
      (∃ files, place.files.create path = .ok files) ∧
        (tool.visit place asked).files.exists? path = .ok false) ∧
      (∀ other, (tool.visit place asked).files.entryAt? other = place.files.entryAt? other) ∧
      ((tool.visit place asked).made = none → (tool.visit place asked).runs = []) ∧
      ((tool.visit place asked).made ≠ none ↔
        (∃ source, asked.source = some source ∧ Text.allBlank source = false) ∧
          (∃ command, tool.resolve place asked.projectRoot = .ok command) ∧
            ∃ files, place.files.create place.temporary = .ok files) := by
  rcases visit_cases tool place asked with
    ⟨command, source, ⟨hhanded, hblank, hresolved, hcreated⟩, -, hmade, hrestored⟩ |
    ⟨hidle, result, hvisit, -⟩
  · rw [hmade]
    refine ⟨?_, hrestored.unchanged, nofun, iff_of_true nofun ?_⟩
    · rintro path ⟨⟩
      exact ⟨hcreated, hrestored.removed⟩
    · exact ⟨⟨source, hhanded, hblank⟩, ⟨command, hresolved⟩, hcreated⟩
  · rw [hvisit]
    refine ⟨nofun, fun _ => rfl, fun _ => rfl, iff_of_false (fun hmade => hmade rfl) ?_⟩
    rintro ⟨⟨source, hhanded, hblank⟩, ⟨command, hresolved⟩, hcreated⟩
    exact hidle command source ⟨hhanded, hblank, hresolved, hcreated⟩

end Visits

/-- The words that run a tool which is installed. -/
def installedTool : FormatCommand where
  command := "prisma".toList
  timeout := .ofRatio false 15 1

/-- A directory for temporary files, and what a tool does with the one in it. -/
def workshop (run : ToolRun) : Workplace where
  run := fun _ => run
  installed := none
  temporary := .ofText "/tmp/schema.prisma".toList
  files := Files.empty.put (.ofText "/tmp".toList) .directory

/-- A request to format one block. -/
def blockRequest : FormatRequest where
  source := some "model A \x7b\x7d".toList

/-- A tool that deletes the file and is broken off then. -/
def interruptedRun : ToolRun where
  ending := .failed { kind := .other "KeyboardInterrupt", text := [] }
  leaves := fun _ => none

/-- The fault is what comes of the visit, although the file is gone when it is to be removed. -/
theorem temporary_file_removed_interrupted :
    (installedTool.visit (workshop interruptedRun) blockRequest).made =
        some (workshop interruptedRun).temporary ∧
      (installedTool.visit (workshop interruptedRun) blockRequest).result =
        .error { kind := .other "KeyboardInterrupt", text := [] } ∧
      (installedTool.visit (workshop interruptedRun) blockRequest).files.exists?
        (workshop interruptedRun).temporary = .ok false := by
  have hmade : (installedTool.visit (workshop interruptedRun) blockRequest).made =
      some (workshop interruptedRun).temporary := by
    decide +kernel
  have hremoved := (temporary_file_removed installedTool (workshop interruptedRun) blockRequest).1
    _ hmade
  exact ⟨hmade, rfl, hremoved.2⟩

end FormatCommand

end SchemaDesk
