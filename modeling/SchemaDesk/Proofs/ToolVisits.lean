import SchemaDesk.Proofs.TemporaryFiles

/-!
# What a visit to a formatting tool comes to

The result of a visit tells how the run of the tool ended. It is a formatted text if the tool
was content and left a text behind, it blames the document if the tool ended with an error, and
otherwise there is no tool to be had. Nothing else comes of a run, except for a fault that is
none of input and output, and for octets left behind that are no text. The text that is handed
to the tool is the document, and the one that comes back is what the tool left, but for its
carriage returns.
-/

namespace SchemaDesk

/-! ## Runs -/

namespace ToolRun

/-- The tool is content, and what it leaves behind of the octets that it finds is this text. -/
def Leaves (run : ToolRun) (found : List UInt8) (t : Text) : Prop :=
  ∃ diagnostics octets, run.ending = .exited 0 diagnostics ∧
    run.leaves found = some octets ∧ Text.Utf8.decode octets = .ok t

/-- The tool ends with an error. -/
def Refuses (run : ToolRun) : Prop :=
  ∃ code diagnostics, run.ending = .exited code diagnostics ∧ code ≠ 0

/-- A run that comes to no result: it fails with a fault that is none of input and output, or
the tool is content and leaves octets behind that are no text. -/
inductive Escapes (run : ToolRun) (found : List UInt8) : Prop
  | fault {fault : Fault} (hending : run.ending = .failed fault)
      (hio : fault.kind.isIo = false) : Escapes run found
  | garbled {diagnostics : Text} {octets : List UInt8} {e : Text.Utf8.DecodeError}
      (hending : run.ending = .exited 0 diagnostics) (hleft : run.leaves found = some octets)
      (hdecode : Text.Utf8.decode octets = .error e) : Escapes run found

/-- What a result says of the run that it is made from. -/
structure Tells (run : ToolRun) (found : List UInt8) (result : FormatResult) : Prop where
  formatted_iff : result.ok = true ↔ ∃ t, run.Leaves found t
  text : ∀ t, run.Leaves found t → result.text = Text.unifyLineEnds t
  invalidInput_iff : result.errorKind = "invalid_input".toList ↔ run.Refuses
  unavailable : result.ok = false → ¬run.Refuses → result.errorKind = "unavailable".toList

section

variable {run : ToolRun} {found : List UInt8} {result : FormatResult}

/-- A failed result tells of a run that left no text by its kind. -/
theorem Tells.of_failed (kind : FormatErrorKind) (hnone : ∀ t, ¬run.Leaves found t)
    (hok : result.ok = false) (hkind : result.errorKind = kind.name)
    (hrefuses : kind = .invalidInput ↔ run.Refuses) : run.Tells found result where
  formatted_iff := by simp [hok, hnone]
  text t hleaves := absurd hleaves (hnone t)
  invalidInput_iff := by
    rw [hkind, ← hrefuses]
    cases kind <;> decide
  unavailable _ hnot := by
    rw [hkind]
    cases kind with
    | invalidInput => exact absurd (hrefuses.mp rfl) hnot
    | unavailable => rfl

/-- A run that was not ended by the tool itself leaves no text, and the tool refuses nothing. -/
theorem Tells.of_not_exited (hending : ∀ code diagnostics, run.ending ≠ .exited code diagnostics)
    (hok : result.ok = false) (hkind : result.errorKind = FormatErrorKind.unavailable.name) :
    run.Tells found result := by
  refine .of_failed .unavailable ?_ hok hkind (iff_of_false nofun ?_)
  · rintro t ⟨diagnostics, octets, hexited, -⟩
    exact hending 0 diagnostics hexited
  · rintro ⟨code, diagnostics, hexited, -⟩
    exact hending code diagnostics hexited

theorem escapes_failed_iff {fault : Fault} (hending : run.ending = .failed fault) :
    run.Escapes found ↔ fault.kind.isIo = false := by
  constructor
  · rintro (⟨hfailed, hio⟩ | ⟨hexited, -, -⟩)
    · cases hending.symm.trans hfailed
      exact hio
    · cases hending.symm.trans hexited
  · exact .fault hending

theorem not_escapes_of_timedOut (hending : run.ending = .timedOut) : ¬run.Escapes found := by
  rintro (⟨hfailed, -⟩ | ⟨hexited, -, -⟩)
  · cases hending.symm.trans hfailed
  · cases hending.symm.trans hexited

section

variable {code : Int} {diagnostics : Text} (hending : run.ending = .exited code diagnostics)

include hending

theorem escapes_exited_iff :
    run.Escapes found ↔ code = 0 ∧
      ∃ octets e, run.leaves found = some octets ∧ Text.Utf8.decode octets = .error e := by
  constructor
  · rintro (⟨hfailed, -⟩ | ⟨hexited, hleft, hdecode⟩)
    · cases hending.symm.trans hfailed
    · cases hending.symm.trans hexited
      exact ⟨rfl, _, _, hleft, hdecode⟩
  · rintro ⟨rfl, octets, e, hleft, hdecode⟩
    exact .garbled hending hleft hdecode

theorem leaves_iff (t : Text) :
    run.Leaves found t ↔ code = 0 ∧
      ∃ octets, run.leaves found = some octets ∧ Text.Utf8.decode octets = .ok t := by
  constructor
  · rintro ⟨diagnostics', octets, hexited, hleft⟩
    cases hending.symm.trans hexited
    exact ⟨rfl, octets, hleft⟩
  · rintro ⟨rfl, octets, hleft⟩
    exact ⟨diagnostics, octets, hending, hleft⟩

theorem refuses_iff : run.Refuses ↔ code ≠ 0 := by
  constructor
  · rintro ⟨code', diagnostics', hexited, hcode⟩
    cases hending.symm.trans hexited
    exact hcode
  · exact fun hcode => ⟨code, diagnostics, hending, hcode⟩

end

end

end ToolRun

namespace FormatCommand

variable {place : Workplace} {run : ToolRun} {found : List UInt8}

/-- A tool that is content: what it left is no text, or it is read back, or there is nothing. -/
theorem readBack_cases {diagnostics : Text} (hending : run.ending = .exited 0 diagnostics)
    {files : Files} (hleft : files.read place.temporary = readLeft place (run.leaves found))
    (written : Text) (debug : List Text) :
    (run.Escapes found ∧ ∃ fault, readBack place files written debug = .error fault) ∨
      (¬run.Escapes found ∧ ∃ result, readBack place files written debug = .ok result ∧
        run.Tells found result) := by
  have hrefuses : ¬run.Refuses := by simp [ToolRun.refuses_iff hending]
  rw [ToolRun.escapes_exited_iff hending]
  unfold readBack
  rw [hleft]
  cases hoctets : run.leaves found with
  | none =>
      refine .inr ⟨by simp, _, rfl, ?_⟩
      refine .of_failed .unavailable ?_ rfl rfl (iff_of_false nofun hrefuses)
      simp [ToolRun.leaves_iff hending, hoctets]
  | some octets =>
      dsimp only [readLeft]
      cases hdecode : Text.Utf8.decode octets with
      | error e => exact .inl ⟨⟨rfl, octets, e, rfl, hdecode⟩, _, rfl⟩
      | ok t =>
          have hleaves (other : Text) : run.Leaves found other ↔ t = other := by
            simp [ToolRun.leaves_iff hending, hoctets, hdecode]
          refine .inr ⟨?_, _, rfl, iff_of_true rfl ⟨t, (hleaves t).mpr rfl⟩, ?_,
            iff_of_false nofun hrefuses, nofun⟩
          · rintro ⟨-, octets, e, ⟨⟩, hgarbled⟩
            cases hdecode.symm.trans hgarbled
          · intro other hother
            rw [← (hleaves other).mp hother]
            rfl

/-- What a run comes to: no result, or one that tells how the run ended. -/
theorem readRun_cases (tool : FormatCommand) {files : Files}
    (hleft : files.read place.temporary = readLeft place (run.leaves found))
    (debug : List Text) :
    (run.Escapes found ∧ ∃ fault, tool.readRun place run.ending files debug = .error fault) ∨
      (¬run.Escapes found ∧ ∃ result, tool.readRun place run.ending files debug = .ok result ∧
        run.Tells found result) := by
  cases hending : run.ending with
  | failed fault =>
      have hexited (code : Int) (diagnostics : Text) : run.ending ≠ .exited code diagnostics := by
        simp [hending]
      rw [ToolRun.escapes_failed_iff hending]
      unfold readRun
      dsimp only
      split
      next hmissing =>
        refine .inr ⟨?_, _, rfl, .of_not_exited hexited rfl rfl⟩
        rw [eq_of_beq hmissing]
        decide
      split
      next hio => exact .inr ⟨by simp [hio], _, rfl, .of_not_exited hexited rfl rfl⟩
      next hio => exact .inl ⟨Bool.eq_false_iff.mpr hio, _, rfl⟩
  | timedOut =>
      exact .inr ⟨ToolRun.not_escapes_of_timedOut hending, _, rfl,
        .of_not_exited (by simp [hending]) rfl rfl⟩
  | exited code diagnostics =>
      unfold readRun
      dsimp only
      split
      next hcode =>
        subst hcode
        exact readBack_cases hending hleft _ _
      next hcode =>
        have hnone (t : Text) : ¬run.Leaves found t := by
          rw [ToolRun.leaves_iff hending]
          exact fun hleaves => hcode hleaves.1
        have hrefuses : run.Refuses := (ToolRun.refuses_iff hending).mpr hcode
        rw [ToolRun.escapes_exited_iff hending]
        exact .inr ⟨fun hescapes => hcode hescapes.1, _, rfl,
          .of_failed .invalidInput hnone rfl rfl (iff_of_true rfl hrefuses)⟩

/-! ## Visits -/

/-- What a result says of the visit that it came of. A blank document is its own formatted text
and nothing is run; every other result tells how the run ended. -/
structure Answers (place : Workplace) (source : Text) (visit : ToolVisit)
    (result : FormatResult) : Prop where
  blank : Text.allBlank source = true →
    result.ok = true ∧ result.text = source ∧ visit.runs = []
  formatted_iff : result.ok = true ↔ Text.allBlank source = true ∨
    ∃ called ∈ visit.runs, ∃ t, (place.run called.1).Leaves called.2 t
  invalidInput_iff : result.errorKind = "invalid_input".toList ↔
    ∃ called ∈ visit.runs, (place.run called.1).Refuses
  unavailable : result.ok = false → (¬∃ called ∈ visit.runs, (place.run called.1).Refuses) →
    result.errorKind = "unavailable".toList

theorem visit_of_blank (tool : FormatCommand) (place : Workplace) {source : Text}
    (hblank : Text.allBlank source = true) (filePath projectRoot : Text) :
    tool.visit place { source := some source, filePath, projectRoot } =
      { result := .ok { FormatResult.formatted source [] with
          message := "Nothing to format.".toList }
        files := place.files } := by
  unfold visit
  dsimp only
  rw [if_pos hblank]

/-- A result that tells of the one run of a visit answers for the visit. -/
theorem answers_of_tells {source : Text} {visit : ToolVisit} {invocation : Invocation}
    {result : FormatResult} (hblank : Text.allBlank source = false)
    (hruns : visit.runs = [(invocation, found)])
    (htells : (place.run invocation).Tells found result) :
    Answers place source visit result where
  blank hnow := by
    rw [hblank] at hnow
    cases hnow
  formatted_iff := by
    rw [hruns, hblank]
    simpa using htells.formatted_iff
  invalidInput_iff := by
    rw [hruns]
    simpa using htells.invalidInput_iff
  unavailable := by
    rw [hruns]
    simpa using htells.unavailable

theorem answers_of_blank {source : Text} (hblank : Text.allBlank source = true)
    (files : Files) (message : Text) :
    Answers place source
      { result := .ok { FormatResult.formatted source [] with message }, files }
      { FormatResult.formatted source [] with message } where
  blank _ := ⟨rfl, rfl, rfl⟩
  formatted_iff := iff_of_true rfl (.inl hblank)
  invalidInput_iff := iff_of_false nofun (by simp)
  unavailable := nofun

/-- A visit with a document comes to a result, which tells what was wrong if anything was,
exactly if the document is blank, or a command is found and the temporary file can be made, and
no run escapes. -/
theorem answers_iff_contained (tool : FormatCommand) (place : Workplace)
    (source filePath projectRoot : Text) :
    (∃ result,
      (tool.visit place { source := some source, filePath, projectRoot }).result = .ok result ∧
        Answers place source
          (tool.visit place { source := some source, filePath, projectRoot }) result) ↔
      (Text.allBlank source = true ∨
          (∃ command, tool.resolve place projectRoot = .ok command) ∧
            ∃ files, place.files.create place.temporary = .ok files) ∧
        ∀ called ∈ (tool.visit place { source := some source, filePath, projectRoot }).runs,
          ¬(place.run called.1).Escapes called.2 := by
  cases hblank : Text.allBlank source with
  | true =>
      rw [visit_of_blank tool place hblank]
      exact iff_of_true ⟨_, rfl, answers_of_blank hblank _ _⟩ ⟨.inl rfl, by simp⟩
  | false =>
      rcases visit_cases tool place { source := some source, filePath, projectRoot } with
        ⟨command, other, hengages, ⟨hruns, left, debug, hleft, hresult⟩, -⟩ |
        ⟨hidle, result, hvisit, hfault⟩
      · obtain rfl : source = other := Option.some.inj hengages.handed
        rw [hresult, hruns]
        simp only [List.mem_singleton, forall_eq]
        rcases readRun_cases tool hleft debug with
          ⟨hescapes, fault, hread⟩ | ⟨hcontained, result, hread, htells⟩
        · refine iff_of_false ?_ fun hnone => hnone.2 hescapes
          rintro ⟨result, hok, -⟩
          cases hread.symm.trans hok
        · exact iff_of_true ⟨result, hread, answers_of_tells hblank hruns htells⟩
            ⟨.inr ⟨⟨command, hengages.resolved⟩, hengages.created⟩, hcontained⟩
      · obtain ⟨fault, rfl⟩ := hfault source rfl hblank
        rw [hvisit]
        refine iff_of_false ?_ ?_
        · rintro ⟨result, hok, -⟩
          cases hok
        · rintro ⟨hnow | ⟨⟨command, hresolved⟩, hcreated⟩, -⟩
          · cases hnow
          · exact hidle command source ⟨rfl, hblank, hresolved, hcreated⟩

/-- A tool that is content with a file that is no text any more. -/
def garblingRun : ToolRun where
  ending := .exited 0 []
  leaves := fun _ => some [0xFF]

/-- No result comes of the visit then, although it was made with a document and the tool was
content. -/
theorem garbled_file_escapes :
    Text.allBlank "model A \x7b\x7d".toList = false ∧
      (installedTool.visit (workshop garblingRun) blockRequest).result =
        .error {
          kind := .undecodable
          text := "'utf-8' codec can't decode byte 0xff in position 0: invalid start byte".toList } := by
  decide +kernel

/-! ## Texts -/

/-- The tool finds the octets of the document, which are read as the document. If it is content
and leaves the octets of a text, the text that the visit comes to is that one exactly if it has
no carriage return; in particular a tool that changes nothing gives a document back without any
change exactly if that has none. -/
theorem passes_iff_without_returns {tool : FormatCommand} {place : Workplace}
    {asked : FormatRequest} {source diagnostics : Text} {invocation : Invocation}
    {found : List UInt8} (hasked : asked.source = some source)
    (hcalled : (invocation, found) ∈ (tool.visit place asked).runs)
    (hending : (place.run invocation).ending = .exited 0 diagnostics) :
    found = Text.Utf8.encode source ∧ Text.Utf8.decode found = .ok source ∧
      ∀ t, (place.run invocation).leaves found = some (Text.Utf8.encode t) →
        ∃ result, (tool.visit place asked).result = .ok result ∧ result.ok = true ∧
          (result.text = t ↔ '\r' ∉ t) := by
  rcases visit_cases tool place asked with
    ⟨command, other, hengages, ⟨hruns, left, debug, hleft, hresult⟩, -⟩ | ⟨-, result, hvisit, -⟩
  · obtain rfl : source = other := Option.some.inj (hasked.symm.trans hengages.handed)
    rw [hruns, List.mem_singleton] at hcalled
    obtain ⟨rfl, rfl⟩ := Prod.mk.inj hcalled
    refine ⟨rfl, Text.Utf8.decode_encode source, ?_⟩
    intro t ht
    have hleaves : (place.run _).Leaves _ t :=
      ⟨diagnostics, _, hending, ht, Text.Utf8.decode_encode t⟩
    rcases readRun_cases tool hleft debug with
      ⟨hescapes, -⟩ | ⟨-, result, hread, htells⟩
    · obtain ⟨-, octets, e, hoctets, hgarbled⟩ :=
        (ToolRun.escapes_exited_iff hending).mp hescapes
      cases ht.symm.trans hoctets
      cases (Text.Utf8.decode_encode t).symm.trans hgarbled
    · refine ⟨result, hresult.trans hread, htells.formatted_iff.mpr ⟨t, hleaves⟩, ?_⟩
      rw [htells.text t hleaves]
      exact Text.unifyLineEnds_eq_self_iff
  · rw [hvisit] at hcalled
    cases hcalled

/-- A tool that is content with the file as it is. -/
def contentRun : ToolRun where
  ending := .exited 0 []
  leaves := some

/-- The one run of the tool on the block. -/
def blockInvocation : Invocation :=
  installedTool.invocation (workshop contentRun) ["prisma".toList] []

theorem passes_unchanged_block :
    blockRequest.source = some "model A \x7b\x7d".toList ∧
      (blockInvocation, Text.Utf8.encode "model A \x7b\x7d".toList) ∈
        (installedTool.visit (workshop contentRun) blockRequest).runs ∧
      ((workshop contentRun).run blockInvocation).ending = .exited 0 [] ∧
      ∃ result, (installedTool.visit (workshop contentRun) blockRequest).result = .ok result ∧
        result.ok = true ∧ result.text = "model A \x7b\x7d".toList := by
  have hcalled : (blockInvocation, Text.Utf8.encode "model A \x7b\x7d".toList) ∈
      (installedTool.visit (workshop contentRun) blockRequest).runs :=
    List.mem_singleton_self _
  have hasked : blockRequest.source = some "model A \x7b\x7d".toList := rfl
  obtain ⟨-, -, hpasses⟩ := passes_iff_without_returns hasked hcalled rfl
  obtain ⟨result, hresult, hok, htext⟩ := hpasses _ rfl
  exact ⟨hasked, hcalled, rfl, result, hresult, hok, htext.mpr (by decide)⟩

/-- A request to format a block whose lines end in a carriage return and a line feed. -/
def returnsRequest : FormatRequest where
  source := some "model A \x7b\r\n\x7d".toList

/-- A tool that changes nothing is given that block as it is, and another text comes back. -/
theorem returns_lost_in_unchanged_file :
    (installedTool.visit (workshop contentRun) returnsRequest).runs.map (·.2) =
        [Text.Utf8.encode "model A \x7b\r\n\x7d".toList] ∧
      ((installedTool.visit (workshop contentRun) returnsRequest).result.toOption.map
          fun result => (result.ok, result.text)) =
        some (true, "model A \x7b\n\x7d".toList) := by
  decide +kernel

end FormatCommand

end SchemaDesk
