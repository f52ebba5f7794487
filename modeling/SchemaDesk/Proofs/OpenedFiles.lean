import SchemaDesk.Proofs.FileStates
import SchemaDesk.Proofs.SuggestionSequence
import SchemaDesk.Proofs.WindowEvents
import SchemaDesk.Proofs.WrittenLines

/-!
# Opened files

A file that holds a text becomes the document of the window, and what the assistant was asked
before comes to nothing. A file that the system refuses leaves the window as it was, and the
answer says so. Octets that are no text and paths that no file can have leave the window as it
was too, but there is no answer then: a fault is let through.
-/

namespace SchemaDesk

/-- A path as a text holds the characters that it was read from, slashes and points aside. -/
theorem Path.mem_text_ofText_iff {t : Text} {c : Char} (hpoint : c ≠ '.') (hslash : c ≠ '/') :
    c ∈ (ofText t).text ↔ c ∈ t := by
  have hparts : c ∈ t ↔ ∃ part ∈ Text.splitWhere (· == '/') t, c ∈ part := by
    rw [Text.splitWhere_eq_splitOnP]
    have hwhole : List.intercalate ['/'] (t.splitOn '/') = t := List.intercalate_splitOn '/'
    conv_lhs => rw [← hwhole, Text.mem_intercalate_iff]
    simp [hslash, List.splitOn]
  have hroot : c ∉ (ofText t).root := fun hmem => hslash (List.eq_of_mem_replicate hmem)
  rw [Files.mem_text_iff hpoint hslash, hparts, or_iff_right hroot]
  constructor
  · rintro ⟨name, hname, hmem⟩
    exact ⟨name, List.mem_of_mem_filter hname, hmem⟩
  · rintro ⟨part, hpart, hmem⟩
    refine ⟨part, List.mem_filter.mpr ⟨hpart, ?_⟩, hmem⟩
    have hempty : part ≠ [] := List.ne_nil_of_mem hmem
    have hhere : part ≠ ['.'] := by
      rintro rfl
      exact hpoint (List.mem_singleton.mp hmem)
    simp [hempty, hhere]

namespace Files

theorem isShown_iff {path : Path} : isShown path = true ↔ '\x00' ∉ path.text := by
  simp [isShown]

theorem read_of_nul {files : Files} {path : Path} (hnul : '\x00' ∈ path.text) :
    files.read path = .error (.ofFile .badValue path.text) := by
  simp [read, Files.place, hnul]

theorem readUnless_of_nul {files : Files} {refusal : Option Refusal} {path : Path}
    (hnul : '\x00' ∈ path.text) :
    files.readUnless refusal path = .error (.ofFile .badValue path.text) := by
  unfold readUnless
  split
  next refusal hrefusal =>
    exact absurd hnul (isShown_iff.mp (Option.filter_eq_some_iff.mp hrefusal).2)
  next => exact read_of_nul hnul

/-- What the system refuses, it refuses with a fault of input or output; a path that it is not
shown is refused with another one. -/
theorem isIo_of_readUnless_iff {files : Files} {refusal : Option Refusal} {path : Path}
    {fault : Fault} (hread : files.readUnless refusal path = .error fault) :
    fault.kind.isIo = true ↔ '\x00' ∉ path.text := by
  constructor
  · intro hio hnul
    rw [readUnless_of_nul hnul] at hread
    cases hread
    cases hio
  · intro hnul
    unfold readUnless at hread
    split at hread
    next refusal _ =>
      cases hread
      exact refusal.isIo
    next => exact isIo_of_read hnul hread

end Files

namespace Editor

theorem text_setText (editor : Editor) (t : Text) :
    (editor.setText t).1.buffer.text = Text.dropReturnBeforeFeed t := by
  rw [setText, buffer_look]
  rfl

theorem ghost_setText_of_none {editor : Editor} (hghost : editor.ghost = none) (t : Text) :
    (editor.setText t).1.ghost = none := by
  unfold setText look
  dsimp only
  split
  · exact hghost
  · simp [hghost]

end Editor

namespace AssistSession

variable {session : AssistSession} {editor : Text}

/-- What was suggested is forgotten when it is taken back. -/
theorem entries_cancelFor (heditor : editorKey editor ≠ []) :
    ((session.cancelFor editor true).1.cacheOf editor).entries = [] := by
  unfold cancelFor
  dsimp only
  rw [if_neg (by simpa using heditor), if_pos rfl, cacheOf_withCache,
    if_pos (editorKey_editorKey editor).symm]
  rfl

theorem entries_noteEdit :
    ((session.noteEdit editor).cacheOf editor).entries = (session.cacheOf editor).entries := by
  unfold noteEdit
  split
  · rfl
  · rw [cacheOf_withCache, if_pos rfl]
    rfl

theorem current?_of_cancelFor (heditor : editorKey editor ≠ []) :
    (((session.cancelFor editor true).1.noteEdit editor).cacheOf editor).current? = none := by
  rw [SuggestionCache.current?, entries_noteEdit, entries_cancelFor heditor]
  rfl

/-- Once what was asked for is cancelled, an answer to it is stale for good. -/
theorem not_announces_of_cancelFor {answer : AssistAnswer} (heditor : editorKey editor ≠ [])
    (hanswer : editorKey answer.editor = editorKey editor)
    (htoken : answer.token ≤ session.latest editor) (events : List AssistEvent) :
    (Run.after next ((session.cancelFor editor true).1.noteEdit editor) events).announces
      answer = false := by
  rw [Bool.eq_false_iff]
  intro hannounced
  have hname := congrArg Prod.snd (name_of_announces hannounced)
  have hgrown := latest_le_after ((session.cancelFor editor true).1.noteEdit editor) events
    answer.editor
  have hkey (other : AssistSession) : other.latest answer.editor = other.latest editor := by
    rw [← latest_editorKey, hanswer, latest_editorKey]
  rw [hkey, hkey, latest_noteEdit, latest_cancelFor, if_pos ⟨heditor, rfl⟩] at hgrown
  simp only [AssistAnswer.name, hkey] at hname
  omega

end AssistSession

namespace Window

/-- What a window is like in which a file that holds a text was opened: it shows the text, and
no answer that was asked for before is heard from then on. -/
structure Opened (before : Window) (path raw : Text) (run : WindowRun Bool) : Prop where
  answer : run.answer = .ok true
  text : run.window.text = Text.unifyLineEnds raw
  filePath : run.window.filePath = path
  title : run.window.title = Path.baseName path ++ " - Schema Studio".toList
  ghost : run.window.editor.ghost = none
  forgotten : (run.window.assistant.cacheOf editorName).current? = none
  stale : ∀ answer : AssistAnswer, AssistSession.editorKey answer.editor = editorName →
    answer.token ≤ before.assistant.latest editorName →
    ∀ events, (Run.after AssistSession.next run.window.assistant events).announces answer = false

theorem load_of_decode (window : Window) {files : Files} {path raw : Text}
    {refusal : Option Files.Refusal} {octets : List UInt8}
    (hread : files.readUnless refusal (.ofText path) = .ok octets)
    (hdecode : Text.Utf8.decode octets = .ok raw) :
    ∃ notices, window.load files path refusal =
      { window := { window with
          editor := (window.editor.clearSuggestion.setText (Text.unifyLineEnds raw)).1
          assistant := (window.assistant.cancelFor editorName true).1.noteEdit editorName
          filePath := path }
        notices, answer := .ok true } := by
  unfold load
  rw [hread]
  dsimp only
  rw [hdecode]
  exact ⟨_, rfl⟩

/-- A path without a character leads to a directory. -/
theorem ne_nil_of_readUnless {files : Files} {refusal : Option Files.Refusal} {path : Text}
    {octets : List UInt8} (hread : files.readUnless refusal (.ofText path) = .ok octets) :
    path ≠ [] := by
  rintro rfl
  unfold Files.readUnless at hread
  split at hread
  · cases hread
  · cases hread

theorem opened_of_decode (window : Window) {files : Files} {path raw : Text}
    {refusal : Option Files.Refusal} {octets : List UInt8}
    (hread : files.readUnless refusal (.ofText path) = .ok octets)
    (hdecode : Text.Utf8.decode octets = .ok raw) :
    Opened window path raw (window.load files path refusal) := by
  obtain ⟨notices, hload⟩ := window.load_of_decode hread hdecode
  have hpath := ne_nil_of_readUnless hread
  have hname : AssistSession.editorKey editorName ≠ [] := by decide
  have hkey : AssistSession.editorKey editorName = editorName := by decide
  rw [hload]
  refine ⟨rfl, ?_, rfl, ?_, ?_, ?_, ?_⟩
  · exact (Editor.text_setText ..).trans
      (Text.dropReturnBeforeFeed_of_not_mem (Text.not_mem_unifyLineEnds raw))
  · simp [title, hpath]
  · exact Editor.ghost_setText_of_none rfl _
  · exact AssistSession.current?_of_cancelFor hname
  · intro answer hanswer htoken events
    have hstale := AssistSession.not_announces_of_cancelFor hname (hanswer.trans hkey.symm)
      htoken events
    exact hstale

theorem load_of_decode_error (window : Window) {files : Files} {path : Text}
    {refusal : Option Files.Refusal} {octets : List UInt8} {e : Text.Utf8.DecodeError}
    (hread : files.readUnless refusal (.ofText path) = .ok octets)
    (hdecode : Text.Utf8.decode octets = .error e) :
    window.load files path refusal =
      { window, answer := .error (.fault (FormatCommand.decodeFault e)) } := by
  unfold load
  rw [hread]
  dsimp only
  rw [hdecode]

/-- A fault of input or output is the answer no, and any other one is let through. -/
theorem load_of_read_error (window : Window) {files : Files} {path : Text}
    {refusal : Option Files.Refusal} {fault : Fault}
    (hread : files.readUnless refusal (.ofText path) = .error fault) :
    (window.load files path refusal).window = window ∧
      (window.load files path refusal).answer =
        if fault.kind.isIo then .ok false else .error (.fault fault) := by
  unfold load
  rw [hread]
  dsimp only [afterFault]
  split <;> exact ⟨rfl, rfl⟩

/-- Opening a file is all or nothing: the window shows the text of the file, or nothing has
changed and the answer is no. -/
def AllOrNothing (window : Window) (files : Files) (path : Text)
    (refusal : Option Files.Refusal) : Prop :=
  (∃ octets raw, files.readUnless refusal (.ofText path) = .ok octets ∧
    Text.Utf8.decode octets = .ok raw ∧
      Opened window path raw (window.load files path refusal)) ∨
  ((window.load files path refusal).answer = .ok false ∧
    (window.load files path refusal).window = window)

theorem not_allOrNothing_of_error {window : Window} {files : Files} {path : Text}
    {refusal : Option Files.Refusal} {e : WindowError}
    (hanswer : (window.load files path refusal).answer = .error e) :
    ¬AllOrNothing window files path refusal := by
  rintro (⟨octets, raw, -, -, hopened⟩ | ⟨hfalse, -⟩)
  · rw [hopened.answer] at hanswer
    cases hanswer
  · rw [hfalse] at hanswer
    cases hanswer

/-- A file can have the path, and what can be read there is a text. -/
structure Readable (files : Files) (path : Text) (refusal : Option Files.Refusal) : Prop where
  nul_not_mem : '\x00' ∉ path
  decodes : ∀ octets, files.readUnless refusal (.ofText path) = .ok octets →
    ∃ raw, Text.Utf8.decode octets = .ok raw

/-- What opening a file comes to. -/
theorem load_cases (window : Window) (files : Files) (path : Text)
    (refusal : Option Files.Refusal) :
    Readable files path refusal ∧ AllOrNothing window files path refusal ∨
    ¬Readable files path refusal ∧ ∃ fault,
      (window.load files path refusal).answer = .error (.fault fault) ∧
        fault.kind.isIo = false ∧ (window.load files path refusal).window = window := by
  have hshown : '\x00' ∈ (Path.ofText path).text ↔ '\x00' ∈ path :=
    Path.mem_text_ofText_iff (by decide) (by decide)
  cases hread : files.readUnless refusal (.ofText path) with
  | error fault =>
      obtain ⟨hwindow, hanswer⟩ := window.load_of_read_error hread
      have hio := Files.isIo_of_readUnless_iff hread
      rw [hshown] at hio
      by_cases hnul : '\x00' ∈ path
      · have hfault : fault.kind.isIo = false := by simpa [hnul] using hio
        rw [hfault] at hanswer
        exact .inr ⟨fun hreadable => hreadable.nul_not_mem hnul, fault, hanswer, hfault, hwindow⟩
      · rw [hio.mpr hnul] at hanswer
        refine .inl ⟨⟨hnul, fun octets hok => ?_⟩, .inr ⟨hanswer, hwindow⟩⟩
        rw [hread] at hok
        cases hok
  | ok octets =>
      have hnul : '\x00' ∉ path := by
        intro hnul
        rw [Files.readUnless_of_nul (hshown.mpr hnul)] at hread
        cases hread
      cases hdecode : Text.Utf8.decode octets with
      | error e =>
          have hload := window.load_of_decode_error hread hdecode
          refine .inr ⟨fun hreadable => ?_, FormatCommand.decodeFault e, ?_, rfl, ?_⟩
          · obtain ⟨raw, hraw⟩ := hreadable.decodes octets hread
            rw [hdecode] at hraw
            cases hraw
          · rw [hload]
          · rw [hload]
      | ok raw =>
          refine .inl ⟨⟨hnul, fun other hother => ?_⟩, .inl ⟨octets, raw, hread, hdecode, ?_⟩⟩
          · rw [hread] at hother
            cases hother
            exact ⟨raw, hdecode⟩
          · exact window.opened_of_decode hread hdecode

/-- Whatever the files are and whatever the system refuses, opening a file is all or nothing
exactly if a file can have the path and what can be read there is a text. Otherwise a fault is
let through, and nothing has changed. -/
theorem load_allOrNothing_iff (window : Window) (files : Files) (path : Text)
    (refusal : Option Files.Refusal) :
    (AllOrNothing window files path refusal ↔ Readable files path refusal) ∧
    (¬Readable files path refusal → ∃ fault,
      (window.load files path refusal).answer = .error (.fault fault) ∧
        fault.kind.isIo = false ∧ (window.load files path refusal).window = window) := by
  rcases window.load_cases files path refusal with ⟨hreadable, hall⟩ | ⟨hreadable, hbroken⟩
  · exact ⟨iff_of_true hall hreadable, fun hnot => absurd hreadable hnot⟩
  · obtain ⟨fault, hanswer, hrest⟩ := hbroken
    refine ⟨iff_of_false (not_allOrNothing_of_error hanswer) hreadable, fun _ => ?_⟩
    exact ⟨fault, hanswer, hrest⟩

/-- A file that holds one octet, which begins no character. -/
def garbledFiles : Files :=
  Files.empty.put (.ofText "/schema.prisma".toList) (.file [0xFF])

/-- A window in which a file is opened that holds no text, and then a path that no file can
have. -/
theorem garbled_file_not_allOrNothing :
    ∃ window, openOn .bare (fun _ => none) "model A \x7b\x7d".toList [] = .ok window ∧
      ¬AllOrNothing window garbledFiles "/schema.prisma".toList none ∧
      ¬AllOrNothing window garbledFiles "/schema\x00.prisma".toList none := by
  have hopen : openOn .bare (fun _ => none) "model A \x7b\x7d".toList [] = .ok _ := rfl
  have hread : garbledFiles.readUnless none (.ofText "/schema.prisma".toList) = .ok [0xFF] := rfl
  have hdecode : Text.Utf8.decode [0xFF] =
      .error { offset := 0, octets := [0xFF], flaw := .badStart } := by decide +kernel
  have hnul : garbledFiles.readUnless none (.ofText "/schema\x00.prisma".toList) = .error _ :=
    Files.readUnless_of_nul (by decide)
  refine ⟨_, hopen, ?_, ?_⟩
  · apply not_allOrNothing_of_error
    rw [load_of_decode_error _ hread hdecode]
  · apply not_allOrNothing_of_error
    exact (load_of_read_error _ hnul).2.trans (if_neg (by decide))

end Window

end SchemaDesk
