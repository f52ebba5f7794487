import Mathlib.Data.List.Forall2
import SchemaDesk.Proofs.TidyDocuments

/-!
# What the local pass moves

Between any two line feeds the local pass keeps what stands between the white space at the
edges, and it keeps a carriage return in front of the second line feed; the rest of the
white space at the end is gone. So it does the same to a document whichever of the two line
ends the document is written with.
-/

namespace SchemaDesk

namespace Text

/-! ## Carriage returns put in -/

/-- The text with a carriage return put in before every line feed. -/
def withReturns (t : Text) : Text :=
  t.flatMap fun c => if c = '\n' then ['\r', '\n'] else [c]

theorem withReturns_append (t rest : Text) :
    withReturns (t ++ rest) = withReturns t ++ withReturns rest :=
  List.flatMap_append

theorem withReturns_of_not_mem {t : Text} (hfeed : '\n' ∉ t) : withReturns t = t := by
  induction t with
  | nil => rfl
  | cons c t ih =>
      obtain ⟨hc, ht⟩ : '\n' ≠ c ∧ '\n' ∉ t := by simpa using hfeed
      have hcut : withReturns (c :: t) =
          (if c = '\n' then ['\r', '\n'] else [c]) ++ withReturns t :=
        rfl
      rw [hcut, if_neg (Ne.symm hc), ih ht]
      rfl

/-- The lines are the same, and each ends with both characters. -/
theorem withReturns_written (lines : List Line) (last : Line) :
    withReturns (written (lines.map (·, .feed)) last) =
      written (lines.map (·, .returnFeed)) last := by
  induction lines with
  | nil => exact withReturns_of_not_mem last.feed_not_mem
  | cons line lines ih =>
      have hends : withReturns LineEnd.feed.text = LineEnd.returnFeed.text := rfl
      rw [List.map_cons, List.map_cons, written_cons, written_cons, withReturns_append,
        withReturns_append, withReturns_of_not_mem line.feed_not_mem, hends, ih]

/-- A text without carriage returns is written with line feeds alone. -/
theorem exists_written_feeds {t : Text} (hreturn : '\r' ∉ t) :
    ∃ (lines : List Line) (last : Line), t = written (lines.map (·, .feed)) last := by
  have hpaired : ReturnsPaired t := by
    intro after hafter
    exact absurd (hafter.subset List.mem_cons_self) hreturn
  obtain ⟨ended, last, rfl⟩ := hpaired.exists_written
  refine ⟨ended.map (·.1), last, ?_⟩
  rw [List.map_map]
  congr 1
  refine (List.map_id ended).symm.trans (List.map_congr_left ?_)
  rintro ⟨line, ending⟩ hmem
  cases ending with
  | feed => rfl
  | returnFeed =>
      refine absurd (List.mem_append_left _ (List.mem_flatMap.mpr ⟨_, hmem, ?_⟩)) hreturn
      simp [LineEnd.text]

end Text

open Text

namespace LocalPass

/-! ## One part -/

/-- A part between line feeds without the carriage return at its end, if there is one: the
line before its line end. -/
def lineOf (part : Text) : Text :=
  if part.getLast? = some '\r' then part.dropLast else part

/-- What a part is made into differs from it in white space at the edges only, and none is left
at the end of its line. -/
structure MovesEdges (part formatted : Text) : Prop where
  return_iff : formatted.getLast? = some '\r' ↔ part.getLast? = some '\r'
  strip_eq : strip formatted = strip part
  no_blank_end : ∀ c, (lineOf formatted).getLast? = some c → isBlank c = false

theorem getLast?_formatPart_eq_return_iff (part : Text) :
    (formatPart part).getLast? = some '\r' ↔ part.getLast? = some '\r' := by
  unfold formatPart
  split
  next hreturn => simp [hreturn]
  next hreturn => exact iff_of_false (formatLine_not_ends_return part) hreturn

theorem strip_formatPart (part : Text) : strip (formatPart part) = strip part := by
  unfold formatPart
  split
  next hreturn =>
    obtain ⟨line, rfl⟩ := List.getLast?_eq_some_iff.mp hreturn
    have hblank : ∀ c ∈ ['\r'], isBlank c = true := List.all_eq_true.mp rfl
    rw [List.dropLast_concat, strip_append_blank hblank, strip_append_blank hblank,
      strip_formatLine]
  next => exact strip_formatLine part

theorem TidyPart.tidy_lineOf {part : Text} (htidy : TidyPart part) : Tidy (lineOf part) := by
  unfold TidyPart at htidy
  unfold lineOf
  split at htidy
  next hreturn => rwa [if_pos hreturn]
  next hreturn => rwa [if_neg hreturn]

theorem movesEdges_formatPart (part : Text) : MovesEdges part (formatPart part) where
  return_iff := getLast?_formatPart_eq_return_iff part
  strip_eq := strip_formatPart part
  no_blank_end := (tidyPart_formatPart part).tidy_lineOf.no_blank_end

/-! ## A document -/

theorem movesEdges_format (t : Text) :
    List.Forall₂ MovesEdges (splitLines t) (splitLines (format t)) := by
  rw [splitLines_format, List.forall₂_map_right_iff, List.forall₂_same]
  intro part _
  exact movesEdges_formatPart part

theorem format_withReturns {t : Text} (hreturn : '\r' ∉ t) :
    format (withReturns t) = withReturns (format t) := by
  obtain ⟨lines, last, rfl⟩ := exists_written_feeds hreturn
  have hformatted (ending : LineEnd) :
      format (written (lines.map (·, ending)) last) =
        written ((lines.map Line.formatted).map (·, ending)) last.formatted := by
    rw [format_written, List.map_map, List.map_map]
    rfl
  rw [withReturns_written, hformatted, hformatted, withReturns_written]

/-- The local pass moves white space at the edges of lines, part by part, and nothing else; and
a document with carriage returns is formatted as it is without them. -/
theorem format_moves_edges :
    (∀ t : Text, List.Forall₂ MovesEdges (splitLines t) (splitLines (format t))) ∧
      ∀ t : Text, '\r' ∉ t → format (withReturns t) = withReturns (format t) :=
  ⟨movesEdges_format, fun _ hreturn => format_withReturns hreturn⟩

theorem format_moves_edges_model :
    '\r' ∉ "model A \x7b\n    id Int   \n\x7d\n".toList ∧
      format (withReturns "model A \x7b\n    id Int   \n\x7d\n".toList) =
        "model A \x7b\r\n  id Int\r\n\x7d\r\n".toList := by
  have hreturn : '\r' ∉ "model A \x7b\n    id Int   \n\x7d\n".toList := by decide
  refine ⟨hreturn, ?_⟩
  rw [format_moves_edges.2 _ hreturn]
  decide

end LocalPass

end SchemaDesk
