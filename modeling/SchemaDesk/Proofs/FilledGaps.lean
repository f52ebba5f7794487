import SchemaDesk.Proofs.NormalSections

/-!
# Gaps in settings

Settings laid over defaults, told path by path. What the settings say stays, what they leave
out is filled in from the defaults, and nothing else comes in. The result has no gaps left, so
laying it over the same defaults again changes nothing.
-/

namespace SchemaDesk

namespace Json

theorem atPath?_append (value : Json) (front rest : List CodeText) :
    value.atPath? (front ++ rest) = (value.atPath? front).bind fun part => part.atPath? rest := by
  induction front generalizing value with
  | nil => simp [atPath?]
  | cons name front ih =>
      cases value with
      | obj fields => simp only [List.cons_append, atPath?, ih, Option.bind_assoc]
      | _ => rfl

theorem distinct_atPath? {value found : Json} (hdistinct : Distinct value) {names : List CodeText}
    (hfound : value.atPath? names = some found) : Distinct found := by
  induction names generalizing value with
  | nil =>
      cases hfound
      exact hdistinct
  | cons name rest ih =>
      cases value with
      | obj fields =>
          obtain ⟨next, hnext, hrest⟩ := Option.bind_eq_some_iff.mp hfound
          exact ih (distinct_get? hdistinct hnext) hrest
      | _ => cases hfound

theorem Same.refl (value : Json) : Same value value := by
  induction value using Json.induction with
  | scalar value hscalar => exact .scalar hscalar
  | arr items ih => exact .arr (List.forall₂_same.mpr ih)
  | obj fields ih =>
      refine .obj ?_
      intro name
      cases hvalue : fields.get? name with
      | none => exact .none
      | some value => exact .some (ih (name, value) (Keyed.mem_of_get? hvalue))

end Json

namespace Settings

open Json

/-- What is owed to settings and to defaults by what both were merged into. -/
structure FillsGaps (data defaults merged : Json) : Prop where
  value_kept : ∀ path value, data.atPath? path = some value → value.isObject = false →
    merged.atPath? path = some value
  object_kept : ∀ path upper, data.atPath? path = some (.obj upper) →
    ∃ fields, merged.atPath? path = some (.obj fields)
  /-- Where an object lacks a name, the default that the name leads to is filled in, if there is
  one, however far below. -/
  gap_filled : ∀ front name rest (upper : Fields) value, data.atPath? front = some (.obj upper) →
    upper.get? name = none → defaults.atPath? (front ++ name :: rest) = some value →
      merged.atPath? (front ++ name :: rest) = some value
  nothing_more : ∀ path, (merged.atPath? path).isSome = true →
    (data.atPath? path).isSome = true ∨ (defaults.atPath? path).isSome = true

section Paths

variable {data : Json} (hdata : Distinct data)

include hdata

theorem exists_fields_at_overlayValue (below : Option Json) {path : List CodeText} {upper : Fields}
    (hupper : data.atPath? path = some (.obj upper)) :
    ∃ fields, (overlayValue below data).atPath? path = some (.obj fields) := by
  rw [atPath?_overlayValue_of_atPath? below hdata hupper]
  cases below.bind fun lower => lower.atPath? path with
  | none => exact ⟨upper, by rw [overlayValue_none]⟩
  | some lower =>
      cases lower with
      | obj lower => exact ⟨overlay lower upper, by rw [overlayValue_obj]⟩
      | _ => exact ⟨upper, by rw [overlayValue_over_not_object rfl]⟩

/-- What an object does not name shows through from below. -/
theorem atPath?_overlayValue_of_gap {defaults value : Json} {front rest : List CodeText}
    {name : CodeText} {upper : Fields} (hupper : data.atPath? front = some (.obj upper))
    (hgap : upper.get? name = none)
    (hvalue : defaults.atPath? (front ++ name :: rest) = some value) :
    (overlayValue (some defaults) data).atPath? (front ++ name :: rest) = some value := by
  rw [atPath?_append] at hvalue ⊢
  obtain ⟨lower, hlower, hvalue⟩ := Option.bind_eq_some_iff.mp hvalue
  rw [atPath?_overlayValue_of_atPath? _ hdata hupper, Option.bind_some, Option.bind_some, hlower]
  cases lower with
  | obj lower =>
      have hnames := (distinct_obj_iff.mp (distinct_atPath? hdata hupper)).1
      have hget := get?_overlay lower hnames name
      rw [hgap, Option.map_none, Option.none_or] at hget
      rw [overlayValue_obj, atPath?, hget]
      exact hvalue
  | _ => cases hvalue

/-- A path leads somewhere only if it does in one of the layers. -/
theorem isSome_atPath?_of_overlayValue {below : Option Json} {path : List CodeText}
    (hfound : ((overlayValue below data).atPath? path).isSome = true) :
    (data.atPath? path).isSome = true ∨
      ∃ lower ∈ below, (lower.atPath? path).isSome = true := by
  induction path generalizing below data with
  | nil => exact .inl rfl
  | cons name rest ih =>
      cases data with
      | obj upper =>
          cases below with
          | none =>
              rw [overlayValue_none] at hfound
              exact .inl hfound
          | some lower =>
              cases lower with
              | obj lower =>
                  rw [overlayValue_obj, atPath?, get?_overlay lower (distinct_obj_iff.mp hdata).1]
                    at hfound
                  simp only [Option.mem_some_iff, exists_eq_left', atPath?]
                  cases hnext : Fields.get? upper name with
                  | none =>
                      rw [hnext] at hfound
                      exact .inr hfound
                  | some next =>
                      rw [hnext] at hfound
                      rcases ih (distinct_get? hdata hnext) hfound with
                        hupper | ⟨value, hvalue, hlower⟩
                      · exact .inl hupper
                      · rw [Option.mem_def.mp hvalue]
                        exact .inr hlower
              | _ =>
                  rw [overlayValue_over_not_object rfl] at hfound
                  exact .inl hfound
      | _ => cases hfound

theorem fillsGaps_overlayValue (defaults : Json) :
    FillsGaps data defaults (overlayValue (some defaults) data) where
  value_kept _ _ hvalue hscalar := atPath?_overlayValue _ hdata hvalue hscalar
  object_kept _ _ hupper := exists_fields_at_overlayValue hdata _ hupper
  gap_filled _ _ _ _ _ hupper hgap hvalue := atPath?_overlayValue_of_gap hdata hupper hgap hvalue
  nothing_more _ hfound := by
    simpa using isSome_atPath?_of_overlayValue hdata hfound

end Paths

/-- Settings laid over defaults have every value and every object of the settings, the defaults
where these have gaps, and nothing else; and laid over the same defaults again they are the
same settings. -/
theorem overlay_fills_gaps {data defaults : Fields} (hdata : Distinct (.obj data))
    (hdefaults : Distinct (.obj defaults)) :
    FillsGaps (.obj data) (.obj defaults) (.obj (overlay defaults data)) ∧
      Same (.obj (overlay defaults (overlay defaults data))) (.obj (overlay defaults data)) := by
  refine ⟨?_, ?_⟩
  · rw [← overlayValue_obj]
    exact fillsGaps_overlayValue hdata (.obj defaults)
  · exact same_overlay_again hdefaults hdata (distinct_overlay hdefaults hdata) (.refl _)

/-- Settings with a section that is no object and one that names next to nothing. -/
def exampleData : Fields :=
  [("editor", .obj [("tab_size", .null)]), ("formatter", .int 3)]

theorem exampleData_distinct : Distinct (.obj exampleData) := by
  refine .obj (by decide) ?_
  intro field hmem
  simp only [exampleData, List.mem_cons, List.not_mem_nil, or_false] at hmem
  rcases hmem with rfl | rfl
  · refine .obj (by decide) ?_
    intro field hmem
    rw [List.mem_singleton.mp hmem]
    exact .scalar .null
  · exact .scalar (.int 3)

theorem overlay_fills_gaps_defaults :
    Distinct (.obj exampleData) ∧ Distinct (.obj defaults) ∧
      (Json.obj (overlay defaults exampleData)).atPath? ["formatter"] = some (.int 3) ∧
      (Json.obj (overlay defaults exampleData)).atPath? ["editor", "font_size"] =
        some (.int 14) ∧
      (Json.obj (overlay defaults exampleData)).atPath? ["ai", "cache_size"] = some (.int 8) := by
  obtain ⟨hfills, -⟩ := overlay_fills_gaps exampleData_distinct defaults_distinct
  exact ⟨exampleData_distinct, defaults_distinct, hfills.value_kept _ _ rfl rfl,
    hfills.gap_filled ["editor"] "font_size" [] _ _ rfl rfl rfl,
    hfills.gap_filled [] "ai" ["cache_size"] _ _ rfl rfl rfl⟩

end Settings

end SchemaDesk
