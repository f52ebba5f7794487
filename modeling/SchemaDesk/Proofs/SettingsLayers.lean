import SchemaDesk.Proofs.DocumentForms
import SchemaDesk.Settings.Layers

/-!
# Laying settings over defaults

What is found under a name after one object was laid over another is said once, and the
rest follows from it: values of the upper layer that are no objects are found where they
were, and laying the result over the same defaults again changes nothing.
-/

namespace SchemaDesk

namespace Settings

open Json

theorem overlayValue_of_not_object (below : Option Json) {value : Json}
    (hvalue : value.isObject = false) : overlayValue below value = value := by
  cases value with
  | obj fields => cases hvalue
  | _ => rfl

theorem overlayValue_none (value : Json) : overlayValue none value = value := by
  cases value <;> rfl

theorem overlayValue_over_not_object {lower : Json} (hlower : lower.isObject = false)
    (value : Json) : overlayValue (some lower) value = value := by
  cases lower with
  | obj fields => cases hlower
  | _ => cases value <;> rfl

theorem overlayValue_obj (lower upper : Fields) :
    overlayValue (some (.obj lower)) (.obj upper) = .obj (overlay lower upper) := by
  rw [overlayValue]

theorem overlay_cons (fields : Fields) (field : CodeText × Json) (rest : Fields) :
    overlay fields (field :: rest) =
      overlay (fields.set field.1 (overlayValue (fields.get? field.1) field.2)) rest := by
  rw [overlay]

/-- What is found under a name. -/
theorem get?_overlay (fields : Fields) {upper : Fields} (hnames : (Keyed.keys upper).Nodup)
    (name : CodeText) :
    (overlay fields upper).get? name =
      ((upper.get? name).map (overlayValue (fields.get? name))).or (fields.get? name) := by
  induction upper generalizing fields with
  | nil =>
      rw [overlay]
      rfl
  | cons field rest ih =>
      obtain ⟨hnew, hrest⟩ := List.nodup_cons.mp hnames
      rw [overlay_cons, ih _ hrest]
      by_cases hname : field.1 = name
      · subst hname
        have habsent : Fields.get? rest field.1 = none := Keyed.get?_eq_none_iff.mpr hnew
        have hfound : Fields.get? (field :: rest) field.1 = some field.2 := by
          simp [Fields.get?, Keyed.get?]
        rw [habsent, hfound]
        simp
      · have hskip : Fields.get? (field :: rest) name = Fields.get? rest name := by
          simp [Fields.get?, Keyed.get?, hname]
        rw [hskip, Fields.get?_set_of_ne _ _ (Ne.symm hname)]

/-- What one field that is laid over keeps, all of them keep. -/
theorem overlay_induction {motive : Fields → Prop} (upper : Fields)
    (set : ∀ field ∈ upper, ∀ fields : Fields, motive fields →
      motive (fields.set field.1 (overlayValue (fields.get? field.1) field.2)))
    {fields : Fields} (hfields : motive fields) : motive (overlay fields upper) := by
  induction upper generalizing fields with
  | nil =>
      rw [overlay]
      exact hfields
  | cons field rest ih =>
      rw [overlay_cons]
      exact ih (fun field hmem => set field (List.mem_cons_of_mem _ hmem))
        (set field List.mem_cons_self fields hfields)

/-- A property that an object has by its fields: by their names, if these are as wanted, and by
their values. -/
structure OfFields (wanted : CodeText → Prop) (property : Json → Prop) : Prop where
  field : ∀ {fields : Fields}, property (.obj fields) →
    ∀ field ∈ fields, wanted field.1 ∧ property field.2
  set : ∀ {fields : Fields} {name : CodeText} {value : Json}, property (.obj fields) →
    wanted name → property value → property (.obj (fields.set name value))

/-- What two layers have by their fields, they have when one is laid over the other. -/
theorem OfFields.overlayValue {wanted : CodeText → Prop} {property : Json → Prop}
    (hfields : OfFields wanted property) {below : Option Json} {value : Json}
    (hbelow : ∀ lower ∈ below, property lower) (hvalue : property value) :
    property (overlayValue below value) := by
  induction value using Json.induction generalizing below with
  | scalar value hscalar =>
      rw [overlayValue_of_not_object below (isObject_of_scalar hscalar)]
      exact hvalue
  | arr items ih => exact hvalue
  | obj upper ih =>
      have hupper := hfields.field hvalue
      cases below with
      | none =>
          rw [overlayValue_none]
          exact hvalue
      | some lower =>
          cases lower with
          | obj lower =>
              rw [overlayValue_obj]
              refine overlay_induction (motive := fun fields => property (.obj fields)) upper ?_
                (hbelow _ rfl)
              intro field hmem fields hproperty
              obtain ⟨hname, hfield⟩ := hupper field hmem
              refine hfields.set hproperty hname (ih field hmem ?_ hfield)
              intro lower hlower
              exact (hfields.field hproperty _ (Keyed.mem_of_get? hlower)).2
          | _ => exact hvalue

theorem OfFields.overlay {wanted : CodeText → Prop} {property : Json → Prop}
    (hfields : OfFields wanted property) {lower upper : Fields} (hlower : property (.obj lower))
    (hupper : property (.obj upper)) : property (.obj (overlay lower upper)) := by
  rw [← overlayValue_obj]
  refine hfields.overlayValue ?_ hupper
  rintro _ ⟨⟩
  exact hlower

theorem distinct_overlay {fields upper : Fields} (hfields : Distinct (.obj fields))
    (hupper : Distinct (.obj upper)) : Distinct (.obj (overlay fields upper)) := by
  have hdistinct : OfFields (fun _ => True) Distinct :=
    { field := fun hfields field hmem => ⟨trivial, (distinct_obj_iff.mp hfields).2 field hmem⟩
      set := fun hfields _ hvalue => distinct_set hfields hvalue _ }
  exact hdistinct.overlay hfields hupper

/-- Where the upper layer has a value, there is this value laid over what the lower layer has
there. -/
theorem atPath?_overlayValue_of_atPath? (below : Option Json) {value found : Json}
    (hdistinct : Distinct value) {names : List CodeText} (hfound : value.atPath? names = some found) :
    (overlayValue below value).atPath? names =
      some (overlayValue (below.bind fun lower => lower.atPath? names) found) := by
  induction names generalizing below value with
  | nil =>
      cases hfound
      cases below <;> rfl
  | cons name rest ih =>
      cases value with
      | obj upper =>
          obtain ⟨next, hnext, hrest⟩ := Option.bind_eq_some_iff.mp hfound
          cases below with
          | none => rw [overlayValue_none, hfound, Option.bind_none, overlayValue_none]
          | some lower =>
              cases lower with
              | obj lower =>
                  have hget := get?_overlay lower (distinct_obj_iff.mp hdistinct).1 name
                  rw [hnext, Option.map_some, Option.some_or] at hget
                  rw [overlayValue_obj, atPath?, hget, Option.bind_some, Option.bind_some, atPath?]
                  exact ih _ (distinct_get? hdistinct hnext) hrest
              | _ =>
                  -- Nothing of a layer that is no object shows through.
                  rw [overlayValue_over_not_object rfl, hfound]
                  exact congrArg some (overlayValue_none found).symm
      | _ => cases hfound

/-- A value that is no object is found where it stood in the upper layer. -/
theorem atPath?_overlayValue (below : Option Json) {value found : Json}
    (hdistinct : Distinct value) {names : List CodeText} (hfound : value.atPath? names = some found)
    (hscalar : found.isObject = false) : (overlayValue below value).atPath? names = some found := by
  rw [atPath?_overlayValue_of_atPath? below hdistinct hfound, overlayValue_of_not_object _ hscalar]

/-! ## Laying over again -/

/-- Every value is what it is with something laid over it. -/
theorem exists_overlayValue_self {lower : Json} (hlower : Distinct lower) :
    ∃ value, Distinct value ∧ overlayValue (some lower) value = lower := by
  cases hobject : lower.isObject with
  | false => exact ⟨lower, hlower, overlayValue_of_not_object _ hobject⟩
  | true =>
      cases lower with
      | obj fields =>
          refine ⟨.obj [], isDocument_nil.distinct, ?_⟩
          rw [overlayValue_obj, overlay]
      | _ => cases hobject

/-- What stands under a name after laying over is what stood there below, with something
laid over it. -/
theorem exists_overlayValue_of_get? {fields upper : Fields} {name : CodeText} {lower value : Json}
    (hfields : Distinct (.obj fields)) (hupper : Distinct (.obj upper))
    (hlower : fields.get? name = some lower)
    (hvalue : (overlay fields upper).get? name = some value) :
    ∃ part, Distinct part ∧ overlayValue (some lower) part = value := by
  rw [get?_overlay fields (distinct_obj_iff.mp hupper).1, hlower] at hvalue
  cases hpart : upper.get? name with
  | none =>
      rw [hpart] at hvalue
      cases hvalue
      exact exists_overlayValue_self (distinct_get? hfields hlower)
  | some part =>
      rw [hpart] at hvalue
      cases hvalue
      exact ⟨part, distinct_get? hupper hpart, rfl⟩

/-- Laying a result over the same defaults again changes no name of it, if it changes none
of the values that stand below. -/
theorem same_overlay {fields upper others : Fields} (hfields : Distinct (.obj fields))
    (hupper : Distinct (.obj upper)) (hothers : Distinct (.obj others))
    (hsame : Same (.obj others) (.obj (overlay fields upper)))
    (hinner : ∀ field ∈ fields, ∀ {value again : Json}, Distinct value → Distinct again →
      Same again (overlayValue (some field.2) value) →
        Same (overlayValue (some field.2) again) (overlayValue (some field.2) value)) :
    Same (.obj (overlay fields others)) (.obj (overlay fields upper)) := by
  refine .obj ?_
  intro name
  have hname := same_obj_iff.mp hsame name
  rw [get?_overlay fields (distinct_obj_iff.mp hothers).1 name]
  generalize hagain : Fields.get? others name = again at hname ⊢
  generalize hvalue : (overlay fields upper).get? name = value at hname ⊢
  cases hname with
  | none =>
      rw [get?_overlay fields (distinct_obj_iff.mp hupper).1 name, Option.or_eq_none_iff] at hvalue
      rw [hvalue.2]
      exact .none
  | @some again value hsame =>
      cases hlower : fields.get? name with
      | none =>
          rw [Option.map_some, Option.some_or, overlayValue_none]
          exact .some hsame
      | some lower =>
          rw [Option.map_some, Option.some_or]
          obtain ⟨part, hpart, rfl⟩ := exists_overlayValue_of_get? hfields hupper hlower hvalue
          exact .some (hinner (name, lower) (Keyed.mem_of_get? hlower) hpart
            (distinct_get? hothers hagain) hsame)

/-- Laying a result over the same value again changes nothing. -/
theorem same_overlayValue {lower value again : Json} (hlower : Distinct lower)
    (hvalue : Distinct value) (hagain : Distinct again)
    (hsame : Same again (overlayValue (some lower) value)) :
    Same (overlayValue (some lower) again) (overlayValue (some lower) value) := by
  induction lower using Json.induction generalizing value again with
  | scalar lower hscalar =>
      rw [overlayValue_over_not_object (isObject_of_scalar hscalar) again]
      exact hsame
  | arr items ih =>
      rw [overlayValue_over_not_object rfl again]
      exact hsame
  | obj fields ih =>
      cases hobject : again.isObject with
      | false =>
          rw [overlayValue_of_not_object _ hobject]
          exact hsame
      | true =>
          have hobjects := hsame.isObject_eq
          cases hupper : value.isObject with
          | false =>
              rw [overlayValue_of_not_object _ hupper, hobject, hupper] at hobjects
              cases hobjects
          | true =>
              obtain ⟨others, rfl⟩ := exists_fields hobject
              obtain ⟨upper, rfl⟩ := exists_fields hupper
              rw [overlayValue_obj] at hsame ⊢
              rw [overlayValue_obj]
              have hvalues := (distinct_obj_iff.mp hlower).2
              exact same_overlay hlower hvalue hagain hsame
                fun field hmem => ih field hmem (hvalues field hmem)

/-- The same for whole settings. -/
theorem same_overlay_again {fields upper others : Fields} (hfields : Distinct (.obj fields))
    (hupper : Distinct (.obj upper)) (hothers : Distinct (.obj others))
    (hsame : Same (.obj others) (.obj (overlay fields upper))) :
    Same (.obj (overlay fields others)) (.obj (overlay fields upper)) := by
  have hvalue := same_overlayValue hfields hupper hothers (by rwa [overlayValue_obj])
  rwa [overlayValue_obj, overlayValue_obj] at hvalue

end Settings

end SchemaDesk
