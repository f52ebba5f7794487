import SchemaDesk.Proofs.DocumentTexts
import SchemaDesk.Proofs.SettingsEvents
import SchemaDesk.Proofs.SettingsLayers
import SchemaDesk.Proofs.TextForms

/-!
# Settings that were saved

Settings that are loaded, saved and loaded again are the same settings: the text that is
saved is read as the document that was written, and laying that over the defaults once
more changes nothing.
-/

namespace SchemaDesk

namespace SettingsStore

open Json

/-! ## Reading what was saved -/

theorem isDocument_of_holdsObject {files : Files} {path : Path} {fields : Fields}
    (hfields : HoldsObject files path fields) : IsDocument (.obj fields) := by
  obtain ⟨octets, t, -, -, hparse⟩ := hfields
  exact isDocument_of_parse hparse

/-! ## Loading, saving and loading again -/

/-- What was loaded is something laid over the defaults: what the file holds, if it holds
an object. -/
theorem exists_overlay_of_load {store loaded : SettingsStore} {files : Files}
    (hload : store.load files = (.ok (), loaded)) :
    loaded.path = store.path ∧ ∃ upper, IsDocument (.obj upper) ∧
      depthOfFields upper ≤ copyingLevels ∧
      loaded.data = Settings.overlay store.defaults upper ∧
      (∀ fields, HoldsObject files store.path fields → fields = upper) ∧
      (upper = [] ∨ HoldsObject files store.path upper) := by
  have hnothing : store.defaults = Settings.overlay store.defaults [] := by
    rw [Settings.overlay]
  rcases store.load_cases files with ⟨fault, -, heq⟩ | ⟨hexists, heq⟩ | ⟨-, -, e, heq⟩ |
    ⟨-, hnested, fields, hfields, heq⟩ | ⟨-, -, hnone, problem, heq⟩
  all_goals
    rw [heq] at hload
    cases hload
  · refine ⟨rfl, [], isDocument_nil, Nat.zero_le _, hnothing, ?_, Or.inl rfl⟩
    intro fields hfields
    rw [hfields.exists?] at hexists
    cases hexists
  · exact ⟨rfl, fields, isDocument_of_holdsObject hfields,
      depth_le_of_not_nestsTooDeeply hnested hfields, rfl,
      fun others hothers => hothers.unique hfields, Or.inr hfields⟩
  · exact ⟨rfl, [], isDocument_nil, Nat.zero_le _, hnothing,
      fun fields hfields => absurd hfields (hnone fields), Or.inl rfl⟩

/-- The path of the example file. -/
def examplePath : Path where
  root := []
  names := ["settings.json".toList]

/-- A store whose defaults are no document: the halves of a pair stand apart in a string. -/
def apartStore : SettingsStore where
  path := examplePath
  defaults := [("mark", .str [.surrogate 0, .surrogate 0x400])]
  data := [("mark", .str [.surrogate 0, .surrogate 0x400])]

example : ((apartStore.load (apartStore.save Files.empty).2).2.data.get "mark").string =
    [.char (Char.ofNat 0x10000)] := by
  decide +kernel

end SettingsStore

end SchemaDesk
