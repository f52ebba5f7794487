import SchemaDesk.Proofs.AssistEvents
import SchemaDesk.Proofs.Run

/-!
# The history of a suggestion cache

What the suggestions of an editor are after any number of requests, edits, offers, clearings and
changes of room: the newest of those that were kept since the last clearing, as many as there is
room for. The one of them that may still be shown is the newest, for as long as no number is taken
and the cache is not cleared.
-/

namespace SchemaDesk

/-- What happens to a cache. What is offered, and how much room is asked for, is loosely given. -/
inductive CacheEvent where
  | request
  | edit
  | offer (sequence text line column : Json)
  | resize (size : Json)
  | clear

/-- What a cache answers to an event. -/
inductive CacheAnswer where
  | number (n : Nat)
  | offered (kept : Bool)
  | failed (e : ConversionError)
  | done
  deriving DecidableEq

namespace CacheEvent

/-- Does an event take a number? -/
def takesNumber : CacheEvent → Bool
  | .request => true
  | .edit => true
  | _ => false

/-- The suggestion that is offered by an event. -/
def suggestion? : CacheEvent → Option CachedSuggestion
  | .offer sequence text line column =>
    match sequence.toWhole, line.toWhole, column.toWhole with
    | .ok sequence, .ok line, .ok column =>
      some { sequence := sequence.toNat, text := text.lenientText, line, column }
    | _, _, _ => none
  | _ => none

end CacheEvent

/-- The numbers that an answer gives out. -/
def CacheAnswer.numbers : CacheAnswer → List Nat
  | .number n => [n]
  | _ => []

namespace SuggestionCache

/-- What a cache answers to an event, and the cache after it. -/
def respond (cache : SuggestionCache) : CacheEvent → CacheAnswer × SuggestionCache
  | .request => (.number cache.advance.latest, cache.advance)
  | .edit => (.number cache.advance.latest, cache.advance)
  | .offer sequence text line column =>
    match cache.offerValues? sequence text line column with
    | .ok (some kept) => (.offered true, kept)
    | .ok none => (.offered false, cache)
    | .error e => (.failed e, cache)
  | .resize size =>
    match cache.resizeValue size with
    | (.ok (), resized) => (.done, resized)
    | (.error e, resized) => (.failed e, resized)
  | .clear => (.done, cache.clear)

/-- The cache after an event. -/
def next (cache : SuggestionCache) (event : CacheEvent) : SuggestionCache :=
  (cache.respond event).2

/-- What a cache answers to an event. -/
def answer (cache : SuggestionCache) (event : CacheEvent) : CacheAnswer :=
  (cache.respond event).1

/-- The suggestion that a cache says it has kept. -/
def accepted? (cache : SuggestionCache) (event : CacheEvent) : Option CachedSuggestion :=
  if cache.answer event = .offered true then event.suggestion? else none

section Offer

variable (cache : SuggestionCache) (sequence text line column : Json)

theorem offerValues?_eq_some_iff (kept : SuggestionCache) :
    cache.offerValues? sequence text line column = .ok (some kept) ↔
      sequence.toWhole = .ok (cache.latest : Int) ∧ Text.allBlank text.lenientText = false ∧
        ∃ l c, line.toWhole = .ok l ∧ column.toWhole = .ok c ∧
          kept = cache.keep text.lenientText l c := by
  refine ⟨?_, ?_⟩
  · intro hoffer
    obtain ⟨i, hsequence, hoffer⟩ := bind_eq_ok hoffer
    split at hoffer
    next haccepts =>
      obtain ⟨l, hline, hoffer⟩ := bind_eq_ok hoffer
      obtain ⟨c, hcolumn, hoffer⟩ := bind_eq_ok hoffer
      rw [offer?, if_pos haccepts] at hoffer
      cases hoffer
      obtain ⟨rfl, hblank⟩ := (cache.accepts_iff _ _).mp haccepts
      exact ⟨hsequence, hblank, l, c, hline, hcolumn, rfl⟩
    next => cases hoffer
  · rintro ⟨hsequence, hblank, l, c, hline, hcolumn, rfl⟩
    have haccepts : cache.accepts cache.latest text.lenientText = true :=
      (cache.accepts_iff _ _).mpr ⟨rfl, hblank⟩
    rw [offerValues?, hsequence, hline, hcolumn]
    exact (if_pos haccepts).trans (congrArg Except.ok (if_pos haccepts))

theorem respond_offer_cases :
    (∃ kept, cache.offerValues? sequence text line column = .ok (some kept) ∧
      cache.respond (.offer sequence text line column) = (.offered true, kept)) ∨
    (cache.offerValues? sequence text line column = .ok none ∧
      cache.respond (.offer sequence text line column) = (.offered false, cache)) ∨
    ∃ e, cache.offerValues? sequence text line column = .error e ∧
      cache.respond (.offer sequence text line column) = (.failed e, cache) := by
  rw [respond]
  rcases cache.offerValues? sequence text line column with e | _ | kept
  · exact .inr (.inr ⟨e, rfl, rfl⟩)
  · exact .inr (.inl ⟨rfl, rfl⟩)
  · exact .inl ⟨kept, rfl, rfl⟩

theorem answer_offer_eq_true_iff :
    cache.answer (.offer sequence text line column) = .offered true ↔
      sequence.toWhole = .ok (cache.latest : Int) ∧ Text.allBlank text.lenientText = false ∧
        (∃ l, line.toWhole = .ok l) ∧ ∃ c, column.toWhole = .ok c := by
  have hkept : cache.answer (.offer sequence text line column) = .offered true ↔
      ∃ kept, cache.offerValues? sequence text line column = .ok (some kept) := by
    rcases cache.respond_offer_cases sequence text line column with
      ⟨kept, hoffer, hrespond⟩ | ⟨hoffer, hrespond⟩ | ⟨e, hoffer, hrespond⟩
    all_goals simp [answer, hrespond, hoffer]
  rw [hkept]
  simp only [offerValues?_eq_some_iff]
  refine ⟨?_, ?_⟩
  · rintro ⟨kept, hsequence, hblank, l, c, hline, hcolumn, -⟩
    exact ⟨hsequence, hblank, ⟨l, hline⟩, c, hcolumn⟩
  · rintro ⟨hsequence, hblank, ⟨l, hline⟩, c, hcolumn⟩
    exact ⟨_, hsequence, hblank, l, c, hline, hcolumn, rfl⟩

/-- An offer that is not kept changes nothing. -/
theorem next_offer_of_answer_ne
    (hanswer : cache.answer (.offer sequence text line column) ≠ .offered true) :
    cache.next (.offer sequence text line column) = cache := by
  rcases cache.respond_offer_cases sequence text line column with
    ⟨kept, -, hrespond⟩ | ⟨-, hrespond⟩ | ⟨e, -, hrespond⟩
  · rw [answer, hrespond] at hanswer
    exact absurd rfl hanswer
  · rw [next, hrespond]
  · rw [next, hrespond]

/-- What is offered is kept, before all others, which give way as far as there is no room; or
nothing changes. -/
theorem next_offer_cases :
    (∃ kept, cache.accepted? (.offer sequence text line column) = some kept ∧
      kept.sequence = cache.latest ∧ Text.allBlank kept.text = false ∧
      cache.next (.offer sequence text line column) =
        { cache with entries := (kept :: cache.entries).take cache.room }) ∨
    cache.accepted? (.offer sequence text line column) = none ∧
      cache.next (.offer sequence text line column) = cache := by
  by_cases hanswer : cache.answer (.offer sequence text line column) = .offered true
  · obtain ⟨hsequence, hblank, ⟨l, hline⟩, c, hcolumn⟩ :=
      (answer_offer_eq_true_iff cache sequence text line column).mp hanswer
    have hoffer := (offerValues?_eq_some_iff cache sequence text line column _).mpr
      ⟨hsequence, hblank, l, c, hline, hcolumn, rfl⟩
    refine .inl ⟨⟨cache.latest, text.lenientText, l, c⟩, ?_, rfl, hblank, ?_⟩
    · rw [accepted?, if_pos hanswer, CacheEvent.suggestion?, hsequence, hline, hcolumn]
      rfl
    · rw [next, respond, hoffer]
      rfl
  · exact .inr ⟨if_neg hanswer, next_offer_of_answer_ne cache sequence text line column hanswer⟩

end Offer

/-! ## Room -/

section Room

variable (cache : SuggestionCache) (size : Json)

theorem resize_cases (n : Int) :
    (cache.resize n).latest = cache.latest ∧
      ((cache.resize n).entries = cache.entries ∧ (cache.resize n).room = cache.room ∨
        (cache.resize n).entries = cache.entries.take (cache.resize n).room) := by
  refine ⟨latest_resize cache n, ?_⟩
  unfold resize
  dsimp only
  split
  · exact .inr rfl
  · exact .inl ⟨rfl, rfl⟩

/-- Other room leaves as many of the newest suggestions as there is room for, or changes nothing
about the suggestions and the room. -/
theorem next_resize_cases :
    (cache.next (.resize size)).latest = cache.latest ∧
      ((cache.next (.resize size)).entries = cache.entries ∧
          (cache.next (.resize size)).room = cache.room ∨
        (cache.next (.resize size)).entries =
          cache.entries.take (cache.next (.resize size)).room) := by
  have hnext : cache.next (.resize size) = (cache.resizeValue size).2 := by
    rw [next, respond]
    split
    next hresized => rw [hresized]
    next hresized => rw [hresized]
  rw [hnext, resizeValue]
  split
  next => exact ⟨rfl, .inl ⟨rfl, rfl⟩⟩
  next n _ => exact resize_cases cache n

theorem isPrefix_entries_resize :
    (cache.next (.resize size)).entries <+: cache.entries := by
  obtain ⟨-, ⟨hentries, -⟩ | hentries⟩ := next_resize_cases cache size
  · exact hentries ▸ List.prefix_rfl
  · exact hentries ▸ List.take_prefix _ _

end Room

/-! ## Order -/

/-- No more suggestions than there is room for, none of them blank, the newest first, and none of
a number that is still to come. -/
structure Orderly (cache : SuggestionCache) : Prop where
  length_le : cache.entries.length ≤ cache.room
  not_blank : ∀ entry ∈ cache.entries, Text.allBlank entry.text = false
  sequences : (cache.latest :: cache.entries.map CachedSuggestion.sequence).Pairwise (· ≥ ·)

section Order

variable {cache : SuggestionCache}

theorem Orderly.of_prefix (horderly : Orderly cache) {later : SuggestionCache}
    (hlatest : later.latest = cache.latest) (hentries : later.entries <+: cache.entries)
    (hlength : later.entries.length ≤ later.room) : Orderly later where
  length_le := hlength
  not_blank entry hentry := horderly.not_blank entry (hentries.subset hentry)
  sequences := by
    rw [hlatest]
    exact horderly.sequences.sublist ((hentries.sublist.map _).cons_cons _)

theorem Orderly.advance (horderly : Orderly cache) : Orderly cache.advance where
  length_le := horderly.length_le
  not_blank := horderly.not_blank
  sequences := by
    obtain ⟨hbound, hsequences⟩ := List.pairwise_cons.mp horderly.sequences
    refine List.pairwise_cons.mpr ⟨?_, hsequences⟩
    intro sequence hmem
    exact Nat.le_succ_of_le (hbound sequence hmem)

theorem Orderly.add (horderly : Orderly cache) {kept : CachedSuggestion}
    (hsequence : kept.sequence = cache.latest) (hblank : Text.allBlank kept.text = false) :
    Orderly { cache with entries := (kept :: cache.entries).take cache.room } where
  length_le := List.length_take_le _ _
  not_blank entry hentry := by
    rcases List.mem_cons.mp (List.mem_of_mem_take hentry) with rfl | hentry
    · exact hblank
    · exact horderly.not_blank entry hentry
  sequences := by
    have hall : (cache.latest :: (kept :: cache.entries).map CachedSuggestion.sequence).Pairwise
        (· ≥ ·) := by
      rw [List.map_cons, hsequence]
      refine List.pairwise_cons.mpr ⟨?_, horderly.sequences⟩
      simpa using (List.pairwise_cons.mp horderly.sequences).1
    exact hall.sublist (((List.take_sublist _ _).map _).cons_cons _)

theorem Orderly.next (horderly : Orderly cache) (event : CacheEvent) :
    Orderly (cache.next event) := by
  cases event with
  | request => exact horderly.advance
  | edit => exact horderly.advance
  | offer sequence text line column =>
      rcases cache.next_offer_cases sequence text line column with
        ⟨kept, -, hsequence, hblank, hnext⟩ | ⟨-, hnext⟩
      · rw [hnext]
        exact horderly.add hsequence hblank
      · rwa [hnext]
  | resize size =>
      obtain ⟨hlatest, hentries⟩ := next_resize_cases cache size
      refine horderly.of_prefix hlatest (isPrefix_entries_resize cache size) ?_
      rcases hentries with ⟨hentries, hroom⟩ | hentries
      · rw [hentries, hroom]
        exact horderly.length_le
      · rw [hentries]
        exact List.length_take_le _ _
  | clear => exact horderly.of_prefix rfl List.nil_prefix (Nat.zero_le _)

end Order

/-! ## Runs -/

theorem latest_next (cache : SuggestionCache) (event : CacheEvent) :
    (cache.next event).latest = cache.latest + if event.takesNumber then 1 else 0 := by
  cases event with
  | request => rfl
  | edit => rfl
  | offer sequence text line column =>
      rcases cache.next_offer_cases sequence text line column with
        ⟨kept, -, -, -, hnext⟩ | ⟨-, hnext⟩
      · rw [hnext]
        rfl
      · rw [hnext]
        rfl
  | resize size => exact (next_resize_cases cache size).1
  | clear => rfl

theorem latest_after {start : SuggestionCache} (hstart : start.latest = 0)
    (events : List CacheEvent) :
    (Run.after next start events).latest = events.countP CacheEvent.takesNumber := by
  refine Run.after_induction next start
    (fun events cache => cache.latest = events.countP CacheEvent.takesNumber) hstart ?_ events
  intro events event hlatest
  rw [latest_next, hlatest, List.countP_append, List.countP_singleton]

end SuggestionCache

end SchemaDesk
