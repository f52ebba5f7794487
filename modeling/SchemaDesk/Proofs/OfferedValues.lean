import SchemaDesk.Proofs.CursorSigns
import SchemaDesk.Proofs.KeyOrder
import SchemaDesk.Proofs.OpenBraces
import SchemaDesk.Proofs.RequestedPlaces

/-!
# Values that are offered

Behind the equals sign of a property the catalog's values of that property are offered, and
nothing else, and of the two tables that of the block around the line. A line is inside a block
once the blocks before it are closed, whatever is written behind it.
-/

namespace SchemaDesk

namespace Block

/-- The line stands in the body of a block, and in no other: the blocks before it are closed,
no keyword starts a line between its header and the line, and its braces stay open. -/
def InBody (kind : BlockKind) (before : List Text) (line : Text) : Prop :=
  ∃ (earlier : List Passage) (header : Text) (body : List Text),
    before = (linesOf earlier).map (·.1) ++ header :: body ∧
      opens kind.keyword.toList header = true ∧ (∀ other ∈ body, Plain other) ∧
        StaysOpen (body ++ [line])

namespace InBody

variable {kind : BlockKind} {before : List Text} {line : Text}

theorem contains_eq (h : InBody kind before line) (other : BlockKind) :
    contains other.keyword.toList before line = decide (other = kind) := by
  obtain ⟨earlier, header, body, rfl, hheader, hbody, hopen⟩ := h
  by_cases hkind : other = kind
  · subst hkind
    have hkeyword : other.keyword.toList ≠ [] := by cases other <;> decide
    rw [decide_eq_true rfl, contains_header_iff hkeyword _ hheader fun l hl => hbody l hl other]
    exact (staysOpen_concat body line).mp hopen
  · have hother : opens other.keyword.toList header = false := by
      apply Bool.eq_false_iff.mpr
      intro hopens
      exact hkind (opens_unique hopens hheader)
    have hnone : (header :: body).foldl (track other.keyword.toList) none = none := by
      refine foldl_track_none fun l hl => ?_
      rcases List.mem_cons.mp hl with rfl | hl
      · exact hother
      · exact hbody l hl other
    rw [contains_keyword, List.foldl_append, foldl_track_linesOf, hnone, decide_eq_false hkind]

end InBody

/-- Every prefix of the body of a written block leaves it open. -/
theorem Written.staysOpen_body (written : Written) : StaysOpen written.body := by
  intro part hpart
  rcases List.eq_nil_or_concat part with rfl | ⟨front, line, rfl⟩
  · decide
  · have hcount := hpart.length_le
    rw [List.concat_eq_append, List.length_append, List.length_singleton] at hcount
    have hopen := written.stays_open front.length hcount
    rwa [List.prefix_iff_eq_take.mp hpart, List.concat_eq_append, List.length_append,
      List.length_singleton]

/-- The body lines of a document of blocks are such lines. -/
theorem inBody_of_linesOf {kind : BlockKind} {document : List Passage}
    {before after : List (Text × Option BlockKind)} {line : Text}
    (hsplit : linesOf document = before ++ (line, some kind) :: after) :
    InBody kind (before.map (·.1)) line := by
  obtain ⟨earlier, passage, front, rear, rfl, hpassage⟩ := exists_passage hsplit
  rcases Passage.split_cases hpassage with
    ⟨-, hnone⟩ | ⟨written, part, more, hfront, hbody, howner⟩ | ⟨written, -, -, hnone⟩
  · cases hnone
  · cases howner
    refine ⟨earlier, written.header, part, ?_, written.opens_header, ?_, ?_⟩
    · rw [List.map_append, hfront]
    · intro other hmem
      exact written.plain_body other (by simp [hbody, hmem])
    · intro initial hinitial
      refine written.staysOpen_body initial (hinitial.trans ?_)
      exact ⟨more, by simp [hbody]⟩
  · cases hnone

end Block

namespace Catalog

open Suggestion

theorem nodup_knownValues (kind : BlockKind) : ((knownValues kind).map (·.1)).Nodup := by
  cases kind <;> decide

theorem values_of_mem {kind : BlockKind} {property : String} {entries : List Suggestion}
    (hmem : (property, entries) ∈ knownValues kind) : values kind property = entries := by
  unfold values
  split
  next own found hfound =>
    have hname : own = property := by simpa using List.find?_some hfound
    have hpair := List.inj_on_of_nodup_map (nodup_knownValues kind)
      (List.mem_of_find?_eq_some hfound) hmem hname
    exact (Prod.mk.inj hpair).2
  next hnone =>
    have hother := List.find?_eq_none.mp hnone _ hmem
    simp at hother

theorem values_of_not_mem {kind : BlockKind} {property : String}
    (hnone : ∀ entries, (property, entries) ∉ knownValues kind) : values kind property = [] := by
  unfold values
  split
  next own found hfound =>
    have hname : own = property := by simpa using List.find?_some hfound
    exact absurd (hname ▸ List.mem_of_find?_eq_some hfound) (hnone found)
  next => rfl

/-- The values of a property are numbered through, and few. -/
theorem numbered_of_mem_knownValues {kind : BlockKind} {property : String}
    {entries : List Suggestion} (hmem : (property, entries) ∈ knownValues kind) :
    Numbered .value entries ∧ entries.length ≤ 1000 := by
  cases kind <;> simp only [knownValues, generatorValues, datasourceValues, List.mem_cons,
    Prod.mk.injEq, List.not_mem_nil, or_false] at hmem
  all_goals
    rcases hmem with ⟨-, rfl⟩ | ⟨-, rfl⟩ | ⟨-, rfl⟩ <;>
      exact ⟨numbered_table _ _ _, by decide⟩

end Catalog

/-- Around a line in the body of a block is that block alone. -/
theorem BlockScope.around_of_inBody {kind : BlockKind} {before : List Text} {line : Text}
    (hbody : Block.InBody kind before line) :
    around before line =
      { generator := decide (kind = .generator), datasource := decide (kind = .datasource)
        model := decide (kind = .model), enum := decide (kind = .enum) } := by
  simp only [around, hbody.contains_eq, eq_comm]

namespace Completion

open Suggestion Catalog

section

variable {lines : List Text} {position : Position} {trigger : Option Text} {kind : BlockKind}
  {property : Text}

/-- Behind the equals sign of a property the values of the property are chosen. -/
theorem choose_values
    (hbody : Block.InBody kind (CompletionContext.atPlace lines position trigger).linesBefore
      (CompletionContext.atPlace lines position trigger).currentLine)
    (hkind : kind = .generator ∨ kind = .datasource)
    (hvalue : Cues.AwaitsValue (CompletionContext.atPlace lines position trigger).beforeCursor
      property trigger) :
    choose (.atPlace lines position trigger) lines =
      (values kind (String.ofList property), .value) := by
  set context := CompletionContext.atPlace lines position trigger
  have hscope := BlockScope.around_of_inBody hbody
  change context.scope = _ at hscope
  have hat : context.cues.afterAtSign = false := Cues.afterAtSign_read hvalue.at_not_mem trigger
  have hdefault : context.cues.insideDefault = false :=
    Cues.insideDefault_read hvalue.at_not_mem trigger
  have hequals : context.cues.afterEquals = true := hvalue.afterEquals_read
  have hproperty : context.cues.property = property := hvalue.property_read
  rcases hkind with rfl | rfl <;>
    simp [choose, propertyBlock?, BlockScope.isTopLevel, hscope, hat, hdefault, hequals, hproperty]

end

/-- Behind the equals sign of a property, in the body of a generator or a datasource, the
answer holds the values that the catalog has for the property in a block of that kind, in the
order of the catalog, and no other entry; it is empty where the catalog has none. -/
theorem values_offered_alone {document : Document} {requested : RequestedPosition}
    {trigger : Option Text} {context : CompletionContext} {kind : BlockKind} {property : Text}
    (hcontext : CompletionContext.ofRequest document.toLines requested trigger = .ok context)
    (hbody : Block.InBody kind context.linesBefore context.currentLine)
    (hkind : kind = .generator ∨ kind = .datasource)
    (hvalue : Cues.AwaitsValue context.beforeCursor property trigger) :
    ∃ items, suggest document requested trigger = .ok items ∧
      (∀ entries, (String.ofList property, entries) ∈ knownValues kind →
        items = entries.map (·.placedAt (tokenRange context .value))) ∧
      ((∀ entries, (String.ofList property, entries) ∉ knownValues kind) → items = []) := by
  obtain ⟨position, hclamp, rfl⟩ := CompletionContext.ofRequest_eq_ok hcontext
  refine ⟨_, suggest_of_clamp hclamp trigger, ?_, ?_⟩
  · intro entries hentries
    obtain ⟨hnumbered, hfew⟩ := numbered_of_mem_knownValues hentries
    rw [answer, choose_values hbody hkind hvalue, values_of_mem hentries]
    exact ranked_of_pairwise ((hnumbered.placedAt _).pairwise_le (by simpa using hfew))
  · intro hnone
    rw [answer, choose_values hbody hkind hvalue, values_of_not_mem hnone]
    rfl

/-- A generator and a datasource that both have a provider; a quote was just typed behind the
second one. -/
def providers : List Block.Passage :=
  [.block
      { kind := .generator, header := "generator client \x7b".toList
        body := ["  provider = \"prisma-client\"".toList], closing := "\x7d // client".toList
        opens_header := by decide, plain_body := by decide, stays_open := by decide
        plain_closing := by decide, closes := by decide },
    .block
      { kind := .datasource, header := "datasource db \x7b".toList
        body := ["\tprovider =  \"".toList, "  url = env(\"URL\")".toList]
        closing := "\x7d // db".toList, opens_header := by decide, plain_body := by decide
        stays_open := by decide, plain_closing := by decide, closes := by decide }]

/-- The lines that they are written on. -/
def providerDocument : Document :=
  .lines ((Block.linesOf providers).map (·.1))

theorem values_offered_provider :
    ∃ context, CompletionContext.ofRequest providerDocument.toLines
        (.place (.int 5) (.int 99)) (some ['"']) = .ok context ∧
      Block.InBody .datasource context.linesBefore context.currentLine ∧
      Cues.AwaitsValue context.beforeCursor "provider".toList (some ['"']) ∧
        ∃ items, suggest providerDocument (.place (.int 5) (.int 99)) (some ['"']) = .ok items ∧
          items.map (·.label) = ["\"postgresql\"", "\"mysql\"", "\"sqlite\"", "\"sqlserver\"",
            "\"mongodb\"", "\"cockroachdb\""] := by
  have hclamp : Position.clamp providerDocument.toLines (.place (.int 5) (.int 99)) =
      .ok ⟨5, 15⟩ := by
    decide +kernel
  have hcontext := CompletionContext.ofRequest_of_clamp hclamp (some ['"'])
  have hbody : Block.InBody .datasource
      (((Block.linesOf providers).take 4).map (·.1)) "\tprovider =  \"".toList :=
    Block.inBody_of_linesOf
      (show Block.linesOf providers = (Block.linesOf providers).take 4 ++
        ("\tprovider =  \"".toList, some .datasource) :: (Block.linesOf providers).drop 5 from rfl)
  have hvalue : Cues.AwaitsValue "\tprovider =  \"".toList "provider".toList (some ['"']) :=
    ⟨['\t'], [' '], List.replicate 2 ' ', ['"'], rfl, List.all_eq_true.mp (by decide),
      ⟨'p', "rovider".toList, rfl, by decide, List.all_eq_true.mp (by decide)⟩,
      List.all_eq_true.mp (by decide), fun _ => List.eq_of_mem_replicate, .inr ⟨rfl, rfl⟩⟩
  obtain ⟨items, hitems, hentries, -⟩ :=
    values_offered_alone hcontext hbody (.inr rfl) hvalue
  refine ⟨_, hcontext, hbody, hvalue, items, hitems, ?_⟩
  rw [hentries _ List.mem_cons_self]
  rfl

end Completion

end SchemaDesk
