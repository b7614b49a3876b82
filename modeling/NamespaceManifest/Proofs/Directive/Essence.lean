import NamespaceManifest.Proofs.Block.Grammar
import NamespaceManifest.Proofs.Directive.Rearranged

/-!
# What directives depend on

A document says more about its blocks than a manifest needs.  Three things of an entry are essential
(`BlockDocument.Essence`): its directive tags with their raw texts, its object, and the name of its block.
The file, the line, all other tags and the source of the document show in locations only.

* Tags that are no directives leave no trace in the order in which a pass visits the others
  (`visits_eq_groupedVisits`).
* Two blocks that agree in their directives, their object and their name contribute the same lines, and
  issues that differ in their locations only (`alike_resolve_of_same`).

So two documents with the same essence have the same issues but for locations, and passes over them fail
together or have the same lines (`compileWith_of_sameEssence`).
-/

namespace NamespaceManifest

/-- The tag and the message of an issue, without its location. -/
def Issue.notice (i : Issue) : String × String :=
  (i.tag, i.message)

/-- The answers of an evaluator depend on the code only. -/
def Evaluator.ReadsCodeOnly (e : Evaluator) : Prop :=
  ∀ code a b, e.run code a = e.run code b

namespace Directive

/-- Whether a name is the tag of a directive. -/
def isDirectiveTag (name : String) : Bool :=
  (Kind.ofTag? name).isSome

end Directive

/-- The directive tags of a block with their values, in order. -/
def Block.directives (block : Block) : List (String × TagValue) :=
  (block.tags.map fun tag => (tag.name, tag.value)).filter fun tag => Directive.isDirectiveTag tag.1

/-- Two blocks that differ only in where they stand and in tags that are no directives. -/
structure Block.SameDirectives (a b : Block) : Prop where
  directives : a.directives = b.directives
  object : a.object = b.object
  name : a.name = b.name

namespace Directive

/-! ## The order of visits -/

/-- The names that are left of a list without repetition are those of what is left of the list. -/
theorem filter_eraseDups
    (p : String → Bool)
    (xs : List String) :
    xs.eraseDups.filter p = (xs.filter p).eraseDups := by
  induction hn : xs.length using Nat.strong_induction_on generalizing xs with
  | _ n ih =>
      cases xs with
      | nil =>
          simp
      | cons x xs =>
          have hlt : (xs.filter fun y => !y == x).length < n := by
            have := List.length_filter_le (fun y => !y == x) xs
            simp only [List.length_cons] at hn
            omega
          rw [List.eraseDups_cons]
          by_cases hx : p x = true
          · rw [List.filter_cons_of_pos hx, List.filter_cons_of_pos hx, List.eraseDups_cons,
              ih _ hlt _ rfl, List.filter_comm]
          · -- the items that are dropped with `x` are dropped by the filter
            have hrest : (xs.filter fun y => !y == x).filter p = xs.filter p := by
              rw [List.filter_filter]
              refine List.filter_congr fun y _ => ?_
              by_cases hy : y = x
              · simp [hy, hx]
              · simp [hy]
            rw [List.filter_cons_of_neg hx, List.filter_cons_of_neg hx, ih _ hlt _ rfl, hrest]

theorem flatMap_filter_of_nil
    {α β : Type} {p : α → Bool} {f : α → List β}
    (h : ∀ a, p a = false → f a = [])
    (xs : List α) :
    (xs.filter p).flatMap f = xs.flatMap f := by
  induction xs with
  | nil =>
      rfl
  | cons x xs ih =>
      cases hx : p x with
      | true =>
          rw [List.filter_cons_of_pos hx, List.flatMap_cons, List.flatMap_cons, ih]
      | false =>
          rw [List.filter_cons_of_neg (by simp [hx]), List.flatMap_cons, h x hx, ih]
          rfl

/-- The visits of a pass to directive tags with their values. -/
def groupedVisits (kinds : KindSet) (tags : List (String × TagValue)) : List (Kind × TagValue) :=
  (tags.map (·.1)).eraseDups.flatMap fun name =>
    match Kind.ofTag? name with
    | some kind =>
        if kinds kind then (tags.filter fun tag => tag.1 == name).map fun tag => (kind, tag.2) else []
    | none => []

/-- The visits of a pass depend on the directives of a block only. -/
theorem visits_eq_groupedVisits
    (kinds : KindSet)
    (block : Block) :
    visits kinds block = groupedVisits kinds block.directives := by
  have hnames : (block.directives.map (·.1)).eraseDups = block.tagNames.filter isDirectiveTag := by
    rw [Block.tagNames, filter_eraseDups, Block.directives, List.filter_map, List.filter_map,
      List.map_map]
    rfl
  have hgroup : ∀ name kind, Kind.ofTag? name = some kind →
      (block.directives.filter fun tag => tag.1 == name).map (fun tag => (kind, tag.2)) =
        (block.occurrences name).map fun tag => (kind, tag.value) := by
    intro name kind hkind
    have hfilter : (block.directives.filter fun tag => tag.1 == name) =
        (block.tags.map fun tag => (tag.name, tag.value)).filter fun tag => tag.1 == name := by
      rw [Block.directives, List.filter_filter]
      refine List.filter_congr fun tag _ => ?_
      by_cases htag : tag.1 = name
      · simp [htag, isDirectiveTag, hkind]
      · simp [htag]
    rw [hfilter, List.filter_map, List.map_map]
    rfl
  rw [visits, groupedVisits, hnames]
  rw [← flatMap_filter_of_nil (p := isDirectiveTag)]
  · refine List.flatMap_congr fun name _ => ?_
    cases hkind : Kind.ofTag? name with
    | none =>
        rfl
    | some kind =>
        simp only [hgroup name kind hkind]
  · intro name hname
    have hkind : Kind.ofTag? name = none := by
      simpa [isDirectiveTag] using hname
    simp [hkind]

/-! ## Contributions without locations -/

/-- The same lines, and the same issues but for their locations. -/
structure Resolution.SameNotices (a b : Resolution) : Prop where
  lines : a.lines = b.lines
  issues : a.issues.map Issue.notice = b.issues.map Issue.notice

theorem Resolution.SameNotices.refl
    (a : Resolution) :
    a.SameNotices a := by
  exact ⟨rfl, rfl⟩

theorem sameNotices_complain
    (a b : Block)
    (tag : String)
    (complaint : Complaint) :
    (Resolution.complain a tag complaint).SameNotices (.complain b tag complaint) := by
  exact ⟨rfl, rfl⟩

theorem sameNotices_join_of_forall₂
    {as bs : List Resolution}
    (h : List.Forall₂ Resolution.SameNotices as bs) :
    (Resolution.join as).SameNotices (.join bs) := by
  induction h with
  | nil =>
      exact ⟨rfl, rfl⟩
  | cons hab h ih =>
      refine ⟨?_, ?_⟩
      · exact congrArg₂ (· ++ ·) hab.lines ih.lines
      · have hissues := congrArg₂ (· ++ ·) hab.issues ih.issues
        simpa [Resolution.join, List.map_flatMap] using hissues

section SameDirectives

variable {evaluator : Option Evaluator} {a b : Block}

/-- What a fragment evaluates to does not depend on the block, but for the location of a failure. -/
theorem alike_linesOf_of_readsCodeOnly
    (he : ∀ e ∈ evaluator, e.ReadsCodeOnly)
    (a b : Block)
    (code : String) :
    Alike Eq (Evaluation.linesOf evaluator a code) (Evaluation.linesOf evaluator b code) := by
  cases evaluator with
  | none =>
      exact .error _ _
  | some e =>
      have hrun : e.run code a = e.run code b := he e rfl code a b
      unfold Evaluation.linesOf
      simp only [hrun]
      cases e.run code b with
      | ok result =>
          cases result
          case text s =>
            exact .ok rfl
          case list items =>
            simp only [Evaluation.toLines]
            cases Evaluation.texts? items with
            | some lines => exact .ok rfl
            | none => exact .error _ _
          all_goals
            exact .error _ _
      | error failure =>
          cases failure <;> exact .error _ _

theorem sameNotices_defaultExport
    (h : a.SameDirectives b) :
    (defaultExport a).SameNotices (defaultExport b) := by
  unfold defaultExport
  rw [h.object, h.name]
  split
  · split
    · exact Resolution.SameNotices.refl _
    · exact sameNotices_complain a b _ _
  all_goals
    exact Resolution.SameNotices.refl _

theorem sameNotices_resolveExport
    (h : a.SameDirectives b)
    (value : TagValue) :
    (resolveExport a value).SameNotices (resolveExport b value) := by
  unfold resolveExport
  split
  · exact sameNotices_defaultExport h
  · exact Resolution.SameNotices.refl _

theorem sameNotices_resolveMethod
    (h : a.SameDirectives b)
    (value : TagValue) :
    (resolveMethod a value).SameNotices (resolveMethod b value) := by
  unfold resolveMethod
  rw [h.object]
  split
  · exact Resolution.SameNotices.refl _
  · exact Resolution.SameNotices.refl _
  · exact Resolution.SameNotices.refl _
  · exact sameNotices_complain a b _ _

/-- A tag contributes the same to two blocks with the same directives, objects and names, but for
locations. -/
theorem alike_resolve_of_same
    (he : ∀ e ∈ evaluator, e.ReadsCodeOnly)
    (h : a.SameDirectives b)
    (kind : Kind)
    (value : TagValue) :
    Alike Resolution.SameNotices (resolve evaluator a kind value)
      (resolve evaluator b kind value) := by
  cases kind
  case evalNamespace =>
    have hlines := alike_linesOf_of_readsCodeOnly he a b value.toText
    simp only [resolve]
    generalize Evaluation.linesOf evaluator a value.toText = x,
      Evaluation.linesOf evaluator b value.toText = y at hlines ⊢
    cases hlines with
    | ok hab =>
        subst hab
        exact .ok (Resolution.SameNotices.refl _)
    | error e e' =>
        exact .error e e'
  case exports =>
    exact .ok (sameNotices_resolveExport h value)
  case exportS3Method =>
    exact .ok (sameNotices_resolveMethod h value)
  all_goals
    exact .ok (Resolution.SameNotices.refl _)

theorem alike_visit_of_same
    (available : KindSet)
    (he : ∀ e ∈ evaluator, e.ReadsCodeOnly)
    (h : a.SameDirectives b)
    (v : Kind × TagValue) :
    Alike Resolution.SameNotices (visit available evaluator a v) (visit available evaluator b v) := by
  have hresolve := alike_resolve_of_same he h v.1 v.2
  unfold visit
  generalize resolve evaluator a v.1 v.2 = x, resolve evaluator b v.1 v.2 = y at hresolve ⊢
  split
  · cases hresolve with
    | ok hab => exact .ok hab
    | error e e' => exact .error _ _
  · exact .error _ _

/-- One block: the same tags are visited in the same order. -/
theorem alike_compileBlock_of_same
    (available kinds : KindSet)
    (he : ∀ e ∈ evaluator, e.ReadsCodeOnly)
    (h : a.SameDirectives b) :
    Alike Resolution.SameNotices (compileBlock available kinds evaluator a)
      (compileBlock available kinds evaluator b) := by
  have hvisits : visits kinds a = visits kinds b := by
    rw [visits_eq_groupedVisits, visits_eq_groupedVisits, h.directives]
  have hsteps : List.Forall₂
      (fun v v' => Alike Resolution.SameNotices (visit available evaluator a v)
        (visit available evaluator b v')) (visits kinds b) (visits kinds b) :=
    List.forall₂_same.mpr fun v _ => alike_visit_of_same available he h v
  unfold compileBlock
  rw [hvisits]
  exact (Alike.mapM_of_forall₂ hsteps).bind fun _ _ hall => .ok (sameNotices_join_of_forall₂ hall)

/-- All blocks, one after the other. -/
theorem alike_collect_of_same
    {xs ys : List Block}
    (available kinds : KindSet)
    (he : ∀ e ∈ evaluator, e.ReadsCodeOnly)
    (h : List.Forall₂ Block.SameDirectives xs ys) :
    Alike Resolution.SameNotices (collect available kinds evaluator xs)
      (collect available kinds evaluator ys) := by
  have hsteps : List.Forall₂
      (fun a b => Alike Resolution.SameNotices (compileBlock available kinds evaluator a)
        (compileBlock available kinds evaluator b)) xs ys :=
    h.imp fun a b hab => alike_compileBlock_of_same available kinds he hab
  exact (Alike.mapM_of_forall₂ hsteps).bind fun _ _ hall => .ok (sameNotices_join_of_forall₂ hall)

end SameDirectives

end Directive

namespace BlockDocument

open Directive

/-! ## The essence of entries -/

/-- What of an entry decides about directives: its directive tags with their raw texts in order, its
object, and the name of its block. -/
structure Essence where
  directives : List (String × String)
  object : Value
  name : Option String

/-- The essence of an entry with some fields and raw tags.  A name that is not given is taken from a tag. -/
def essenceOf (fields : List (Value × Value)) (raw : List (String × String)) : Essence :=
  { directives := raw.filter fun tag => isDirectiveTag tag.1
    object := field fields "object"
    name := textField fields "name" <|> nameFromTags raw }

/-- The essence of an entry, if its tags can be read. -/
def essence? : Value → Option Essence
  | .map fields =>
      match rawTags 0 (field fields "tags") with
      | .ok raw => some (essenceOf fields raw)
      | .error _ => none
  | _ => none

/-- The index of an entry shows in its errors only. -/
theorem rawTags_of_ok
    {index : Nat} {tags : Value} {raw : List (String × String)}
    (h : rawTags index tags = .ok raw)
    (other : Nat) :
    rawTags other tags = .ok raw := by
  cases hentries : tagEntries index tags with
  | error e =>
      simp [rawTags, hentries] at h
  | ok entries =>
      have hlists := (tagEntries_eq_ok_iff index).mp hentries
      rw [rawTags, (tagEntries_eq_ok_iff other).mpr hlists]
      rwa [rawTags, hentries] at h

/-- The block of an entry is made of its essence, apart from where it stands and from other tags. -/
theorem object_of_reads
    {source : Option String} {index : Nat} {entry : Value} {r : Reading}
    (h : Reads source index entry r) :
    ∃ essence, essence? entry = some essence ∧
      essence.directives = (r.raw.filter fun tag => isDirectiveTag tag.1) ∧
      essence.name = r.block.name ∧
      readObject index essence.name essence.object = .ok r.block.object := by
  obtain ⟨fields, rfl, hraw, hentry⟩ := h.found
  refine ⟨essenceOf fields r.raw, ?_, rfl, ?_⟩
  · simp only [essence?, rawTags_of_ok hraw 0]
  · simp only [readEntry, hraw, bind, Except.bind, pure, Except.pure] at hentry
    split at hentry
    · cases hentry
    · split at hentry
      · cases hentry
      · rename_i object hobject
        obtain ⟨hblock, -⟩ := Prod.mk.inj (Except.ok.inj hentry)
        rw [← hblock]
        exact ⟨rfl, hobject⟩

/-- The directives of a block come from the directive tags of its entry. -/
theorem directives_keptTags
    (line : Option LineMark)
    (raw : List (String × String)) :
    ((keptTags line raw).map fun tag => (tag.name, tag.value)).filter
        (fun tag => isDirectiveTag tag.1) =
      (raw.filter fun tag => isDirectiveTag tag.1).filterMap fun tag =>
        (shapeTag tag.1 tag.2).toOption.map fun value => (tag.1, value) := by
  induction raw with
  | nil =>
      rfl
  | cons tag raw ih =>
      unfold keptTags at ih ⊢
      cases hshape : shapeTag tag.1 tag.2 with
      | error e =>
          cases htag : isDirectiveTag tag.1 <;>
            simp [hshape, htag, ih, Except.toOption]
      | ok value =>
          cases htag : isDirectiveTag tag.1 <;>
            simp [hshape, htag, ih, Except.toOption]

/-- Only directive tags leave issues when an entry is read. -/
theorem notices_shapeIssues
    (location : String)
    (raw : List (String × String)) :
    (shapeIssues location raw).map Issue.notice =
      (shapeIssues "" (raw.filter fun tag => isDirectiveTag tag.1)).map Issue.notice := by
  induction raw with
  | nil =>
      rfl
  | cons tag raw ih =>
      unfold shapeIssues at ih ⊢
      cases htag : isDirectiveTag tag.1 with
      | true =>
          cases hshape : shapeTag tag.1 tag.2 with
          | error e =>
              simpa [hshape, htag, Issue.notice, Issue.message] using ih
          | ok value =>
              simpa [hshape, htag] using ih
      | false =>
          have hkind : Kind.ofTag? tag.1 = none := by
            simpa [isDirectiveTag] using htag
          simpa [shapeTag_of_ofTag?_eq_none hkind, htag] using ih

/-- Two readings of entries with the same essence: the same directives, and the same issues but for their
locations. -/
structure Reading.Same (r r' : Reading) : Prop where
  block : r.block.SameDirectives r'.block
  issues : (shapeIssues r.location r.raw).map Issue.notice =
    (shapeIssues r'.location r'.raw).map Issue.notice

theorem same_of_reads
    {source source' : Option String} {index : Nat} {entry entry' : Value} {r r' : Reading}
    (h : Reads source index entry r)
    (h' : Reads source' index entry' r')
    (hsame : essence? entry = essence? entry') :
    r.Same r' := by
  obtain ⟨essence, hessence, hraw, hname, hobject⟩ := object_of_reads h
  obtain ⟨essence', hessence', hraw', hname', hobject'⟩ := object_of_reads h'
  obtain rfl : essence = essence' :=
    Option.some.inj (hessence.symm.trans (hsame.trans hessence'))
  have hdirectives : (r.raw.filter fun tag => isDirectiveTag tag.1) =
      r'.raw.filter fun tag => isDirectiveTag tag.1 :=
    hraw.symm.trans hraw'
  refine ⟨⟨?_, ?_, ?_⟩, ?_⟩
  · rw [Block.directives, Block.directives, h.tags, h'.tags, directives_keptTags,
      directives_keptTags, hdirectives]
  · exact Except.ok.inj (hobject.symm.trans hobject')
  · exact hname.symm.trans hname'
  · rw [notices_shapeIssues r.location, hdirectives, ← notices_shapeIssues r'.location]

/-- Entry by entry, documents with the same essence have the same readings. -/
theorem same_readings
    {source source' : Option String} {index : Nat} {xs ys : List Value} {rs rs' : List Reading}
    (h : List.Forall₂ (fun entry r => Reads source entry.2 entry.1 r) (xs.zipIdx index) rs)
    (h' : List.Forall₂ (fun entry r => Reads source' entry.2 entry.1 r) (ys.zipIdx index) rs')
    (hsame : xs.map essence? = ys.map essence?) :
    List.Forall₂ Reading.Same rs rs' := by
  induction xs generalizing index ys rs rs' with
  | nil =>
      obtain rfl : ys = [] := by simpa using hsame.symm
      cases h
      cases h'
      exact .nil
  | cons x xs ih =>
      cases ys with
      | nil =>
          cases hsame
      | cons y ys =>
          obtain ⟨hxy, hrest⟩ := List.cons.inj hsame
          rw [List.zipIdx_cons] at h h'
          cases h with
          | cons hx hxs =>
              cases h' with
              | cons hy hys =>
                  exact .cons (same_of_reads hx hy hxy) (ih hxs hys hrest)

theorem notices_of_same
    {rs rs' : List Reading}
    (h : List.Forall₂ Reading.Same rs rs') :
    (rs.flatMap fun r => shapeIssues r.location r.raw).map Issue.notice =
      (rs'.flatMap fun r => shapeIssues r.location r.raw).map Issue.notice := by
  induction h with
  | nil =>
      rfl
  | cons hr h ih =>
      rw [List.flatMap_cons, List.flatMap_cons, List.map_append, List.map_append, hr.issues, ih]

end BlockDocument

namespace Directive

open BlockDocument

/-- Documents whose entries have the same essence leave the same issues but for locations.  Passes over them
fail both or succeed both, and then they have the same lines, and the same issues but for locations. -/
theorem compileWith_of_sameEssence
    {source source' : Option String} {v v' : Value} {blocks blocks' : List Block}
    {issues issues' : List Issue} {evaluator : Option Evaluator}
    (hread : read source v = .ok (blocks, issues))
    (hread' : read source' v' = .ok (blocks', issues'))
    (hsame : (entriesOf v).map essence? = (entriesOf v').map essence?)
    (he : ∀ e ∈ evaluator, e.ReadsCodeOnly)
    (available kinds : KindSet) :
    issues.map Issue.notice = issues'.map Issue.notice ∧
    ((∃ e, compileWith available kinds evaluator blocks = .error e) ↔
      ∃ e, compileWith available kinds evaluator blocks' = .error e) ∧
    ∀ p q, compileWith available kinds evaluator blocks = .ok p →
      compileWith available kinds evaluator blocks' = .ok q →
      p.lines = q.lines ∧ p.issues.map Issue.notice = q.issues.map Issue.notice := by
  obtain ⟨rs, hrs⟩ := readings_of_read hread
  obtain ⟨rs', hrs'⟩ := readings_of_read hread'
  have hall : List.Forall₂ Reading.Same rs rs' := same_readings hrs.entries hrs'.entries hsame
  have hblocks : List.Forall₂ Block.SameDirectives blocks blocks' := by
    rw [hrs.blocks_eq, hrs'.blocks_eq, List.forall₂_map_left_iff, List.forall₂_map_right_iff]
    exact hall.imp fun r r' hr => hr.block
  have halike : Alike (fun p q : Pass => p.lines = q.lines ∧
      p.issues.map Issue.notice = q.issues.map Issue.notice)
      (compileWith available kinds evaluator blocks)
      (compileWith available kinds evaluator blocks') :=
    (alike_collect_of_same available kinds he hblocks).bind fun _ _ hr =>
      .ok ⟨congrArg finalize hr.lines, hr.issues⟩
  refine ⟨?_, halike.exists_error_iff, ?_⟩
  · rw [hrs.issues_eq, hrs'.issues_eq]
    exact notices_of_same hall
  · intro p q hp hq
    rw [hp, hq] at halike
    exact halike.of_ok

/-- An evaluator that answers with the code that it is given. -/
def echoing : Evaluator :=
  { run := fun code _ => .ok (.text code) }

/-- A document that says where its block stands, with tags between its directives. -/
def locatedDocument : Value :=
  .list [.map
    [(.text "file", .text "a"), (.text "line", .int 3),
      (.text "tags", .list
        [.map [(.text "title", .text "t")], .map [(.text "exportS3Method", .text "")],
          .map [(.text "name", .text " f ")], .map [(.text "import", .text "")],
          .map [(.text "evalNamespace", .text "x")]])]]

/-- A document with the same directives and nothing else. -/
def bareDocument : Value :=
  .map [(.text "blocks", .list [.map
    [(.text "name", .text "f"),
      (.text "tags", .map
        [(.text "exportS3Method", .null), (.text "import", .list [.text ""]),
          (.text "evalNamespace", .text "x")])]])]

/-- The block of the document that says where it stands. -/
def locatedBlock : Block :=
  { tags :=
      [⟨"title", .text "t", some (.number 3)⟩, ⟨"exportS3Method", .words [], some (.number 3)⟩,
        ⟨"name", .text "f", some (.number 3)⟩, ⟨"evalNamespace", .code "x", some (.number 3)⟩]
    file := some "a"
    line := some (.number 3)
    name := some "f" }

/-- The block of the document with directives only. -/
def bareBlock : Block :=
  { tags := [⟨"exportS3Method", .words [], none⟩, ⟨"evalNamespace", .code "x", none⟩]
    name := some "f" }

theorem compileWith_of_locatedDocument :
    ∃ issues issues' p q,
      read (some "b") locatedDocument = .ok ([locatedBlock], issues) ∧
      read none bareDocument = .ok ([bareBlock], issues') ∧
      (entriesOf locatedDocument).map essence? = (entriesOf bareDocument).map essence? ∧
      compileWith allKinds allKinds (some echoing) [locatedBlock] = .ok p ∧
      compileWith allKinds allKinds (some echoing) [bareBlock] = .ok q ∧
      issues ≠ issues' ∧ issues.map Issue.notice = issues'.map Issue.notice ∧
      p.issues ≠ q.issues ∧ p.lines = q.lines ∧
        p.issues.map Issue.notice = q.issues.map Issue.notice := by
  have hread : read (some "b") locatedDocument =
      .ok ([locatedBlock], [⟨"a:3", "import", .shape (.tooFew "import" (.words 1 none) 0)⟩]) := by
    decide +kernel
  have hread' : read none bareDocument =
      .ok ([bareBlock], [⟨"f", "import", .shape (.tooFew "import" (.words 1 none) 0)⟩]) := by
    decide +kernel
  have hsame : (entriesOf locatedDocument).map essence? = (entriesOf bareDocument).map essence? := by
    rfl
  have he : ∀ e ∈ some echoing, e.ReadsCodeOnly := by
    rintro _ ⟨⟩ code a b
    rfl
  have hp : collect allKinds allKinds (some echoing) [locatedBlock] =
      .ok { lines := ["x"], issues := [⟨"a:3", "exportS3Method", .notAConventionMethod⟩] } := by
    decide +kernel
  have hq : collect allKinds allKinds (some echoing) [bareBlock] =
      .ok { lines := ["x"], issues := [⟨"f", "exportS3Method", .notAConventionMethod⟩] } := by
    decide +kernel
  obtain ⟨hissues, -, hpass⟩ := compileWith_of_sameEssence hread hread' hsame he allKinds allKinds
  obtain ⟨hlines, hnotices⟩ := hpass _ _ (compile_of_collect hp) (compile_of_collect hq)
  exact ⟨_, _, _, _, hread, hread', hsame, compile_of_collect hp, compile_of_collect hq, by decide,
    hissues, by simp, hlines, hnotices⟩

end Directive
end NamespaceManifest
