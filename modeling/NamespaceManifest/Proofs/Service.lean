import NamespaceManifest.Service
import NamespaceManifest.Proofs.Block.Fault
import NamespaceManifest.Proofs.Directive.Pass
import NamespaceManifest.Proofs.Json.Reader

/-!
# What the service answers

The answer to a compile request of the expected form is decided by its document (`respond_of_validate`).

* The service has no evaluator, so a full pass fails exactly if a fragment is left in some block, and
  fragments are left exactly by the tags whose raw text is not blank (`exists_fragmentFails_iff`).
* The blocks come from a JSON text, all of whose integers can be written, so only the structure of the
  document can keep it from being read (`document_or_evaluation_of_raises`).
* Everything but a fragment can be resolved, and the import family has none.
-/

namespace NamespaceManifest

namespace BlockDocument

open Directive

/-- Some entry has a code fragment among its raw tags. -/
def HasFragment (items : List Value) : Prop :=
  ∃ entry ∈ items.zipIdx, ∃ fields raw text,
    entry.1 = .map fields ∧ rawTags entry.2 (field fields "tags") = .ok raw ∧
    (Kind.evalNamespace.tag, text) ∈ raw ∧ Text.isBlankText text = false

theorem shapeTag_fragment_iff
    {text : String} {value : TagValue} :
    shapeTag Kind.evalNamespace.tag text = .ok value ↔
      Text.isBlankText text = false ∧ value = .code (Text.trim text) := by
  have hshape : Shape.ofTag? Kind.evalNamespace.tag = some .code := by decide
  rw [shapeTag, hshape]
  exact Shape.read_eq_ok_iff

/-- A tag that fits its shape is kept. -/
theorem mem_keptTags
    {line : Option LineMark} {raw : List (String × String)} {name text : String} {value : TagValue}
    (hraw : (name, text) ∈ raw)
    (hshape : shapeTag name text = .ok value) :
    (⟨name, value, line⟩ : Tag) ∈ keptTags line raw :=
  List.mem_filterMap.mpr ⟨(name, text), hraw, by simp [hshape]⟩

variable {source : Option String} {items : List Value} {blocks : List Block} {issues : List Issue}

/-- Without an evaluator the fragments of a document that is read all fail. -/
theorem exists_fragmentFails_iff
    (h : read source (.list items) = .ok (blocks, issues)) :
    (∃ fault, FragmentFails none blocks fault) ↔ HasFragment items := by
  obtain ⟨readings, hread⟩ := readings_of_read h
  have hlength : items.zipIdx.length = readings.length := hread.entries.length_eq
  have hreads : ∀ i (hi : i < items.zipIdx.length) (hi' : i < readings.length),
      Reads source items.zipIdx[i].2 items.zipIdx[i].1 readings[i] :=
    (List.forall₂_iff_get.mp hread.entries).2
  constructor
  · rintro ⟨fault, block, hblock, tag, htag, hname, -⟩
    rw [hread.blocks_eq] at hblock
    obtain ⟨r, hr, rfl⟩ := List.mem_map.mp hblock
    obtain ⟨i, hi, rfl⟩ := List.mem_iff_getElem.mp hr
    have hi' : i < items.zipIdx.length := by omega
    obtain ⟨⟨fields, hentry, hraw, -⟩, htags⟩ := hreads i hi' hi
    rw [htags] at htag
    obtain ⟨text, htext, hshape⟩ := exists_raw_of_mem_keptTags htag
    rw [hname] at htext hshape
    rw [shapeTag_fragment_iff] at hshape
    exact ⟨_, List.getElem_mem hi', fields, _, text, hentry, hraw, htext, hshape.1⟩
  · rintro ⟨entry, hentry, fields, raw, text, hfields, hraw, htext, hblank⟩
    obtain ⟨i, hi, rfl⟩ := List.mem_iff_getElem.mp hentry
    have hi' : i < readings.length := by omega
    obtain ⟨⟨fields', hentry', hraw', -⟩, htags⟩ := hreads i hi hi'
    obtain rfl : fields = fields' := Value.map.inj (hfields.symm.trans hentry')
    obtain rfl : raw = _ := Except.ok.inj (hraw.symm.trans hraw')
    have hshape : shapeTag Kind.evalNamespace.tag text = .ok (.code (Text.trim text)) := by
      rw [shapeTag_fragment_iff]
      exact ⟨hblank, rfl⟩
    refine ⟨_, _, ?_, _, htags ▸ mem_keptTags htext hshape, rfl, rfl⟩
    rw [hread.blocks_eq]
    exact List.mem_map_of_mem (List.getElem_mem hi')

end BlockDocument

namespace Service

open BlockDocument Directive

/-- What can end the work on a request of the expected form. -/
inductive Raises (q : CompileRequest) : Error → Prop
  | load
      {e : Error}
      (h : read (some "request") (.list q.blocks) = .error e) :
      Raises q e
  | pass
      {blocks : List Block} {issues : List Issue} {e : Error}
      (hread : read (some "request") (.list q.blocks) = .ok (blocks, issues))
      (h : Directive.compile q.extent.kinds none blocks = .error e) :
      Raises q e

/-- A request of the expected form is answered with lines and issues. -/
def Compiles (q : CompileRequest) (answer : Response) : Prop :=
  ∃ blocks issues pass,
    read (some "request") (.list q.blocks) = .ok (blocks, issues) ∧
    Directive.compile q.extent.kinds none blocks = .ok pass ∧
    answer = .compiled pass.lines (issues ++ pass.issues)

variable {q : CompileRequest}

theorem raises_or_compiles
    (q : CompileRequest) :
    (∃ e, Raises q e) ∨ Compiles q (compile q) := by
  unfold compile
  split
  · rename_i e hread
    exact Or.inl ⟨e, .load hread⟩
  · rename_i blocks issues hread
    split
    · rename_i e hpass
      exact Or.inl ⟨e, .pass hread hpass⟩
    · rename_i pass hpass
      exact Or.inr ⟨blocks, issues, pass, hread, hpass, rfl⟩

/-- What ends the work is the answer. -/
theorem Raises.compile_eq
    {e : Error}
    (h : Raises q e) :
    compile q = .failed e.message := by
  cases h with
  | load h =>
      simp only [compile, h]
  | pass hread h =>
      simp only [compile, hread, h]

theorem Compiles.status_eq
    {answer : Response}
    (h : Compiles q answer) :
    answer.status = 200 := by
  obtain ⟨_, _, _, -, -, rfl⟩ := h
  rfl

/-- The status is 400 exactly if something ends the work. -/
theorem status_compile_iff :
    (compile q).status = 400 ↔ ∃ e, Raises q e := by
  constructor
  · intro hstatus
    rcases raises_or_compiles q with hraises | hcompiles
    · exact hraises
    · rw [hcompiles.status_eq] at hstatus
      cases hstatus
  · rintro ⟨e, hraises⟩
    rw [hraises.compile_eq]
    rfl

/-- What ends the work on a document that can be written is in its structure or in a fragment. -/
theorem document_or_evaluation_of_raises
    {e : Error}
    (hq : (Value.list q.blocks).isWritable = true)
    (h : Raises q e) :
    (∃ d, e = .document d) ∨ ∃ fault, e = .evaluation fault := by
  cases h with
  | load hread =>
      cases fault_of_read hread with
      | document d =>
          exact Or.inl ⟨d, rfl⟩
      | unwritable hunwritable =>
          rw [hq] at hunwritable
          cases hunwritable
  | pass hread hpass =>
      obtain ⟨fault, rfl, -⟩ := fragmentFails_of_compile hpass
      exact Or.inr ⟨fault, rfl⟩

/-- Work on a document that can be written ends exactly if the document misses its structure, or all kinds
are asked for and there is a fragment. -/
theorem exists_raises_iff
    (hq : (Value.list q.blocks).isWritable = true) :
    (∃ e, Raises q e) ↔
      (∃ d, read (some "request") (.list q.blocks) = .error (.document d)) ∨
        q.extent = .full ∧ HasFragment q.blocks := by
  constructor
  · rintro ⟨e, hraises⟩
    cases hraises with
    | load hread =>
        rcases document_or_evaluation_of_raises hq (.load hread) with ⟨d, rfl⟩ | ⟨fault, rfl⟩
        · exact Or.inl ⟨d, hread⟩
        · cases fault_of_read hread
    | pass hread hpass =>
        cases hextent : q.extent with
        | imports =>
            rw [hextent] at hpass
            obtain ⟨pass, hok⟩ := exists_imports none _
            cases hok.symm.trans hpass
        | full =>
            obtain ⟨fault, -, hfails⟩ := fragmentFails_of_compile hpass
            exact Or.inr ⟨rfl, (exists_fragmentFails_iff hread).mp ⟨fault, hfails⟩⟩
  · rintro (⟨d, hread⟩ | ⟨hextent, hfragment⟩)
    · exact ⟨_, .load hread⟩
    · cases hread : read (some "request") (.list q.blocks) with
      | error e =>
          exact ⟨e, .load hread⟩
      | ok found =>
          obtain ⟨blocks, issues⟩ := found
          obtain ⟨fault, hfails⟩ := (exists_fragmentFails_iff hread).mpr hfragment
          cases hpass : Directive.compile q.extent.kinds none blocks with
          | error e =>
              exact ⟨e, .pass hread hpass⟩
          | ok pass =>
              rw [hextent] at hpass
              exact absurd hpass (hfails.compile_ne pass)

/-! ## Requests -/

/-- The blocks of a body that can be written can be written. -/
theorem isWritable_of_validate
    {body : Value}
    (hbody : body.isWritable = true)
    (h : validate body = .ok q) :
    (Value.list q.blocks).isWritable = true := by
  unfold validate at h
  split at h
  · rename_i fields
    simp only at h
    split at h
    · rename_i extent items _ _ hblocks
      cases h
      exact Value.isWritable_of_lookup hbody hblocks
    · cases h
      rfl
    · cases h
    · cases h
  · cases h

theorem respond_eq_compile
    {r : Request} {text : String} {body : Value}
    (hmethod : r.method = "POST")
    (hroute : route? r.path.toList = some .compile)
    (htext : Text.Encoding.readDetected? r.body = some text)
    (hparse : Json.parse text = .ok body)
    (hvalid : validate body = .ok q) :
    respond r = compile q := by
  have hbody : r.body.isEmpty = false := by
    -- no bytes are the empty text, which denotes no value
    rw [Bool.eq_false_iff]
    intro hempty
    rw [List.isEmpty_iff.mp hempty] at htext
    have hnothing : Text.Encoding.readDetected? [] = some "" := by decide
    obtain rfl := Option.some.inj (hnothing.symm.trans htext)
    have hfault : Json.parse "" = .error (.malformed 0) := rfl
    cases hfault.symm.trans hparse
  simp [respond, hroute, hmethod, compileBody, hbody, htext, hparse, hvalid]

/-- The answer to a compile request whose body has the expected form.  The status is 400 exactly if the
document misses its structure, or all kinds are asked for and an entry has a fragment that is not blank; in
all other cases the answer holds the lines of the pass and the issues of the document before those of the
pass.  Nothing else can end the work. -/
theorem respond_of_validate
    {r : Request} {text : String} {body : Value} {q : CompileRequest}
    (hmethod : r.method = "POST")
    (hroute : route? r.path.toList = some .compile)
    (htext : Text.Encoding.readDetected? r.body = some text)
    (hparse : Json.parse text = .ok body)
    (hvalid : validate body = .ok q) :
    ((respond r).status = 400 ↔
      (∃ d, read (some "request") (.list q.blocks) = .error (.document d)) ∨
        q.extent = .full ∧ HasFragment q.blocks) ∧
    ((respond r).status ≠ 400 → (respond r).status = 200 ∧ Compiles q (respond r)) ∧
    ∀ e, Raises q e →
      ((∃ d, e = .document d) ∨ ∃ fault, e = .evaluation fault) ∧
        respond r = .failed e.message := by
  have hq := isWritable_of_validate (Json.isWritable_of_parse hparse) hvalid
  rw [respond_eq_compile hmethod hroute htext hparse hvalid]
  refine ⟨status_compile_iff.trans (exists_raises_iff hq), ?_, ?_⟩
  · intro hstatus
    rcases raises_or_compiles q with hraises | hcompiles
    · exact absurd (status_compile_iff.mpr hraises) hstatus
    · exact ⟨hcompiles.status_eq, hcompiles⟩
  · intro e hraises
    exact ⟨document_or_evaluation_of_raises hq hraises, hraises.compile_eq⟩

/-- A body with one entry, which has a fragment. -/
def fragmentText (stage : String) : String :=
  "\x7b\"blocks\": [\x7b\"tags\": \x7b\"evalNamespace\": \"exports\", \"import\": \"stats\"\x7d\x7d], "
    ++ "\"stage\": \"" ++ stage ++ "\"\x7d"

/-- The request with this body. -/
def fragmentRequest (stage : String) : Request where
  method := "POST"
  path := "/compile"
  body := (fragmentText stage).toUTF8.data.toList

/-- The entry of this body. -/
def fragmentEntry : Value :=
  .map [(.text "tags", .map [(.text "evalNamespace", .text "exports"), (.text "import", .text "stats")])]

/-- The value of this body. -/
def fragmentBody (stage : String) : Value :=
  .map [(.text "blocks", .list [fragmentEntry]), (.text "stage", .text stage)]

/-- All kinds cannot be compiled without an evaluator, and the imports can. -/
theorem respond_fragmentRequest :
    (respond (fragmentRequest "full")).status = 400 ∧
      (respond (fragmentRequest "pre")).status = 200 := by
  have hfull := @respond_of_validate (fragmentRequest "full") (fragmentText "full")
    (fragmentBody "full") ⟨[fragmentEntry], .full⟩ rfl (by decide +kernel) (by decide +kernel)
    (by rfl) rfl
  have hpre := @respond_of_validate (fragmentRequest "pre") (fragmentText "pre")
    (fragmentBody "pre") ⟨[fragmentEntry], .imports⟩ rfl (by decide +kernel) (by decide +kernel)
    (by rfl) rfl
  constructor
  · refine hfull.1.mpr (Or.inr ⟨rfl, _, List.mem_cons_self, _, _, "exports", rfl, rfl, ?_, by decide⟩)
    exact List.mem_cons_self
  · refine (hpre.2.1 fun hstatus => ?_).1
    rcases hpre.1.mp hstatus with ⟨d, hread⟩ | ⟨hextent, -⟩
    · cases hread
    · cases hextent

end Service
end NamespaceManifest
