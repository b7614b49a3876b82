import NamespaceManifest.Proofs.Manifest.Writing

/-!
# Ownership over runs of a writer

A writer is called again and again about one path: to write entries with the check on, or to clean.  A
call that fails ends nothing, and the next one starts from the workspace that it left.

Whose file is at the path at the start decides the whole run.

* A file of somebody else stays as it is through every run (`holds_afterCalls`), and every call about it
  is answered in the same way (`leavesAlone_of_holds`).
* A path without a file, or with a file of the writer, never comes to hold the file of somebody else
  (`managed_afterCalls`), so that no call is refused (`manages_of_managed`).  If its folder is there, the
  file system has no fault to find either (`seat_afterCalls`).
-/

namespace NamespaceManifest
namespace Writer

open Work

/-- A call to a writer about a path. -/
inductive Call where
  | write (entries : List String)
  | clean
  deriving Repr, DecidableEq

/-- The work of a call; a write is made with the check on. -/
def Call.perform (w : Writer) (p : Path) : Call → Work Bool
  | .write entries => w.write p entries true
  | .clean => w.clean p

/-- The workspace after some calls, each of which is made whether or not those before it returned. -/
def afterCalls (w : Writer) (p : Path) (calls : List Call) (s : Workspace) : Workspace :=
  calls.foldl (fun t call => (call.perform w p t).workspace) s

/-- A call about a file of somebody else: the file stays, and the answer depends on its lines only. -/
structure LeavesAlone (p : Path) (f : File) (call : Call) (r : Except Error Bool) (u : Workspace) :
    Prop where
  kept : u.tree.open? p = .ok (some f)
  answer :
    r =
      match call with
      | .clean => .ok false
      | .write entries =>
          if Text.physicalLines entries = Text.lines (String.ofList (textOf f)) then .ok false
          else .error (.conflict p)

/-- A call about a path that is the writer's: it is not refused, and it leaves no file or a file of the
writer.  Only the file system can stand in its way, and then there is no file at the path. -/
structure Manages (w : Writer) (p : Path) (s : Workspace) (call : Call) (r : Except Error Bool)
    (u : Workspace) : Prop where
  unrefused : ∀ q, r ≠ .error (.conflict q)
  owned :
    u.tree.open? p = .ok none ∨
    (w.isGenerated p u).outcome = .ok true ∨
    (∃ q fault, r = .error (.fileSystem q fault)) ∧ ∀ f, u.tree.open? p ≠ .ok (some f)
  cleaned : call = .clean → ∀ f, s.tree.open? p = .ok (some f) →
    r = .ok true ∧ u.tree.open? p = .ok none
  upToDate : ∀ entries, call = .write entries →
    (r = .ok false ↔ (w.body? p s).outcome = .ok (some (Text.physicalLines entries)))
  written : ∀ entries, call = .write entries → r = .ok true →
    (w.body? p u).outcome = .ok (some (Text.physicalLines entries))

section Clean

variable {w : Writer} {s : Workspace} {p : Path}

/-- A file of the writer is removed. -/
theorem clean_owned
    {f : File}
    (hv : isValidName p.name = true)
    (h : s.Holds p (some f))
    (howns : w.owns f = true) :
    ∃ u, Ends (w.clean p) s (.ok true) u ∧ u.Holds p none ∧ u.tree.Seat p := by
  have hseat := seat_of_holds hv h
  have herase : Ends (Work.eraseFile p) s (.ok ()) (Work.eraseFile p s).workspace := ⟨rfl, rfl⟩
  obtain ⟨u, hnote, hlog⟩ :=
    ends_note .info .writer ("Removed " ++ p.name) (Work.eraseFile p s).workspace
  have hnone : (Work.eraseFile p s).workspace.Holds p none :=
    ⟨hseat.open?_erase_self, h.apart.release p⟩
  refine ⟨u, ?_, hlog.holds hnone, hlog.seat (hseat.erase p)⟩
  refine (ends_isGenerated h).bind ?_
  rw [Option.any_some, howns]
  exact herase.bind (hnote.bind (ends_pure true u))

/-- Nothing else is removed. -/
theorem clean_other
    {c : Option File}
    (h : s.Holds p c)
    (hother : c.any w.owns = false) :
    ∃ u, Ends (w.clean p) s (.ok false) u ∧ s.Logged u := by
  obtain ⟨u, hnote, hlog⟩ :=
    ends_note .debug .writer ("Not removing " ++ p.display ++ ": not generated by nsgen") s
  refine ⟨u, ?_, hlog⟩
  refine (ends_isGenerated h).bind ?_
  rw [hother]
  exact hnote.bind (ends_pure false u)

theorem clean_fault
    {fault : FileFault}
    (hfault : s.tree.open? p = .error fault) :
    Ends (w.clean p) s (.error (.fileSystem p fault)) s := by
  have hlook : Ends (Work.open? p) s (.error (.fileSystem p fault)) s := by
    refine ⟨?_, rfl⟩
    show Error.atPath p (s.tree.open? p) = _
    rw [hfault]
    rfl
  exact Ends.bind_error (Ends.bind_error hlook)

end Clean

/-! ## Files of somebody else -/

section Foreign

variable {w : Writer} {s : Workspace} {p : Path} {f : File}

/-- A call about a file of somebody else leaves log records only. -/
theorem leavesAlone_of_holds
    (hv : isValidName p.name = true)
    (h : s.Holds p (some f))
    (hother : w.owns f = false)
    (call : Call) :
    LeavesAlone p f call (call.perform w p s).outcome (call.perform w p s).workspace ∧
      s.Logged (call.perform w p s).workspace := by
  cases call with
  | clean =>
      obtain ⟨u, hclean, hlog⟩ := clean_other h (w := w) (by simp [hother])
      rw [Call.perform, hclean.1, hclean.2]
      exact ⟨⟨(hlog.holds h).opened, rfl⟩, hlog⟩
  | write entries =>
      have hbody := bodyOf_of_not_owns hother
      by_cases hlines : Text.physicalLines entries = Text.lines (String.ofList (textOf f))
      · obtain ⟨u, hwrite, hlog⟩ : ∃ u, Ends (w.write p entries true) s (.ok false) u ∧ s.Logged u :=
          write_upToDate hv h (hbody.trans hlines.symm)
        rw [Call.perform, hwrite.1, hwrite.2]
        exact ⟨⟨(hlog.holds h).opened, by simp [hlines]⟩, hlog⟩
      · have hdiffer : w.bodyOf f ≠ Text.physicalLines entries := by
          rw [hbody]
          exact Ne.symm hlines
        obtain ⟨u, hwrite, hlog⟩ := write_refused hv h hother hdiffer
        rw [Call.perform, hwrite.1, hwrite.2]
        exact ⟨⟨(hlog.holds h).opened, by simp [hlines]⟩, hlog⟩

/-- A file of somebody else stays through every run. -/
theorem holds_afterCalls
    (hv : isValidName p.name = true)
    (h : s.Holds p (some f))
    (hother : w.owns f = false)
    (calls : List Call) :
    (afterCalls w p calls s).Holds p (some f) := by
  induction calls generalizing s with
  | nil =>
      exact h
  | cons call calls ih =>
      exact ih ((leavesAlone_of_holds hv h hother call).2.holds h)

end Foreign

/-! ## Paths of the writer -/

/-- There is no file at a path but perhaps one of the writer, and the journal keeps another one. -/
structure Managed (w : Writer) (p : Path) (s : Workspace) : Prop where
  apart : s.LogsApart p
  owned : ∀ f, s.tree.open? p = .ok (some f) → w.owns f = true

section Managed

variable {w : Writer} {s u : Workspace} {p : Path}

theorem Managed.of_holds
    {c : Option File}
    (h : s.Holds p c)
    (hc : ∀ f ∈ c, w.owns f = true) :
    Managed w p s := by
  refine ⟨h.apart, ?_⟩
  intro f hf
  exact hc f (Except.ok.inj (h.opened.symm.trans hf))

theorem Managed.of_logged
    (h : Managed w p s)
    (hlog : s.Logged u) :
    Managed w p u := by
  refine ⟨hlog.logsApart h.apart, ?_⟩
  intro f hf
  exact h.owned f (hlog.holds_of_holds h.apart ⟨hf, hlog.logsApart h.apart⟩).opened

/-- What stands at a path of the writer, if it can be looked at. -/
theorem Managed.absent_or_generated
    {c : Option File}
    (h : Managed w p s)
    (hc : s.Holds p c) :
    s.tree.open? p = .ok none ∨ (w.isGenerated p s).outcome = .ok true := by
  cases c with
  | none =>
      exact Or.inl hc.opened
  | some f =>
      refine Or.inr ?_
      rw [(ends_isGenerated hc).1, Option.any_some, h.owned f hc.opened]

/-- A write to a path of the writer. -/
theorem manages_write
    (hw : w.Marked)
    (hv : isValidName p.name = true)
    (h : Managed w p s)
    (entries : List String)
    {r : Except Error Bool}
    (hwrite : Ends (w.write p entries true) s r u) :
    Manages w p s (.write entries) r u ∧ Managed w p u := by
  -- the lines are there exactly if nothing is to be written
  have hkept : r = .ok false ↔
      (w.body? p s).outcome = .ok (some (Text.physicalLines entries)) := by
    constructor
    · rintro rfl
      obtain ⟨c, hc⟩ := exists_holds_of_write h.apart hwrite
      rcases owned_of_write hw hc hwrite with ⟨-, hbody, -⟩ | ⟨⟨⟩, -⟩
      rw [(ends_body? hc).1, hbody]
    · intro hbody
      have hend : Ends (w.body? p) s (.ok (some (Text.physicalLines entries))) _ := ⟨hbody, rfl⟩
      obtain ⟨c, _, hlook, hdone⟩ := hend.of_bind
      obtain ⟨hopen, rfl⟩ := hlook.of_open?
      obtain ⟨f, rfl, hf⟩ := Option.map_eq_some_iff.mp hdone.of_pure.1
      obtain ⟨v, hskip, -⟩ : ∃ v, Ends (w.write p entries true) s (.ok false) v ∧ s.Logged v :=
        write_upToDate hv ⟨hopen, h.apart⟩ hf
      exact (hwrite.unique hskip).1
  cases r with
  | ok written =>
      obtain ⟨c, hc⟩ := exists_holds_of_write h.apart hwrite
      obtain ⟨g, hg, hbody⟩ := body_of_write hw hc hwrite
      have hmanaged : Managed w p u := by
        rcases owned_of_write hw hc hwrite with ⟨-, -, hlog⟩ | ⟨-, -, g', hg', howns, -⟩
        · exact h.of_logged hlog
        · refine Managed.of_holds hg' ?_
          rintro f ⟨⟩
          exact howns
      refine ⟨⟨by simp, ?_, by simp, ?_, ?_⟩, hmanaged⟩
      · rcases hmanaged.absent_or_generated hg with habsent | hgenerated
        · exact Or.inl habsent
        · exact Or.inr (Or.inl hgenerated)
      · rintro _ ⟨⟩
        exact hkept
      · rintro _ ⟨⟩ -
        rw [(ends_body? hg).1, Option.map_some, hbody]
  | error e =>
      rcases of_write_error hwrite with ⟨hinvalid, -⟩ | ⟨-, -, -, f, hf, hother⟩ |
        ⟨hfault, happart, hnone⟩
      · rw [hv] at hinvalid
        cases hinvalid
      · rw [h.owned f hf] at hother
        cases hother
      · obtain ⟨q, fault, rfl⟩ := hfault
        refine ⟨⟨by simp, ?_, by simp, ?_, by simp⟩, happart h.apart, ?_⟩
        · exact Or.inr (Or.inr ⟨⟨q, fault, rfl⟩, hnone⟩)
        · rintro _ ⟨⟩
          exact hkept
        · intro f hf
          exact absurd hf (hnone f)

/-- A removal at a path of the writer. -/
theorem manages_clean
    (hv : isValidName p.name = true)
    (h : Managed w p s)
    {r : Except Error Bool}
    (hclean : Ends (w.clean p) s r u) :
    Manages w p s .clean r u ∧ Managed w p u := by
  cases hopen : s.tree.open? p with
  | error fault =>
      obtain ⟨rfl, rfl⟩ := (clean_fault hopen).unique hclean
      have hnone : ∀ f, s.tree.open? p ≠ .ok (some f) := by
        simp [hopen]
      refine ⟨⟨by simp, ?_, ?_, by simp, by simp⟩, h⟩
      · exact Or.inr (Or.inr ⟨⟨p, fault, rfl⟩, hnone⟩)
      · intro _ f hf
        exact absurd hf (hnone f)
  | ok c =>
      have hc : s.Holds p c := ⟨hopen, h.apart⟩
      cases c with
      | none =>
          obtain ⟨v, hkept, hlog⟩ := clean_other (w := w) hc rfl
          obtain ⟨rfl, rfl⟩ := hkept.unique hclean
          refine ⟨⟨by simp, Or.inl (hlog.holds hc).opened, ?_, by simp, by simp⟩, h.of_logged hlog⟩
          intro _ f hf
          rw [hopen] at hf
          cases hf
      | some f =>
          obtain ⟨v, hremoved, hnone, -⟩ := clean_owned hv hc (h.owned f hopen)
          obtain ⟨rfl, rfl⟩ := hremoved.unique hclean
          refine ⟨⟨by simp, Or.inl hnone.opened, ?_, by simp, by simp⟩, Managed.of_holds hnone ?_⟩
          · intro _ _ _
            exact ⟨rfl, hnone.opened⟩
          · rintro g ⟨⟩

/-- A call about a path of the writer. -/
theorem manages_of_managed
    (hw : w.Marked)
    (hv : isValidName p.name = true)
    (h : Managed w p s)
    (call : Call) :
    Manages w p s call (call.perform w p s).outcome (call.perform w p s).workspace ∧
      Managed w p (call.perform w p s).workspace := by
  cases call with
  | write entries =>
      exact manages_write hw hv h entries (ends_self _ s)
  | clean =>
      exact manages_clean hv h (ends_self _ s)

/-- A path of the writer stays one through every run. -/
theorem managed_afterCalls
    (hw : w.Marked)
    (hv : isValidName p.name = true)
    (h : Managed w p s)
    (calls : List Call) :
    Managed w p (afterCalls w p calls s) := by
  induction calls generalizing s with
  | nil =>
      exact h
  | cons call calls ih =>
      exact ih (manages_of_managed hw hv h call).2

/-- Where the folder is there a call returns, and the folder is there afterwards. -/
theorem seat_perform
    (hw : w.Marked)
    (hv : isValidName p.name = true)
    (h : Managed w p s)
    (hseat : s.tree.Seat p)
    (call : Call) :
    (∃ answer, (call.perform w p s).outcome = .ok answer) ∧
      (call.perform w p s).workspace.tree.Seat p := by
  have hc : s.Holds p (s.tree.find? p.key) := ⟨hseat.open?_eq, h.apart⟩
  have howned : ∀ f ∈ s.tree.find? p.key, w.owns f = true := by
    intro f hf
    exact h.owned f (by rw [hseat.open?_eq, Option.mem_def.mp hf])
  cases call with
  | write entries =>
      obtain ⟨written, u, hwrite⟩ : ∃ written u, Ends (w.write p entries true) s (.ok written) u :=
        write_of_seat hv hc hseat fun _ f hf => Or.inl (howned f hf)
      rw [Call.perform, hwrite.1, hwrite.2]
      refine ⟨⟨written, rfl⟩, ?_⟩
      rcases owned_of_write hw hc hwrite with ⟨-, -, hlog⟩ | ⟨-, -, g, hg, -⟩
      · exact hlog.seat hseat
      · exact seat_of_holds hv hg
  | clean =>
      cases hfind : s.tree.find? p.key with
      | none =>
          rw [hfind] at hc
          obtain ⟨u, hclean, hlog⟩ := clean_other (w := w) hc rfl
          rw [Call.perform, hclean.1, hclean.2]
          exact ⟨⟨false, rfl⟩, hlog.seat hseat⟩
      | some f =>
          rw [hfind] at hc
          obtain ⟨u, hclean, -, hleft⟩ := clean_owned hv hc (howned f hfind)
          rw [Call.perform, hclean.1, hclean.2]
          exact ⟨⟨true, rfl⟩, hleft⟩

theorem seat_afterCalls
    (hw : w.Marked)
    (hv : isValidName p.name = true)
    (h : Managed w p s)
    (hseat : s.tree.Seat p)
    (calls : List Call) :
    (afterCalls w p calls s).tree.Seat p := by
  induction calls generalizing s with
  | nil =>
      exact hseat
  | cons call calls ih =>
      exact ih (manages_of_managed hw hv h call).2 (seat_perform hw hv h hseat call).2

end Managed

/-! ## Whole runs -/

/-- Whose file is at a path decides every run of a writer with a marker on a single line.  A file of
somebody else is left alone by every call.  A path without a file, or with one of the writer, is managed by
every call, and each of them returns if the folder is there. -/
theorem ownership_of_calls
    {marker : String} {s : Workspace} {p : Path} {c : Option File}
    (hmarker : Text.isSingleLine marker = true)
    (hname : isValidName p.name = true)
    (hlogs : s.LogsApart p)
    (hfile : s.tree.open? p = .ok c)
    (history : List Call)
    (call : Call) :
    let w := ofMarker marker
    let t := afterCalls w p history s
    let r := (call.perform w p t).outcome
    let u := (call.perform w p t).workspace
    (∀ f, c = some f → w.owns f = false → LeavesAlone p f call r u) ∧
    ((∀ f, c = some f → w.owns f = true) →
      Manages w p t call r u ∧ (s.tree.Seat p → ∃ answer, r = .ok answer)) := by
  intro w t r u
  have hw : w.Marked := marked_ofMarker hmarker
  have hc : s.Holds p c := ⟨hfile, hlogs⟩
  constructor
  · rintro f rfl hother
    have ht : t.Holds p (some f) := holds_afterCalls hname hc hother history
    exact (leavesAlone_of_holds hname ht hother call).1
  · intro howned
    have hs : Managed w p s := Managed.of_holds hc howned
    have ht : Managed w p t := managed_afterCalls hw hname hs history
    refine ⟨(manages_of_managed hw hname ht call).1, ?_⟩
    intro hseat
    exact (seat_perform hw hname ht (seat_afterCalls hw hname hs hseat history) call).1

/-- A manifest without a marker line. -/
def unmarked : File :=
  ⟨"export(a)\n".toUTF8, 0o644⟩

/-- A workspace with this manifest. -/
def unmarkedSpace : Workspace :=
  { tree := { files := [(["NAMESPACE"], unmarked)] } }

theorem ownership_of_calls_unmarked :
    let w := ofMarker defaultMarker
    let p : Path := ⟨1, ["NAMESPACE"]⟩
    let write := Call.write ["import(x)", "export(a)\nexport(b)"]
    let t := afterCalls w p [.clean, write] unmarkedSpace
    let v := afterCalls w p [.clean, write] { tree := {} }
    w.owns unmarked = false ∧
    LeavesAlone p unmarked write (write.perform w p t).outcome (write.perform w p t).workspace ∧
    Manages w p v .clean (Call.clean.perform w p v).outcome (Call.clean.perform w p v).workspace ∧
    ∃ answer, (Call.clean.perform w p v).outcome = .ok answer := by
  intro w p write t v
  have hmarker : Text.isSingleLine defaultMarker = true := by
    decide
  have hname : isValidName p.name = true := by
    decide
  have hfile : unmarkedSpace.tree.open? p = .ok (some unmarked) := by
    decide +kernel
  have hother : w.owns unmarked = false := by
    decide +kernel
  have hempty : ({ tree := {} } : Workspace).tree.open? p = .ok none := by
    decide +kernel
  have hseat : ({ tree := {} } : Workspace).tree.Seat p := by
    refine ⟨rfl, ?_, ?_, ?_, ?_⟩ <;> decide
  have hforeign :=
    (ownership_of_calls hmarker hname (by rintro j ⟨⟩) hfile [.clean, write] write).1
  have hmanaged :=
    (ownership_of_calls hmarker hname (by rintro j ⟨⟩) hempty [.clean, write] .clean).2
  obtain ⟨hmanages, hanswer⟩ := hmanaged (by simp)
  exact ⟨hother, hforeign unmarked rfl hother, hmanages, hanswer hseat⟩

end Writer
end NamespaceManifest
