import NamespaceManifest.Proofs.Manifest.Reading
import NamespaceManifest.Proofs.Work

/-!
# Writing manifests

Writing entries to a path does one of three things.

* The lines are there already: nothing changes (`write_upToDate`).
* The file is not the writer's and the check is on: nothing changes and the work fails
  (`write_refused`).
* A file with the entries takes the place of the old one (`write_replaces`).

Conversely, a write that returned did the first or the last of these (`of_write`), and so it has left
the lines that were to be written (`body_of_write`).  A write that failed was to a name that is
not valid, was refused, or met a fault of the file system (`of_write_error`).

So what was written is read back, and writing it once more changes nothing (`write_read_back`).  All other
files stay as they are (`spares_write`).
-/

namespace NamespaceManifest
namespace Writer

open Work

/-- A valid name is a name. -/
theorem named_of_isValidName
    {p : Path}
    (hv : isValidName p.name = true) :
    p.parts ≠ [] ∧ p.name ≠ ".." := by
  constructor
  · intro hparts
    have hname : p.name = "" := by
      simp [Path.name, hparts]
    rw [hname] at hv
    exact absurd hv (by decide)
  · intro hname
    rw [hname] at hv
    exact absurd hv (by decide)

/-- The path of a file with a valid name is a seat. -/
theorem seat_of_holds
    {s : Workspace} {p : Path} {f : File}
    (hv : isValidName p.name = true)
    (h : s.Holds p (some f)) :
    s.tree.Seat p := by
  obtain ⟨hne, hup⟩ := named_of_isValidName hv
  exact Tree.Seat.of_file h.opened hne hup

section Look

variable {w : Writer} {s : Workspace} {p : Path} {c : Option File}

theorem ends_isGenerated
    (h : s.Holds p c) :
    Ends (w.isGenerated p) s (.ok (c.any w.owns)) s := by
  exact ends_isGenerated_of_opened h.opened

theorem ends_body?
    (h : s.Holds p c) :
    Ends (w.body? p) s (.ok (c.map w.bodyOf)) s := by
  exact ends_body?_of_opened h.opened

theorem quiet_isGenerated
    (w : Writer) (p : Path) :
    Quiet (w.isGenerated p) := by
  exact (quiet_open? p).bind fun _ => quiet_pure _

theorem quiet_body?
    (w : Writer) (p : Path) :
    Quiet (w.body? p) := by
  exact (quiet_open? p).bind fun _ => quiet_pure _

/-- A file is looked at in vain only because of the file system. -/
theorem fault_of_look
    {α : Type} {g : Option File → α} {u : Workspace} {e : Error}
    (h : Ends (Work.open? p >>= fun c => pure (g c)) s (.error e) u) :
    ∃ q fault, e = .fileSystem q fault := by
  rcases h.of_bind_error with hlook | ⟨_, _, -, ⟨⟩, -⟩
  obtain ⟨⟨fault, -, he⟩, -⟩ := hlook.of_open?_error
  exact ⟨p, fault, he⟩

end Look

section Replace

variable {s u : Workspace} {p : Path}

/-- At a path a file can be put that is a seat once its folder has been made. -/
theorem replace_of_made
    {made : Tree}
    (hmade : s.tree.makeFolders p.parent = (made, none))
    (hseat : made.Seat p)
    (bytes : ByteArray) :
    ∃ u, Ends (replace p bytes) s (.ok ()) u := by
  have hmake : Ends (Work.makeFolders p.parent) s (.ok ()) { s with tree := made } := by
    constructor <;> simp [Work.makeFolders, hmade]
  have hlook : Ends (Work.open? p) { s with tree := made } (.ok (made.find? p.key)) { s with tree := made } :=
    ends_open? hseat.open?_eq
  exact ⟨_, hmake.bind (hlook.bind (ends_self _ _))⟩

/-- Bytes that were put at a path are there. -/
theorem holds_of_replace
    {bytes : ByteArray}
    (hv : isValidName p.name = true)
    (h : Ends (replace p bytes) s (.ok ()) u) :
    ∃ mode, u.Holds p (some ⟨bytes, mode⟩) := by
  obtain ⟨hne, hup⟩ := named_of_isValidName hv
  obtain ⟨_, made, hmake, h⟩ := h.of_bind
  obtain ⟨present, v, hlook, hput⟩ := h.of_bind
  obtain ⟨hopen, rfl⟩ := hlook.of_open?
  have hfolder : made.tree.walk [] p.parent.parts = .folder := by
    obtain ⟨hok, rfl⟩ := hmake
    simp only [Work.makeFolders] at hok ⊢
    cases hm : s.tree.makeFolders p.parent with
    | mk tree fault =>
        cases fault with
        | none =>
            exact Tree.folder_of_makeFolders hm
        | some fault =>
            simp [hm] at hok
  have hseat : made.tree.Seat p :=
    Tree.Seat.of_open? hopen hfolder hne hup
  obtain ⟨-, rfl⟩ := hput
  refine ⟨modeFor present, ?_, ?_⟩
  · exact hseat.open?_put_self _
  · exact Workspace.logsApart_release_self _ p

/-- Bytes that could not be put at a path have left no file there. -/
theorem of_replace_error
    {bytes : ByteArray} {e : Error}
    (hv : isValidName p.name = true)
    (h : Ends (replace p bytes) s (.error e) u) :
    (∃ q fault, e = .fileSystem q fault) ∧ (s.LogsApart p → u.LogsApart p) ∧
      ∀ f, u.tree.open? p ≠ .ok (some f) := by
  obtain ⟨hne, hup⟩ := named_of_isValidName hv
  rcases h.of_bind_error with hmake | ⟨_, made, hmake, h⟩
  · -- without its folder a path leads nowhere
    obtain ⟨herror, rfl⟩ := hmake
    simp only [Work.makeFolders] at herror ⊢
    cases hm : s.tree.makeFolders p.parent with
    | mk tree fault =>
        cases fault with
        | none =>
            simp [hm] at herror
        | some fault =>
            simp only [hm, Except.error.injEq] at herror
            refine ⟨⟨p.parent, fault, herror.symm⟩, id, ?_⟩
            intro f hf
            exact Tree.not_folder_of_makeFolders hm (Tree.Seat.of_file hf hne hup).folder
  · rcases h.of_bind_error with hlook | ⟨present, v, -, hput⟩
    · obtain ⟨⟨fault, hfault, rfl⟩, rfl⟩ := hlook.of_open?_error
      refine ⟨⟨p, fault, rfl⟩, ?_, ?_⟩
      · obtain ⟨-, rfl⟩ := hmake
        exact id
      · intro f hf
        rw [hfault] at hf
        cases hf
    · cases hput.1

end Replace

/-- The part of a write after the look at the old file. -/
def writeOver (w : Writer) (p : Path) (old : Option File) (entries : List String) (check : Bool) :
    Work Bool := do
  if old.map w.bodyOf = some (Text.physicalLines entries) then
    Work.note .debug .writer (p.display ++ " already up to date")
    return false
  else if check && old.any (!w.owns ·) then
    Work.note .warning .writer ("Skipping " ++ p.display ++ ": not generated by nsgen")
    Work.fail (.conflict p)
  else
    replace p (w.bytesFor old entries)
    Work.note .info .writer ("Writing " ++ p.name)
    return true

section Write

variable {w : Writer} {s u : Workspace} {p : Path} {entries : List String} {check : Bool}

/-- A write to a valid name is a look at the old file and what follows from it. -/
theorem write_eq
    (hv : isValidName p.name = true) :
    w.write p entries check =
      (Work.open? p >>= fun old => w.writeOver p old entries check) := by
  unfold write
  simp only [hv, Bool.not_true, Bool.false_eq_true, if_false]
  rfl

/-- A write to any other name fails at once. -/
theorem write_invalid
    (hv : isValidName p.name = false) :
    w.write p entries check = Work.fail (.invalidName p.name) := by
  unfold write
  simp only [hv, Bool.not_false, if_true]

theorem ends_write
    {c : Option File} {r : Except Error Bool}
    (hv : isValidName p.name = true)
    (hopen : s.tree.open? p = .ok c)
    (hover : Ends (w.writeOver p c entries check) s r u) :
    Ends (w.write p entries check) s r u := by
  rw [write_eq hv]
  exact (ends_open? hopen).bind hover

/-- Lines that are there already are not written. -/
theorem write_upToDate
    {f : File}
    (hv : isValidName p.name = true)
    (h : s.Holds p (some f))
    (hbody : w.bodyOf f = Text.physicalLines entries) :
    ∃ u, Ends (w.write p entries check) s (.ok false) u ∧ s.Logged u := by
  obtain ⟨u, hnote, hlog⟩ :=
    ends_note .debug .writer (p.display ++ " already up to date") s
  refine ⟨u, ends_write hv h.opened ?_, hlog⟩
  rw [writeOver, if_pos (by simp [hbody])]
  exact hnote.bind (ends_pure false u)

/-- A file of somebody else that has other lines is left alone if the check is on. -/
theorem write_refused
    {f : File}
    (hv : isValidName p.name = true)
    (h : s.Holds p (some f))
    (howns : w.owns f = false)
    (hbody : w.bodyOf f ≠ Text.physicalLines entries) :
    ∃ u, Ends (w.write p entries true) s (.error (.conflict p)) u ∧ s.Logged u := by
  obtain ⟨u, hnote, hlog⟩ :=
    ends_note .warning .writer ("Skipping " ++ p.display ++ ": not generated by nsgen") s
  refine ⟨u, ends_write hv h.opened ?_, hlog⟩
  rw [writeOver, if_neg (by simpa using hbody), if_pos (by simp [howns])]
  exact hnote.bind (ends_fail (.conflict p) u)

/-- Other lines are written where a file can be put, unless the check stands against it. -/
theorem write_replaces_of_made
    {c : Option File} {made : Tree}
    (hv : isValidName p.name = true)
    (hopen : s.tree.open? p = .ok c)
    (hmade : s.tree.makeFolders p.parent = (made, none))
    (hseat : made.Seat p)
    (hcheck : check = true → ∀ f ∈ c, w.owns f = true)
    (hbody : c.map w.bodyOf ≠ some (Text.physicalLines entries)) :
    ∃ u, Ends (w.write p entries check) s (.ok true) u := by
  have hallowed : (check && c.any (!w.owns ·)) = false := by
    cases check with
    | false =>
        rfl
    | true =>
        cases c with
        | none =>
            rfl
        | some f =>
            simp [hcheck rfl f rfl]
  obtain ⟨v, hreplace⟩ := replace_of_made hmade hseat (w.bytesFor c entries)
  obtain ⟨u, hnote, -⟩ := ends_note .info .writer ("Writing " ++ p.name) v
  refine ⟨u, ends_write hv hopen ?_⟩
  rw [writeOver, if_neg hbody, if_neg (by simp [hallowed])]
  exact hreplace.bind (hnote.bind (ends_pure true u))

/-- This is so at a seat. -/
theorem write_replaces
    {c : Option File}
    (hv : isValidName p.name = true)
    (h : s.Holds p c)
    (hseat : s.tree.Seat p)
    (hcheck : check = true → ∀ f ∈ c, w.owns f = true)
    (hbody : c.map w.bodyOf ≠ some (Text.physicalLines entries)) :
    ∃ u, Ends (w.write p entries check) s (.ok true) u := by
  exact write_replaces_of_made hv h.opened (Tree.makeFolders_of_folder hseat.folder) hseat hcheck hbody

/-- A write that returned was to a valid name. -/
theorem isValidName_of_write
    {written : Bool}
    (hwrite : Ends (w.write p entries check) s (.ok written) u) :
    isValidName p.name = true := by
  by_contra hv
  rw [write_invalid (by simpa using hv)] at hwrite
  cases hwrite.1

/-- A write that returned could look at its path.  It found the lines there and left log records only, or it
put a file with the given entries, also where the journal kept the old one. -/
theorem of_write
    {written : Bool}
    (hwrite : Ends (w.write p entries check) s (.ok written) u) :
    ∃ c, s.tree.open? p = .ok c ∧
      (written = false ∧ c.map w.bodyOf = some (Text.physicalLines entries) ∧ s.Logged u
        ∨
      written = true ∧ c.map w.bodyOf ≠ some (Text.physicalLines entries) ∧
        ∃ mode, u.Holds p (some ⟨w.bytesFor c entries, mode⟩)) := by
  have hv := isValidName_of_write hwrite
  rw [write_eq hv] at hwrite
  obtain ⟨c, _, hlook, hwrite⟩ := hwrite.of_bind
  obtain ⟨hopen, rfl⟩ := hlook.of_open?
  refine ⟨c, hopen, ?_⟩
  unfold writeOver at hwrite
  split_ifs at hwrite with hbody hrefused
  · -- the lines are there
    obtain ⟨_, v, hnote, hdone⟩ := hwrite.of_bind
    obtain ⟨rfl, rfl⟩ := hdone.of_pure
    exact Or.inl ⟨rfl, hbody, hnote.of_note⟩
  · -- a refusal does not return
    obtain ⟨_, v, -, hfail⟩ := hwrite.of_bind
    cases hfail.1
  · -- the file is replaced
    obtain ⟨_, v, hreplace, hwrite⟩ := hwrite.of_bind
    obtain ⟨mode, hv'⟩ := holds_of_replace hv hreplace
    obtain ⟨_, v', hnote, hdone⟩ := hwrite.of_bind
    obtain ⟨rfl, rfl⟩ := hdone.of_pure
    exact Or.inr ⟨rfl, hbody, mode, hnote.of_note.holds hv'⟩

theorem exists_holds_of_write
    {written : Bool}
    (hlogs : s.LogsApart p)
    (hwrite : Ends (w.write p entries check) s (.ok written) u) :
    ∃ c, s.Holds p c := by
  obtain ⟨c, hopen, -⟩ := of_write hwrite
  exact ⟨c, hopen, hlogs⟩

theorem holds_of_write
    {c : Option File} {written : Bool}
    (h : s.Holds p c)
    (hwrite : Ends (w.write p entries check) s (.ok written) u) :
    written = false ∧ c.map w.bodyOf = some (Text.physicalLines entries) ∧ s.Logged u
      ∨
    written = true ∧ c.map w.bodyOf ≠ some (Text.physicalLines entries) ∧
      ∃ mode, u.Holds p (some ⟨w.bytesFor c entries, mode⟩) := by
  obtain ⟨d, hopen, hcases⟩ := of_write hwrite
  obtain rfl : d = c := Except.ok.inj (hopen.symm.trans h.opened)
  exact hcases

/-- The file that a write put is the writer's and has the lines that were to be written. -/
theorem owned_of_write
    {c : Option File} {written : Bool}
    (hw : w.Marked)
    (h : s.Holds p c)
    (hwrite : Ends (w.write p entries check) s (.ok written) u) :
    written = false ∧ c.map w.bodyOf = some (Text.physicalLines entries) ∧ s.Logged u
      ∨
    written = true ∧ c.map w.bodyOf ≠ some (Text.physicalLines entries) ∧
      ∃ g, u.Holds p (some g) ∧ w.owns g = true ∧ w.bodyOf g = Text.physicalLines entries := by
  rcases holds_of_write h hwrite with hkept | ⟨hwritten, hbody, mode, hg⟩
  · exact Or.inl hkept
  · exact Or.inr ⟨hwritten, hbody, _, hg, owns_written hw c entries mode,
      bodyOf_written hw c entries mode⟩

/-- A write that returned has left the lines that were to be written. -/
theorem body_of_write
    {c : Option File} {written : Bool}
    (hw : w.Marked)
    (h : s.Holds p c)
    (hwrite : Ends (w.write p entries check) s (.ok written) u) :
    ∃ f, u.Holds p (some f) ∧ w.bodyOf f = Text.physicalLines entries := by
  rcases owned_of_write hw h hwrite with ⟨-, hbody, hlog⟩ | ⟨-, -, g, hg, -, hbody⟩
  · obtain ⟨f, rfl, hf⟩ := Option.map_eq_some_iff.mp hbody
    exact ⟨f, hlog.holds h, hf⟩
  · exact ⟨g, hg, hbody⟩

/-- At a seat a write that no check stands against succeeds. -/
theorem write_of_seat
    {c : Option File}
    (hv : isValidName p.name = true)
    (h : s.Holds p c)
    (hseat : s.tree.Seat p)
    (hcheck : check = true → ∀ f ∈ c, w.owns f = true ∨ w.bodyOf f = Text.physicalLines entries) :
    ∃ written u, Ends (w.write p entries check) s (.ok written) u := by
  by_cases hbody : c.map w.bodyOf = some (Text.physicalLines entries)
  · obtain ⟨f, rfl, hf⟩ := Option.map_eq_some_iff.mp hbody
    obtain ⟨u, hwrite, -⟩ := write_upToDate hv h hf
    exact ⟨false, u, hwrite⟩
  · have hallowed : check = true → ∀ f ∈ c, w.owns f = true := by
      intro hc f hf
      rcases hcheck hc f hf with howns | hlines
      · exact howns
      · exact absurd (by rw [Option.mem_def.mp hf, Option.map_some, hlines]) hbody
    obtain ⟨u, hwrite⟩ := write_replaces hv h hseat hallowed hbody
    exact ⟨true, u, hwrite⟩

/-- A write that failed was to a name that is not valid, or was refused, or met a fault of the file system.
In the last case there is no file at the path. -/
theorem of_write_error
    {e : Error}
    (hwrite : Ends (w.write p entries check) s (.error e) u) :
    isValidName p.name = false ∧ e = .invalidName p.name ∧ s = u
      ∨
    check = true ∧ e = .conflict p ∧ s.Logged u ∧
      (∃ f, s.tree.open? p = .ok (some f) ∧ w.owns f = false)
      ∨
    (∃ q fault, e = .fileSystem q fault) ∧ (s.LogsApart p → u.LogsApart p) ∧
      ∀ f, u.tree.open? p ≠ .ok (some f) := by
  by_cases hv : isValidName p.name = true
  · refine Or.inr ?_
    rw [write_eq hv] at hwrite
    rcases hwrite.of_bind_error with hlook | ⟨old, v, hlook, hwrite⟩
    · obtain ⟨⟨fault, hfault, rfl⟩, rfl⟩ := hlook.of_open?_error
      refine Or.inr ⟨⟨p, fault, rfl⟩, id, ?_⟩
      intro f hf
      rw [hfault] at hf
      cases hf
    · obtain ⟨hopen, rfl⟩ := hlook.of_open?
      unfold writeOver at hwrite
      split_ifs at hwrite with hbody hrefused
      · -- lines that are there are no failure
        obtain ⟨⟨⟩, -⟩ | ⟨_, v, -, ⟨⟩, -⟩ := hwrite.of_bind_error
      · obtain ⟨⟨⟩, -⟩ | ⟨_, v, hnote, hfail⟩ := hwrite.of_bind_error
        obtain ⟨hconflict, rfl⟩ := hfail
        obtain ⟨hcheck, hany⟩ := (Bool.and_eq_true _ _).mp hrefused
        obtain ⟨f, rfl, hother⟩ := (Option.any_eq_true _ _).mp hany
        refine Or.inl ⟨hcheck, (Except.error.inj hconflict).symm, hnote.of_note, f, hopen, ?_⟩
        simpa using hother
      · rcases hwrite.of_bind_error with hreplace | ⟨_, v, -, hwrite⟩
        · exact Or.inr (of_replace_error hv hreplace)
        · obtain ⟨⟨⟩, -⟩ | ⟨_, v, -, ⟨⟩, -⟩ := hwrite.of_bind_error
  · have hv : isValidName p.name = false := by simpa using hv
    rw [write_invalid hv] at hwrite
    exact Or.inl ⟨hv, (Except.error.inj hwrite.1).symm, hwrite.2⟩

/-- A write is refused because of the name, which changes nothing, exactly if the name is not valid. -/
theorem write_eq_invalidName_iff
    (w : Writer) (p : Path) (entries : List String) (check : Bool) (s : Workspace) :
    Ends (w.write p entries check) s (.error (.invalidName p.name)) s ↔ isValidName p.name = false := by
  constructor
  · intro hwrite
    rcases of_write_error hwrite with ⟨hv, -⟩ | ⟨-, ⟨⟩, -⟩ | ⟨⟨q, fault, ⟨⟩⟩, -⟩
    exact hv
  · intro hv
    rw [write_invalid hv]
    exact ends_fail _ s

/-- At a seat a write returns exactly if the name is valid and the check has nothing against it. -/
theorem exists_write_iff
    {c : Option File}
    (h : s.Holds p c)
    (hseat : s.tree.Seat p) :
    (∃ written, (w.write p entries check s).outcome = .ok written) ↔
      isValidName p.name = true ∧
        (check = true →
          ∀ f ∈ c, w.owns f = true ∨ w.bodyOf f = Text.physicalLines entries) := by
  constructor
  · rintro ⟨written, hwritten⟩
    have hwrite : Ends (w.write p entries check) s (.ok written) _ := ⟨hwritten, rfl⟩
    have hv := isValidName_of_write hwrite
    refine ⟨hv, ?_⟩
    rintro rfl f hf
    by_contra hother
    obtain ⟨hforeign, hlines⟩ := not_or.mp hother
    rw [Option.mem_def.mp hf] at h
    obtain ⟨u, hrefused, -⟩ := write_refused hv h (by simpa using hforeign) hlines
    cases (hrefused.unique hwrite).1
  · rintro ⟨hv, hcheck⟩
    obtain ⟨written, u, hwrite⟩ := write_of_seat hv h hseat hcheck
    exact ⟨written, hwrite.1⟩

end Write

/-! ## Other files -/

section Spares

variable {key : List String} {p : Path}

theorem spares_replace
    (hne : key ≠ p.key)
    (bytes : ByteArray) :
    Keeps (Spares key) (replace p bytes) := by
  refine (spares_makeFolders p.parent).bind lasting_spares fun _ => ?_
  refine Keeps.bind lasting_spares ((quiet_open? p).keeps lasting_spares) fun present => ?_
  exact spares_replaceFile hne _

/-- A write leaves all files but the one at its path as they are. -/
theorem spares_write
    (hne : key ≠ p.key)
    (w : Writer) (entries : List String) (check : Bool) :
    Keeps (Spares key) (w.write p entries check) := by
  by_cases hv : isValidName p.name = true
  · rw [write_eq hv]
    refine Keeps.bind lasting_spares ((quiet_open? p).keeps lasting_spares) fun old => ?_
    unfold writeOver
    split
    · exact ((quiet_records _).bind fun _ => quiet_pure _).keeps lasting_spares
    · split
      · exact ((quiet_records _).bind fun _ => quiet_fail _).keeps lasting_spares
      · refine (spares_replace hne _).bind lasting_spares fun _ => ?_
        exact ((quiet_records _).bind fun _ => quiet_pure _).keeps lasting_spares
  · rw [write_invalid (by simpa using hv)]
    exact (quiet_fail _).keeps lasting_spares

end Spares

/-! ## Writing and reading back -/

/-- A writer that recognises its marker reads back what it has written, whatever was at the path before.  At
a seat a write returns unless the name is not valid or the check is against it.  Whenever it returns, the
lines at the path are those of the entries, and the same write, with the check or without, has nothing
more to do. -/
theorem write_read_back
    {w : Writer} {s : Workspace} {p : Path}
    (hmarker : Text.isSingleLine w.marker = true)
    (hclaims : w.claims w.marker = true)
    (hlogs : s.LogsApart p)
    (entries : List String) (check : Bool) :
    let u := (w.write p entries check s).workspace
    (∀ c, s.tree.Seat p → s.tree.open? p = .ok c →
      ((∃ written, (w.write p entries check s).outcome = .ok written) ↔
        isValidName p.name = true ∧
          (check = true →
            ∀ f ∈ c, w.owns f = true ∨ w.bodyOf f = Text.physicalLines entries))) ∧
    (∀ written, (w.write p entries check s).outcome = .ok written →
      (w.body? p u).outcome = .ok (some (Text.physicalLines entries)) ∧
      ∀ again,
        (w.write p entries again u).outcome = .ok false ∧
        (w.write p entries again u).workspace.tree.open? p = u.tree.open? p) := by
  intro u
  have hw : w.Marked := ⟨hmarker, hclaims⟩
  constructor
  · intro c hseat hfile
    exact exists_write_iff ⟨hfile, hlogs⟩ hseat
  · intro written hwritten
    have hwrite : Ends (w.write p entries check) s (.ok written) u := ⟨hwritten, rfl⟩
    have hv := isValidName_of_write hwrite
    obtain ⟨c, hc⟩ := exists_holds_of_write hlogs hwrite
    obtain ⟨f, hf, hbody⟩ := body_of_write hw hc hwrite
    refine ⟨?_, ?_⟩
    · rw [(ends_body? hf).1, Option.map_some, hbody]
    · intro again
      obtain ⟨v, hskip, hlog⟩ : ∃ v, Ends (w.write p entries again) u (.ok false) v ∧ u.Logged v :=
        write_upToDate hv hf hbody
      refine ⟨hskip.1, ?_⟩
      rw [hskip.2]
      exact hlog.open?_eq hf.apart

/-- A workspace with a manifest that has no marker and ends its lines with a carriage return and a line
feed. -/
def pairedSpace : Workspace :=
  { tree := { files := [(["NAMESPACE"], ⟨"export(a)\r\n".toUTF8, 0o600⟩)] } }

theorem write_read_back_pairedSpace :
    let w := withSignature "#! generated" (some "#!")
    let p : Path := ⟨1, ["NAMESPACE"]⟩
    let entries := ["", "b\r", "a\u2028\u2028c\n", ""]
    let u := (w.write p entries false pairedSpace).workspace
    w.claims w.marker = true ∧
    (∃ written, (w.write p entries false pairedSpace).outcome = .ok written) ∧
    (w.body? p u).outcome = .ok (some (Text.physicalLines entries)) ∧
    ∀ again,
      (w.write p entries again u).outcome = .ok false ∧
      (w.write p entries again u).workspace.tree.open? p = u.tree.open? p := by
  intro w p entries u
  have hclaims : w.claims w.marker = true := by
    decide
  have hlogs : pairedSpace.LogsApart p := by
    rintro j ⟨⟩
  have hseat : pairedSpace.tree.Seat p := by
    refine ⟨rfl, ?_, ?_, ?_, ?_⟩ <;> decide
  obtain ⟨hreturns, hread⟩ := write_read_back (by decide) hclaims hlogs entries false
  obtain ⟨written, hwritten⟩ := (hreturns _ hseat hseat.open?_eq).mpr ⟨by decide, by simp⟩
  exact ⟨hclaims, ⟨written, hwritten⟩, hread written hwritten⟩

end Writer
end NamespaceManifest
