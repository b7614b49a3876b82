import NamespaceManifest.File.Tree
import Mathlib.Data.List.Basic

/-!
# Laws of file trees

Whether a path can hold a file is a matter of folders only: its own folder has to be there, and the path
itself must not be one.  A path with this property is a seat (`Tree.Seat`).  What stands at a seat is
what the tree has under its key, so that putting and erasing files acts on seats as on a map from keys.

**Results.**
* `open?_put_self`, `open?_erase_self`: files after a change.
* `open?_put_of_ne`: a file put at another key is not seen at a path, seat or not.
* `open?_error_of_isFolder_eq`: whether a path can be looked at is a matter of folders, too.
* `makeFolders_of_folder`, `folder_of_makeFolders`: making a folder that is there changes nothing, and
  a folder that was made is there.
* `not_folder_of_makeFolders`: a folder that could not be made is not there.
* `find?_makeFolders`: making folders leaves all files as they are.
-/

namespace NamespaceManifest

namespace Path

/-- The parts of a path, last first, after more parts were followed from a folder. -/
def climb (done : List String) : List String → List String
  | [] => done
  | part :: parts => climb (if part == ".." then done.drop 1 else part :: done) parts

theorem collapseOnto_eq_climb
    (done parts : List String) :
    collapseOnto done parts = (climb done parts).reverse := by
  induction parts generalizing done with
  | nil =>
      rfl
  | cons part parts ih =>
      rw [collapseOnto, climb]
      split <;> simp_all

theorem climb_append
    (done xs ys : List String) :
    climb done (xs ++ ys) = climb (climb done xs) ys := by
  induction xs generalizing done with
  | nil =>
      rfl
  | cons x xs ih =>
      simp [climb, ih]

/-- The key of a path whose last part is a name. -/
theorem parts_eq_parent_append
    {p : Path}
    (hne : p.parts ≠ []) :
    p.parts = p.parent.parts ++ [p.name] := by
  simp [parent, name, List.getLast?_eq_some_getLast hne, List.dropLast_append_getLast]

theorem key_eq_climb_parent
    {p : Path}
    (hne : p.parts ≠ [])
    (hup : p.name ≠ "..") :
    p.key = (p.name :: climb [] p.parent.parts).reverse := by
  rw [key, collapseOnto_eq_climb, parts_eq_parent_append hne, climb_append]
  simp [climb, hup]

end Path

namespace Tree

/-! ## Following a path -/

/-- What the next part of a path can be, seen from a folder. -/
inductive Step (t : Tree) (done : List String) (part : String) : Prop
  | up
      (hup : part = "..") :
      Step t done part
  | tooLong
      (hup : part ≠ "..")
      (hlong : nameLimit < part.utf8ByteSize) :
      Step t done part
  | folder
      (hup : part ≠ "..")
      (hlong : ¬nameLimit < part.utf8ByteSize)
      (hfolder : t.isFolder (part :: done).reverse = true) :
      Step t done part
  | leaf
      (hup : part ≠ "..")
      (hlong : ¬nameLimit < part.utf8ByteSize)
      (hfolder : t.isFolder (part :: done).reverse = false) :
      Step t done part

theorem step
    (t : Tree)
    (done : List String)
    (part : String) :
    Step t done part := by
  by_cases hup : part = ".."
  · exact .up hup
  · by_cases hlong : nameLimit < part.utf8ByteSize
    · exact .tooLong hup hlong
    · by_cases hfolder : t.isFolder (part :: done).reverse = true
      · exact .folder hup hlong hfolder
      · exact .leaf hup hlong (by simpa using hfolder)

section Walk

variable {t : Tree} {done : List String} {part : String}

theorem walk_nil :
    t.walk done [] = .folder := by
  rfl

theorem walk_cons
    (parts : List String) :
    t.walk done (part :: parts) =
      if part = ".." then t.walk (done.drop 1) parts
      else if nameLimit < part.utf8ByteSize then .unnamable
      else if t.isFolder (part :: done).reverse then t.walk (part :: done) parts
      else
        match t.find? (part :: done).reverse, parts with
        | some f, [] => .file f
        | some _, _ => .blocked
        | none, _ => .missing := by
  conv_lhs => unfold walk
  exact if_congr beq_iff_eq rfl rfl

theorem walk_up
    (parts : List String) :
    t.walk done (".." :: parts) = t.walk (done.drop 1) parts := by
  rw [walk_cons, if_pos rfl]

theorem walk_tooLong
    (hup : part ≠ "..")
    (hlong : nameLimit < part.utf8ByteSize)
    (parts : List String) :
    t.walk done (part :: parts) = .unnamable := by
  rw [walk_cons, if_neg hup, if_pos hlong]

theorem walk_folder
    (hup : part ≠ "..")
    (hlong : ¬nameLimit < part.utf8ByteSize)
    (hfolder : t.isFolder (part :: done).reverse = true)
    (parts : List String) :
    t.walk done (part :: parts) = t.walk (part :: done) parts := by
  rw [walk_cons, if_neg hup, if_neg hlong, if_pos hfolder]

/-- The place of a part that is no folder and the last one. -/
theorem walk_last
    (hup : part ≠ "..")
    (hlong : ¬nameLimit < part.utf8ByteSize)
    (hfolder : t.isFolder (part :: done).reverse = false) :
    t.walk done [part] = ((t.find? (part :: done).reverse).map Place.file).getD .missing := by
  rw [walk_cons, if_neg hup, if_neg hlong, if_neg (ne_true_of_eq_false hfolder)]
  cases t.find? (part :: done).reverse <;> rfl

/-- The place of a part that is no folder although more parts follow. -/
theorem walk_inner
    (hup : part ≠ "..")
    (hlong : ¬nameLimit < part.utf8ByteSize)
    (hfolder : t.isFolder (part :: done).reverse = false)
    (next : String)
    (parts : List String) :
    t.walk done (part :: next :: parts) = .blocked ∨
      t.walk done (part :: next :: parts) = .missing := by
  rw [walk_cons, if_neg hup, if_neg hlong, if_neg (ne_true_of_eq_false hfolder)]
  cases t.find? (part :: done).reverse
  · exact Or.inr rfl
  · exact Or.inl rfl

theorem walk_leaf_ne_folder
    (hup : part ≠ "..")
    (hlong : ¬nameLimit < part.utf8ByteSize)
    (hfolder : t.isFolder (part :: done).reverse = false)
    (parts : List String) :
    t.walk done (part :: parts) ≠ .folder := by
  cases parts with
  | nil =>
      rw [walk_last hup hlong hfolder]
      cases t.find? (part :: done).reverse <;> simp
  | cons next parts =>
      rcases walk_inner hup hlong hfolder next parts with h | h <;> simp [h]

end Walk

/-- A folder is followed further from where it is. -/
theorem walk_append
    {t : Tree} {done xs : List String}
    (h : t.walk done xs = .folder)
    (ys : List String) :
    t.walk done (xs ++ ys) = t.walk (Path.climb done xs) ys := by
  induction xs generalizing done with
  | nil =>
      rfl
  | cons x xs ih =>
      rw [List.cons_append, Path.climb]
      cases t.step done x with
      | up hup =>
          subst hup
          rw [walk_up] at h ⊢
          exact ih h
      | tooLong hup hlong =>
          rw [walk_tooLong hup hlong] at h
          cases h
      | folder hup hlong hfolder =>
          rw [walk_folder hup hlong hfolder] at h ⊢
          simpa [hup] using ih h
      | leaf hup hlong hfolder =>
          exact absurd h (walk_leaf_ne_folder hup hlong hfolder xs)

/-- Only from a folder does a path lead on to a folder or a file. -/
theorem folder_of_walk_append
    {t : Tree} {done xs : List String} {y : String}
    (h : t.walk done (xs ++ [y]) = .folder ∨ ∃ f, t.walk done (xs ++ [y]) = .file f) :
    t.walk done xs = .folder := by
  induction xs generalizing done with
  | nil =>
      exact walk_nil
  | cons x xs ih =>
      rw [List.cons_append] at h
      cases t.step done x with
      | up hup =>
          subst hup
          rw [walk_up] at h ⊢
          exact ih h
      | tooLong hup hlong =>
          simp [walk_tooLong hup hlong] at h
      | folder hup hlong hfolder =>
          rw [walk_folder hup hlong hfolder] at h ⊢
          exact ih h
      | leaf hup hlong hfolder =>
          obtain ⟨z, zs, hz⟩ := List.exists_cons_of_ne_nil (List.append_ne_nil_of_right_ne_nil xs
            (List.cons_ne_nil y []))
          rw [hz] at h
          rcases walk_inner hup hlong hfolder z zs with hw | hw <;> simp [hw] at h

/-- Whether a path leads to a folder depends on the folders only. -/
theorem walk_eq_folder_mono
    {t u : Tree} {done parts : List String}
    (hsub : ∀ key, t.isFolder key = true → u.isFolder key = true)
    (h : t.walk done parts = .folder) :
    u.walk done parts = .folder := by
  induction parts generalizing done with
  | nil =>
      exact walk_nil
  | cons x xs ih =>
      cases t.step done x with
      | up hup =>
          subst hup
          rw [walk_up] at h ⊢
          exact ih h
      | tooLong hup hlong =>
          simp [walk_tooLong hup hlong] at h
      | folder hup hlong hfolder =>
          rw [walk_folder hup hlong hfolder] at h
          rw [walk_folder hup hlong (hsub _ hfolder)]
          exact ih h
      | leaf hup hlong hfolder =>
          exact absurd h (walk_leaf_ne_folder hup hlong hfolder xs)

theorem hasFolder_eq_true_iff
    {t : Tree} {p : Path} :
    t.hasFolder p = .ok true ↔ t.walk [] p.parts = .folder := by
  rw [hasFolder, probe]
  cases t.walk [] p.parts <;> simp

/-! ## Files by key -/

theorem lookup_filter_ne
    {key other : List String}
    (h : key ≠ other)
    (files : List (List String × File)) :
    (files.filter fun entry => entry.1 != other).lookup key = files.lookup key := by
  induction files with
  | nil =>
      rfl
  | cons entry files ih =>
      obtain ⟨k, f⟩ := entry
      by_cases hk : k = other
      · have hkey : (key == k) = false := by
          simpa [hk] using h
        rw [List.filter_cons_of_neg (by simpa using hk), ih, List.lookup_cons, hkey]
      · rw [List.filter_cons_of_pos (by simpa using hk), List.lookup_cons, List.lookup_cons, ih]

theorem find?_put_self
    (t : Tree) (p : Path) (f : File) :
    (t.put p f).find? p.key = some f := by
  simp [find?, put]

theorem find?_put_of_ne
    {p : Path} {key : List String}
    (h : key ≠ p.key)
    (t : Tree) (f : File) :
    (t.put p f).find? key = t.find? key := by
  have hkey : (key == p.key) = false := by
    simpa using h
  simp [find?, put, List.lookup_cons, hkey, lookup_filter_ne h]

theorem find?_erase_self
    (t : Tree) (p : Path) :
    (t.erase p).find? p.key = none := by
  rw [find?, List.lookup_eq_none_iff]
  intro entry hentry
  have hne : entry.1 ≠ p.key := by
    simpa using (List.mem_filter.mp hentry).2
  simpa using hne.symm

@[simp] theorem isFolder_put
    (t : Tree) (p : Path) (f : File) (key : List String) :
    (t.put p f).isFolder key = t.isFolder key := by
  rfl

@[simp] theorem isFolder_erase
    (t : Tree) (p : Path) (key : List String) :
    (t.erase p).isFolder key = t.isFolder key := by
  rfl

/-! ## Seats -/

/-- A path that can hold a file: its folder is there, and it is none itself. -/
structure Seat (t : Tree) (p : Path) : Prop where
  folder : t.walk [] p.parent.parts = .folder
  nonempty : p.parts ≠ []
  named : p.name ≠ ".."
  short : ¬nameLimit < p.name.utf8ByteSize
  free : t.isFolder p.key = false

namespace Seat

variable {t : Tree} {p : Path}

/-- What stands at a seat is what the tree has under its key. -/
theorem open?_eq
    (h : Seat t p) :
    t.open? p = .ok (t.find? p.key) := by
  have hkey := Path.key_eq_climb_parent h.nonempty h.named
  have hfree := h.free
  rw [hkey] at hfree
  have hwalk :
      t.probe p = ((t.find? p.key).map Place.file).getD .missing := by
    rw [probe, Path.parts_eq_parent_append h.nonempty, walk_append h.folder,
      walk_last h.named h.short hfree, hkey]
  rw [open?, hwalk]
  cases t.find? p.key <;> rfl

/-- Other files in the same folders leave a seat a seat. -/
theorem of_isFolder_eq
    {u : Tree}
    (h : Seat t p)
    (hsame : ∀ key, u.isFolder key = t.isFolder key) :
    Seat u p := by
  refine ⟨?_, h.nonempty, h.named, h.short, ?_⟩
  · refine walk_eq_folder_mono ?_ h.folder
    intro key hkey
    rw [hsame, hkey]
  · rw [hsame, h.free]

theorem put
    (h : Seat t p)
    (q : Path) (g : File) :
    Seat (t.put q g) p := by
  exact h.of_isFolder_eq fun key => isFolder_put t q g key

theorem erase
    (h : Seat t p)
    (q : Path) :
    Seat (t.erase q) p := by
  exact h.of_isFolder_eq fun key => isFolder_erase t q key

theorem open?_put_self
    (h : Seat t p)
    (f : File) :
    (t.put p f).open? p = .ok (some f) := by
  rw [(h.put p f).open?_eq, find?_put_self]

theorem open?_erase_self
    (h : Seat t p) :
    (t.erase p).open? p = .ok none := by
  rw [(h.erase p).open?_eq, find?_erase_self]

/-- A path that can be looked at, below a folder that is there and with a name of its own, is a
seat. -/
theorem of_open?
    {c : Option File}
    (hopen : t.open? p = .ok c)
    (hfolder : t.walk [] p.parent.parts = .folder)
    (hne : p.parts ≠ [])
    (hup : p.name ≠ "..") :
    Seat t p := by
  have hwalk :
      t.probe p = t.walk (Path.climb [] p.parent.parts) [p.name] := by
    rw [probe, Path.parts_eq_parent_append hne, walk_append hfolder]
  rw [open?, hwalk] at hopen
  have hkey := Path.key_eq_climb_parent hne hup
  cases t.step (Path.climb [] p.parent.parts) p.name with
  | up h =>
      exact absurd h hup
  | tooLong _ hlong =>
      simp [walk_tooLong hup hlong] at hopen
  | folder _ hlong hdir =>
      simp [walk_folder hup hlong hdir, walk_nil] at hopen
  | leaf _ hlong hfree =>
      exact ⟨hfolder, hne, hup, hlong, by rw [hkey, hfree]⟩

/-- The path of a file is a seat, if its last part is a name. -/
theorem of_file
    {f : File}
    (hopen : t.open? p = .ok (some f))
    (hne : p.parts ≠ [])
    (hup : p.name ≠ "..") :
    Seat t p := by
  have hfile : t.probe p = .file f := by
    unfold open? at hopen
    cases hp : t.probe p <;> simp_all
  refine of_open? hopen ?_ hne hup
  rw [probe, Path.parts_eq_parent_append hne] at hfile
  exact folder_of_walk_append (Or.inr ⟨f, hfile⟩)

end Seat

/-! ## Files at other keys -/

/-- What a look at a place finds. -/
def Place.content? : Place → Except FileFault (Option File)
  | .file f => .ok (some f)
  | .folder => .error .isAFolder
  | .unnamable => .error .nameTooLong
  | .missing | .blocked => .ok none

theorem open?_eq_content?
    (t : Tree) (p : Path) :
    t.open? p = Place.content? (t.probe p) := by
  unfold open? Place.content?
  cases t.probe p <;> rfl

/-- A file that is put at another key is not found by following a path.  It may stand where a folder is
needed on the way, but then nothing was found before either. -/
theorem content?_walk_put
    {q : Path} {done parts : List String}
    (h : (Path.climb done parts).reverse ≠ q.key)
    (t : Tree) (g : File) :
    Place.content? ((t.put q g).walk done parts) = Place.content? (t.walk done parts) := by
  induction parts generalizing done with
  | nil =>
      rw [walk_nil, walk_nil]
  | cons x xs ih =>
      rw [Path.climb] at h
      cases t.step done x with
      | up hup =>
          subst hup
          rw [walk_up, walk_up]
          exact ih h
      | tooLong hup hlong =>
          rw [walk_tooLong hup hlong, walk_tooLong hup hlong]
      | folder hup hlong hfolder =>
          rw [walk_folder hup hlong hfolder, walk_folder hup hlong (by simpa using hfolder)]
          exact ih (by simpa [hup] using h)
      | leaf hup hlong hfolder =>
          have hfolder' : (t.put q g).isFolder (x :: done).reverse = false := hfolder
          cases xs with
          | nil =>
              have hkey : (x :: done).reverse ≠ q.key := by
                simpa [hup, Path.climb] using h
              rw [walk_last hup hlong hfolder, walk_last hup hlong hfolder',
                find?_put_of_ne hkey]
          | cons y ys =>
              rcases walk_inner hup hlong hfolder y ys with h₁ | h₁ <;>
                rcases walk_inner hup hlong hfolder' y ys with h₂ | h₂ <;>
                rw [h₁, h₂] <;> rfl

theorem open?_put_of_ne
    {p q : Path}
    (h : p.key ≠ q.key)
    (t : Tree) (g : File) :
    (t.put q g).open? p = t.open? p := by
  rw [Path.key, Path.collapseOnto_eq_climb] at h
  rw [open?_eq_content?, open?_eq_content?, probe, probe, content?_walk_put h]

/-- Where there are the same folders, following a path meets the same faults. -/
theorem content?_walk_error
    {t u : Tree} {done parts : List String} {fault : FileFault}
    (hsame : ∀ key, u.isFolder key = t.isFolder key)
    (h : Place.content? (t.walk done parts) = .error fault) :
    Place.content? (u.walk done parts) = .error fault := by
  induction parts generalizing done with
  | nil =>
      rwa [walk_nil] at h ⊢
  | cons x xs ih =>
      cases t.step done x with
      | up hup =>
          subst hup
          rw [walk_up] at h ⊢
          exact ih h
      | tooLong hup hlong =>
          rwa [walk_tooLong hup hlong] at h ⊢
      | folder hup hlong hfolder =>
          rw [walk_folder hup hlong hfolder] at h
          rw [walk_folder hup hlong (by rw [hsame, hfolder])]
          exact ih h
      | leaf hup hlong hfolder =>
          -- a part that is no folder is a file or nothing, and neither is a fault
          cases xs with
          | nil =>
              rw [walk_last hup hlong hfolder] at h
              cases hfind : t.find? (x :: done).reverse with
              | none =>
                  rw [hfind] at h
                  cases h
              | some f =>
                  rw [hfind] at h
                  cases h
          | cons y ys =>
              rcases walk_inner hup hlong hfolder y ys with hw | hw
              · rw [hw] at h
                cases h
              · rw [hw] at h
                cases h

/-- Whether a look at a path meets a fault depends on the folders only. -/
theorem open?_error_of_isFolder_eq
    {t u : Tree} {p : Path} {fault : FileFault}
    (hsame : ∀ key, u.isFolder key = t.isFolder key)
    (h : t.open? p = .error fault) :
    u.open? p = .error fault := by
  rw [open?_eq_content?, probe] at h ⊢
  exact content?_walk_error hsame h

/-! ## Making folders -/

/-- A folder that is there need not be made. -/
theorem addPath_of_folder
    {t : Tree} {before : List String}
    (h : t.walk [] before.reverse = .folder) :
    t.addPath before = (t, none) := by
  cases before with
  | nil =>
      rfl
  | cons part before =>
      have hbefore : t.walk [] before.reverse = .folder := by
        rw [List.reverse_cons] at h
        exact folder_of_walk_append (Or.inl h)
      have hadd : t.addFolder (part :: before) = .error .occupied := by
        simp only [addFolder, hbefore, h]
      simp only [addPath, hadd, settle, h]

theorem makeFolders_of_folder
    {t : Tree} {p : Path}
    (h : t.walk [] p.parts = .folder) :
    t.makeFolders p = (t, none) := by
  rw [makeFolders]
  exact addPath_of_folder (by simpa using h)

theorem isFolder_addFolders_of_isFolder
    {t : Tree} {key : List String}
    (h : t.isFolder key = true)
    (keys : List (List String)) :
    (t.addFolders keys).isFolder key = true := by
  simp only [isFolder, addFolders, Bool.or_eq_true, List.contains_iff_mem] at h ⊢
  rcases h with h | h
  · exact Or.inl h
  · exact Or.inr (List.mem_append_left _ h)

theorem isFolder_addFolders_self
    (t : Tree) (key : List String) :
    (t.addFolders [key]).isFolder key = true := by
  by_cases h : key ∈ t.folders
  · simp [isFolder, addFolders, h]
  · simp [isFolder, addFolders, h]

/-- A folder that was added is there. -/
theorem folder_of_addFolder
    {t made : Tree} {part : String} {before : List String}
    (h : t.addFolder (part :: before) = .ok made) :
    made.walk [] (part :: before).reverse = .folder := by
  cases hb : t.walk [] before.reverse <;> simp only [addFolder, hb, reduceCtorEq] at h
  cases hw : t.walk [] (part :: before).reverse <;> simp only [hw, reduceCtorEq] at h
  obtain rfl := Except.ok.inj h
  rw [List.reverse_cons] at hw ⊢
  rw [walk_append hb] at hw
  have hmade :
      (t.addFolders [({ parts := before.reverse ++ [part] } : Path).key]).walk [] before.reverse
        = .folder :=
    walk_eq_folder_mono (fun key hkey => isFolder_addFolders_of_isFolder hkey _) hb
  rw [walk_append hmade]
  -- the part was missing, so it is a name that can be given and no folder yet
  cases t.step (Path.climb [] before.reverse) part with
  | up hup =>
      simp [hup, walk_up, walk_nil] at hw
  | tooLong hup hlong =>
      simp [walk_tooLong hup hlong] at hw
  | folder hup hlong hfolder =>
      simp [walk_folder hup hlong hfolder, walk_nil] at hw
  | leaf hup hlong hfolder =>
      have hkey :
          ({ parts := before.reverse ++ [part] } : Path).key =
            (part :: Path.climb [] before.reverse).reverse := by
        rw [Path.key, Path.collapseOnto_eq_climb, Path.climb_append]
        simp [Path.climb, hup]
      rw [hkey]
      rw [walk_folder hup hlong (isFolder_addFolders_self t _), walk_nil]

/-- Where settling finds no fault there is a folder. -/
theorem folder_of_settle
    {t made : Tree} {part : String} {before : List String} {r : Except FileFault Tree}
    (hadded : ∀ u, r = .ok u → u.walk [] (part :: before).reverse = .folder)
    (h : t.settle (part :: before) r = (made, none)) :
    made.walk [] (part :: before).reverse = .folder := by
  cases r with
  | ok u =>
      obtain ⟨rfl, -⟩ := Prod.mk.inj h
      exact hadded u rfl
  | error fault =>
      cases hw : t.walk [] (part :: before).reverse <;>
        simp only [settle, hw, Prod.mk.injEq, reduceCtorEq, and_false, and_true] at h
      subst h
      exact hw

/-- A folder that could be made is there. -/
theorem folder_of_addPath
    {t made : Tree} {before : List String}
    (h : t.addPath before = (made, none)) :
    made.walk [] before.reverse = .folder := by
  induction before generalizing made with
  | nil =>
      exact walk_nil
  | cons part before ih =>
      unfold addPath at h
      split at h
      · cases hp : t.addPath before with
        | mk u fault =>
            cases fault with
            | none =>
                simp only [hp] at h
                exact folder_of_settle (fun v hv => folder_of_addFolder hv) h
            | some fault =>
                simp [hp] at h
      · exact folder_of_settle (fun v hv => folder_of_addFolder hv) h

/-- Where settling finds a fault there is no folder. -/
theorem not_folder_of_settle
    {t made : Tree} {parts : List String} {fault : FileFault} {r : Except FileFault Tree}
    (h : t.settle parts r = (made, some fault)) :
    made.walk [] parts.reverse ≠ .folder := by
  cases r with
  | ok u =>
      cases (Prod.mk.inj h).2
  | error fault' =>
      intro hmade
      cases hw : t.walk [] parts.reverse <;>
        simp only [settle, hw, Prod.mk.injEq, reduceCtorEq, and_false, Option.some.injEq] at h
      all_goals
        rw [← h.1, hw] at hmade
        cases hmade

/-- A folder that could not be made is not there. -/
theorem not_folder_of_addPath
    {t made : Tree} {before : List String} {fault : FileFault}
    (h : t.addPath before = (made, some fault)) :
    made.walk [] before.reverse ≠ .folder := by
  induction before generalizing made fault with
  | nil =>
      cases (Prod.mk.inj h).2
  | cons part before ih =>
      unfold addPath at h
      split at h
      · cases hp : t.addPath before with
        | mk u before? =>
            cases before? with
            | none =>
                simp only [hp] at h
                exact not_folder_of_settle h
            | some fault' =>
                simp only [hp, Prod.mk.injEq] at h
                obtain ⟨rfl, -⟩ := h
                intro hfolder
                rw [List.reverse_cons] at hfolder
                exact ih hp (folder_of_walk_append (Or.inl hfolder))
      · exact not_folder_of_settle h

theorem not_folder_of_makeFolders
    {t made : Tree} {p : Path} {fault : FileFault}
    (h : t.makeFolders p = (made, some fault)) :
    made.walk [] p.parts ≠ .folder := by
  simpa using not_folder_of_addPath h

theorem folder_of_makeFolders
    {t made : Tree} {p : Path}
    (h : t.makeFolders p = (made, none)) :
    made.walk [] p.parts = .folder := by
  simpa using folder_of_addPath h

theorem files_of_addFolder
    {t made : Tree} {before : List String}
    (h : t.addFolder before = .ok made) :
    made.files = t.files := by
  cases before with
  | nil =>
      cases h
  | cons part before =>
      simp only [addFolder] at h
      split at h
      all_goals try cases h
      split at h
      all_goals cases h
      rfl

theorem files_settle
    {t : Tree} {r : Except FileFault Tree}
    (hadded : ∀ u, r = .ok u → u.files = t.files)
    (parts : List String) :
    (t.settle parts r).1.files = t.files := by
  unfold settle
  split
  · exact hadded _ rfl
  · split <;> rfl

/-- Making folders leaves all files as they are. -/
theorem files_addPath
    (t : Tree) (before : List String) :
    (t.addPath before).1.files = t.files := by
  induction before with
  | nil =>
      rfl
  | cons part before ih =>
      unfold addPath
      split
      · cases hp : t.addPath before with
        | mk u fault =>
            rw [hp] at ih
            cases fault with
            | none =>
                exact (files_settle (fun v hv => files_of_addFolder hv) _).trans ih
            | some fault =>
                exact ih
      · exact files_settle (fun v hv => files_of_addFolder hv) _

theorem find?_makeFolders
    (t : Tree) (p : Path) (key : List String) :
    (t.makeFolders p).1.find? key = t.find? key := by
  rw [find?, find?, makeFolders, files_addPath]

end Tree
end NamespaceManifest
