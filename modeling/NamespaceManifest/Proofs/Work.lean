import NamespaceManifest.Work
import NamespaceManifest.Proofs.File.Tree

/-!
# Laws of work

Work is followed through its outcome and the workspace that it leaves (`Work.Ends`); its log records
matter only as far as they reach a journal.  Work that is put together ends where its parts end, one
after the other.

A workspace holds something at a path (`Workspace.Holds`) when the path can be looked at and the journal
keeps another file.  Log records do not touch what a workspace holds.

What a piece of work may change is said by a relation of workspaces that goes on from step to step
(`Work.Keeps`): it may leave log records only (`Work.Quiet`), or spare the file under a key
(`Work.Spares`).
-/

namespace NamespaceManifest

namespace Workspace

/-- The journal, if there is one, keeps another file than the one at a path.  Builds open no journal:
there is one only where whoever starts the build has asked for it. -/
def LogsApart (s : Workspace) (p : Path) : Prop :=
  ∀ j ∈ s.journal, j.path.key ≠ p.key

/-- What a workspace has at a path that its journal leaves alone. -/
structure Holds (s : Workspace) (p : Path) (content : Option File) : Prop where
  opened : s.tree.open? p = .ok content
  apart : s.LogsApart p

theorem Holds.content_eq
    {s : Workspace} {p : Path} {c d : Option File}
    (hc : s.Holds p c)
    (hd : s.Holds p d) :
    c = d := by
  have h := hc.opened.symm.trans hd.opened
  exact Except.ok.inj h

/-- A log record keeps the journal at its path. -/
theorem LogsApart.record
    {s : Workspace} {p : Path}
    (h : s.LogsApart p)
    (r : LogRecord) :
    (s.record r).LogsApart p := by
  unfold Workspace.record
  split
  · exact h
  · rename_i j hj
    split
    · intro k hk
      obtain rfl := Option.mem_some.mp hk
      exact h j (by simp [hj])
    · exact h

theorem open?_record
    {s : Workspace} {p : Path}
    (h : s.LogsApart p)
    (r : LogRecord) :
    (s.record r).tree.open? p = s.tree.open? p := by
  unfold Workspace.record
  split
  · rfl
  · rename_i j hj
    split
    · have hne : p.key ≠ j.path.key := (h j (by simp [hj])).symm
      exact Tree.open?_put_of_ne hne s.tree _
    · rfl

theorem isFolder_record
    (s : Workspace)
    (r : LogRecord)
    (key : List String) :
    (s.record r).tree.isFolder key = s.tree.isFolder key := by
  unfold Workspace.record
  split
  · rfl
  · split <;> rfl

theorem LogsApart.recordAll
    {s : Workspace} {p : Path}
    (h : s.LogsApart p)
    (log : List LogRecord) :
    (s.recordAll log).LogsApart p := by
  induction log generalizing s with
  | nil =>
      exact h
  | cons r log ih =>
      exact ih (h.record r)

theorem open?_recordAll
    {s : Workspace} {p : Path}
    (h : s.LogsApart p)
    (log : List LogRecord) :
    (s.recordAll log).tree.open? p = s.tree.open? p := by
  induction log generalizing s with
  | nil =>
      rfl
  | cons r log ih =>
      exact (ih (h.record r)).trans (open?_record h r)

theorem isFolder_recordAll
    (s : Workspace)
    (log : List LogRecord)
    (key : List String) :
    (s.recordAll log).tree.isFolder key = s.tree.isFolder key := by
  induction log generalizing s with
  | nil =>
      rfl
  | cons r log ih =>
      exact (ih (s.record r)).trans (isFolder_record s r key)

/-- One workspace is another one after some log records. -/
def Logged (s u : Workspace) : Prop :=
  ∃ log, u = s.recordAll log

theorem Logged.refl
    (s : Workspace) :
    s.Logged s := by
  exact ⟨[], rfl⟩

theorem Logged.trans
    {s u v : Workspace}
    (h₁ : s.Logged u)
    (h₂ : u.Logged v) :
    s.Logged v := by
  obtain ⟨log, rfl⟩ := h₁
  obtain ⟨more, rfl⟩ := h₂
  exact ⟨log ++ more, by simp [recordAll]⟩

theorem Logged.open?_eq
    {s u : Workspace} {p : Path}
    (hlog : s.Logged u)
    (hlogs : s.LogsApart p) :
    u.tree.open? p = s.tree.open? p := by
  obtain ⟨log, rfl⟩ := hlog
  exact open?_recordAll hlogs log

/-- Log records leave what is at a path as it is. -/
theorem Logged.holds
    {s u : Workspace} {p : Path} {c : Option File}
    (hlog : s.Logged u)
    (h : s.Holds p c) :
    u.Holds p c := by
  obtain ⟨log, rfl⟩ := hlog
  refine ⟨?_, h.apart.recordAll log⟩
  rw [open?_recordAll h.apart, h.opened]

/-- What is at a path after log records was there before. -/
theorem Logged.holds_of_holds
    {s u : Workspace} {p : Path} {c : Option File}
    (hlog : s.Logged u)
    (hlogs : s.LogsApart p)
    (h : u.Holds p c) :
    s.Holds p c := by
  obtain ⟨log, rfl⟩ := hlog
  refine ⟨?_, hlogs⟩
  rw [← open?_recordAll hlogs log, h.opened]

theorem Logged.logsApart
    {s u : Workspace} {p : Path}
    (hlog : s.Logged u)
    (hlogs : s.LogsApart p) :
    u.LogsApart p := by
  obtain ⟨log, rfl⟩ := hlog
  exact hlogs.recordAll log

theorem Logged.isFolder_eq
    {s u : Workspace}
    (hlog : s.Logged u)
    (key : List String) :
    u.tree.isFolder key = s.tree.isFolder key := by
  obtain ⟨log, rfl⟩ := hlog
  exact isFolder_recordAll s log key

theorem Logged.walk_folder
    {s u : Workspace} {parts : List String}
    (hlog : s.Logged u)
    (h : s.tree.walk [] parts = .folder) :
    u.tree.walk [] parts = .folder := by
  refine Tree.walk_eq_folder_mono ?_ h
  intro key hkey
  rw [hlog.isFolder_eq, hkey]

theorem Logged.seat
    {s u : Workspace} {p : Path}
    (hlog : s.Logged u)
    (h : s.tree.Seat p) :
    u.tree.Seat p := by
  exact h.of_isFolder_eq hlog.isFolder_eq

/-- A path can be looked at after log records just if it could be before, also if they went there. -/
theorem Logged.exists_open?_iff
    {s u : Workspace} {p : Path}
    (hlog : s.Logged u) :
    (∃ c, u.tree.open? p = .ok c) ↔ ∃ c, s.tree.open? p = .ok c := by
  constructor
  · rintro ⟨c, hc⟩
    cases hs : s.tree.open? p with
    | ok d =>
        exact ⟨d, rfl⟩
    | error fault =>
        rw [Tree.open?_error_of_isFolder_eq hlog.isFolder_eq hs] at hc
        cases hc
  · rintro ⟨c, hc⟩
    cases hu : u.tree.open? p with
    | ok d =>
        exact ⟨d, rfl⟩
    | error fault =>
        rw [Tree.open?_error_of_isFolder_eq (fun key => (hlog.isFolder_eq key).symm) hu] at hc
        cases hc

/-- Without a journal log records leave no trace. -/
theorem Logged.eq_of_journal_eq_none
    {s u : Workspace}
    (hlog : s.Logged u)
    (hjournal : s.journal = none) :
    u = s := by
  obtain ⟨log, rfl⟩ := hlog
  induction log with
  | nil =>
      rfl
  | cons r log ih =>
      have hsilent : s.record r = s := by
        simp [record, hjournal]
      rw [recordAll, List.foldl_cons, hsilent]
      exact ih

/-- A journal that has lost its file still keeps none at other paths. -/
theorem LogsApart.release
    {s : Workspace} {p : Path}
    (h : s.LogsApart p)
    (q : Path) :
    (s.release q).LogsApart p := by
  intro j hj
  exact h j (Option.mem_filter_iff.mp hj).1

/-- A journal that has lost its file keeps none there. -/
theorem logsApart_release_self
    (s : Workspace)
    (p : Path) :
    (s.release p).LogsApart p := by
  intro j hj
  simpa using (Option.mem_filter_iff.mp hj).2

end Workspace

namespace Work

variable {α β : Type}

/-- Work on a workspace ends with an outcome and leaves another workspace. -/
def Ends (x : Work α) (s : Workspace) (r : Except Error α) (u : Workspace) : Prop :=
  (x s).outcome = r ∧ (x s).workspace = u

variable {x : Work α} {f : α → Work β} {s u v : Workspace}

theorem bind_assoc
    {γ : Type}
    (x : Work α) (f : α → Work β) (g : β → Work γ) :
    (x >>= f) >>= g = x >>= fun a => f a >>= g := by
  funext s
  show andThen (andThen x f) g s = andThen x (fun a => andThen (f a) g) s
  unfold andThen
  cases hx : (x s).outcome with
  | error e =>
      simp
  | ok a =>
      cases hf : (f a (x s).workspace).outcome with
      | error e =>
          simp [hf]
      | ok b =>
          simp [hf]

theorem ends_self
    (x : Work α)
    (s : Workspace) :
    Ends x s (x s).outcome (x s).workspace := by
  exact ⟨rfl, rfl⟩

theorem Ends.bind
    {a : α} {r : Except Error β}
    (hx : Ends x s (.ok a) u)
    (hf : Ends (f a) u r v) :
    Ends (x >>= f) s r v := by
  obtain ⟨hxo, rfl⟩ := hx
  obtain ⟨rfl, rfl⟩ := hf
  show (andThen x f s).outcome = _ ∧ (andThen x f s).workspace = _
  simp [andThen, hxo]

theorem Ends.bind_error
    {e : Error}
    (hx : Ends x s (.error e) u) :
    Ends (x >>= f) s (.error e) u := by
  obtain ⟨hxo, rfl⟩ := hx
  show (andThen x f s).outcome = _ ∧ (andThen x f s).workspace = _
  simp [andThen, hxo]

/-- Work that succeeds has parts that succeed. -/
theorem Ends.of_bind
    {b : β}
    (h : Ends (x >>= f) s (.ok b) v) :
    ∃ a u, Ends x s (.ok a) u ∧ Ends (f a) u (.ok b) v := by
  cases hx : (x s).outcome with
  | ok a =>
      have hxs : Ends x s (.ok a) (x s).workspace := ⟨hx, rfl⟩
      have hall := hxs.bind (ends_self (f a) (x s).workspace)
      refine ⟨a, (x s).workspace, hxs, ?_, ?_⟩
      · exact hall.1.symm.trans h.1
      · exact hall.2.symm.trans h.2
  | error e =>
      have hxs : Ends x s (.error e) (x s).workspace := ⟨hx, rfl⟩
      have hall := (hxs.bind_error (f := f)).1.symm.trans h.1
      cases hall

/-- Work that fails has a part that fails, after parts that succeed. -/
theorem Ends.of_bind_error
    {e : Error}
    (h : Ends (x >>= f) s (.error e) v) :
    Ends x s (.error e) v ∨ ∃ a u, Ends x s (.ok a) u ∧ Ends (f a) u (.error e) v := by
  cases hx : (x s).outcome with
  | ok a =>
      have hxs : Ends x s (.ok a) (x s).workspace := ⟨hx, rfl⟩
      have hall := hxs.bind (ends_self (f a) (x s).workspace)
      refine Or.inr ⟨a, (x s).workspace, hxs, ?_, ?_⟩
      · exact hall.1.symm.trans h.1
      · exact hall.2.symm.trans h.2
  | error e' =>
      have hxs : Ends x s (.error e') (x s).workspace := ⟨hx, rfl⟩
      have hall := hxs.bind_error (f := f)
      obtain rfl := Except.error.inj (hall.1.symm.trans h.1)
      exact Or.inl ⟨hx, hall.2.symm.trans h.2⟩

/-- Work ends in one way only. -/
theorem Ends.unique
    {r r' : Except Error α}
    (h : Ends x s r u)
    (h' : Ends x s r' v) :
    r = r' ∧ u = v := by
  exact ⟨h.1.symm.trans h'.1, h.2.symm.trans h'.2⟩

theorem ends_pure
    (a : α)
    (s : Workspace) :
    Ends (pure a) s (.ok a) s := by
  exact ⟨rfl, rfl⟩

theorem Ends.of_pure
    {a b : α}
    (h : Ends (pure a) s (.ok b) u) :
    a = b ∧ s = u := by
  exact ⟨Except.ok.inj h.1, h.2⟩

theorem ends_fail
    (e : Error)
    (s : Workspace) :
    Ends (fail e : Work α) s (.error e) s := by
  exact ⟨rfl, rfl⟩

theorem ends_ofExcept
    {x r : Except Error α}
    (h : x = r)
    (s : Workspace) :
    Ends (ofExcept x) s r s := by
  subst h
  cases x <;> exact ⟨rfl, rfl⟩

theorem Ends.of_ofExcept
    {x r : Except Error α}
    (h : Ends (ofExcept x) s r u) :
    x = r ∧ s = u := by
  have hx := ends_ofExcept (rfl : x = x) s
  exact ⟨hx.1.symm.trans h.1, hx.2.symm.trans h.2⟩

theorem ends_records
    (log : List LogRecord)
    (s : Workspace) :
    ∃ u, Ends (records log) s (.ok ()) u ∧ s.Logged u := by
  exact ⟨_, ⟨rfl, rfl⟩, _, rfl⟩

/-- A note leaves a log record and nothing else. -/
theorem ends_note
    (level : Level) (channel : Channel) (message : String)
    (s : Workspace) :
    ∃ u, Ends (note level channel message) s (.ok ()) u ∧ s.Logged u := by
  exact ⟨_, ⟨rfl, rfl⟩, _, rfl⟩

theorem Ends.of_note
    {level : Level} {channel : Channel} {message : String} {r : Except Error Unit}
    (h : Ends (note level channel message) s r u) :
    s.Logged u := by
  exact ⟨_, h.2.symm⟩

theorem ends_open?
    {p : Path} {c : Option File}
    (h : s.tree.open? p = .ok c) :
    Ends (Work.open? p) s (.ok c) s := by
  refine ⟨?_, rfl⟩
  show Error.atPath p (s.tree.open? p) = .ok c
  rw [h]
  rfl

theorem ends_open?_error
    {p : Path} {fault : FileFault}
    (h : s.tree.open? p = .error fault) :
    Ends (Work.open? p) s (.error (.fileSystem p fault)) s := by
  refine ⟨?_, rfl⟩
  show Error.atPath p (s.tree.open? p) = .error (.fileSystem p fault)
  rw [h]
  rfl

/-- A look that succeeds leaves the workspace as it is. -/
theorem Ends.of_open?
    {p : Path} {c : Option File}
    (h : Ends (Work.open? p) s (.ok c) u) :
    s.tree.open? p = .ok c ∧ s = u := by
  refine ⟨?_, h.2⟩
  have ho : Error.atPath p (s.tree.open? p) = .ok c := h.1
  cases hp : s.tree.open? p with
  | ok d =>
      rw [hp] at ho
      exact congrArg Except.ok (Except.ok.inj ho)
  | error fault =>
      rw [hp] at ho
      cases ho

/-- A look that fails leaves the workspace as it is. -/
theorem Ends.of_open?_error
    {p : Path} {e : Error}
    (h : Ends (Work.open? p) s (.error e) u) :
    (∃ fault, s.tree.open? p = .error fault ∧ e = .fileSystem p fault) ∧ s = u := by
  refine ⟨?_, h.2⟩
  have ho : Error.atPath p (s.tree.open? p) = .error e := h.1
  cases hp : s.tree.open? p with
  | ok c =>
      rw [hp] at ho
      cases ho
  | error fault =>
      rw [hp] at ho
      exact ⟨fault, rfl, (Except.error.inj ho).symm⟩

/-! ## What work may change -/

/-- A relation of workspaces that holds after log records and from one change to the next. -/
structure Lasting (R : Workspace → Workspace → Prop) : Prop where
  logged : ∀ {s u : Workspace}, s.Logged u → R s u
  trans : ∀ {s u v : Workspace}, R s u → R u v → R s v

/-- Work leaves a workspace that stands in a relation to the one it found, however it ends. -/
def Keeps (R : Workspace → Workspace → Prop) (x : Work α) : Prop :=
  ∀ s : Workspace, R s (x s).workspace

theorem Keeps.bind
    {R : Workspace → Workspace → Prop}
    (hR : Lasting R)
    (hx : Keeps R x)
    (hf : ∀ a, Keeps R (f a)) :
    Keeps R (x >>= f) := by
  intro s
  cases hend : (x s).outcome with
  | error e =>
      have hxs : Ends x s (.error e) (x s).workspace := ⟨hend, rfl⟩
      rw [(hxs.bind_error (f := f)).2]
      exact hx s
  | ok a =>
      have hxs : Ends x s (.ok a) (x s).workspace := ⟨hend, rfl⟩
      rw [(hxs.bind (ends_self (f a) _)).2]
      exact hR.trans (hx s) (hf a _)

/-- Work that leaves log records only, however it ends. -/
def Quiet (x : Work α) : Prop :=
  ∀ s : Workspace, s.Logged (x s).workspace

theorem lasting_logged :
    Lasting Workspace.Logged := by
  exact ⟨id, Workspace.Logged.trans⟩

theorem Quiet.keeps
    {R : Workspace → Workspace → Prop}
    (hR : Lasting R)
    (hx : Quiet x) :
    Keeps R x := by
  intro s
  exact hR.logged (hx s)

theorem Quiet.logged
    {r : Except Error α}
    (hx : Quiet x)
    (h : Ends x s r u) :
    s.Logged u := by
  rw [← h.2]
  exact hx s

theorem Quiet.bind
    (hx : Quiet x)
    (hf : ∀ a, Quiet (f a)) :
    Quiet (x >>= f) := by
  exact Keeps.bind lasting_logged hx hf

theorem quiet_pure
    (a : α) :
    Quiet (pure a : Work α) := by
  intro s
  exact Workspace.Logged.refl s

theorem quiet_fail
    (e : Error) :
    Quiet (fail e : Work α) := by
  intro s
  exact Workspace.Logged.refl s

theorem quiet_ofExcept
    (x : Except Error α) :
    Quiet (ofExcept x) := by
  cases x with
  | ok a =>
      exact quiet_pure a
  | error e =>
      exact quiet_fail e

theorem quiet_inspect
    (look : Tree → Except Error α) :
    Quiet (inspect look) := by
  intro s
  exact Workspace.Logged.refl s

theorem quiet_records
    (log : List LogRecord) :
    Quiet (records log) := by
  intro s
  exact ⟨log, rfl⟩

theorem quiet_open?
    (p : Path) :
    Quiet (Work.open? p) := by
  exact quiet_inspect _

/-! ## Work that spares a file -/

/-- The file under a key is as it was, unless the journal keeps it, and no journal has come to do so. -/
def Spares (key : List String) (s u : Workspace) : Prop :=
  (∀ j ∈ s.journal, j.path.key ≠ key) →
    u.tree.find? key = s.tree.find? key ∧ ∀ j ∈ u.journal, j.path.key ≠ key

variable {key : List String}

theorem Spares.trans
    (h₁ : Spares key s u)
    (h₂ : Spares key u v) :
    Spares key s v := by
  intro hjournal
  obtain ⟨hfile, hjournal⟩ := h₁ hjournal
  obtain ⟨hfile', hjournal⟩ := h₂ hjournal
  exact ⟨hfile'.trans hfile, hjournal⟩

theorem spares_record
    (s : Workspace)
    (r : LogRecord) :
    Spares key s (s.record r) := by
  intro hjournal
  unfold Workspace.record
  split
  · exact ⟨rfl, hjournal⟩
  · rename_i j hj
    split
    · have hne : key ≠ j.path.key := (hjournal j (by simp [hj])).symm
      refine ⟨Tree.find?_put_of_ne hne s.tree _, ?_⟩
      rintro k ⟨⟩
      exact hne.symm
    · exact ⟨rfl, hjournal⟩

theorem lasting_spares :
    Lasting (Spares key) := by
  refine ⟨?_, Spares.trans⟩
  rintro s u ⟨log, rfl⟩
  induction log generalizing s with
  | nil =>
      exact fun hjournal => ⟨rfl, hjournal⟩
  | cons r log ih =>
      exact (spares_record s r).trans ih

theorem spares_makeFolders
    (p : Path) :
    Keeps (Spares key) (Work.makeFolders p) := by
  intro s hjournal
  exact ⟨Tree.find?_makeFolders s.tree p key, hjournal⟩

/-- Only the file at its own path is replaced. -/
theorem spares_replaceFile
    {p : Path}
    (hne : key ≠ p.key)
    (f : File) :
    Keeps (Spares key) (Work.replaceFile p f) := by
  intro s hjournal
  refine ⟨Tree.find?_put_of_ne hne s.tree f, ?_⟩
  intro j hj
  exact hjournal j (Option.mem_filter_iff.mp hj).1

end Work
end NamespaceManifest
