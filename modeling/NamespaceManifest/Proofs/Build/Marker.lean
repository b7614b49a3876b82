import NamespaceManifest.Proofs.Build.Foreign
import NamespaceManifest.Proofs.Build.Loading

/-!
# Markers from settings

Settings are accepted with any marker that starts like a comment (`Config.Accepted.comment`).  A writer needs
more of its marker: it recognises a file by its first line, and it reads all other lines as the lines of the
entries.

A file of the writer is read back exactly if the marker has no line break (`Writer.readsBack_iff`).  If it has
one, then either the first line is a part of the marker only, or another part is among the lines that are read
(`Writer.single_of_read_back`).  The default marker has none, so it depends on the setting whether the writer
of some settings can read its files (`Build.usable_marker_iff`).
-/

namespace NamespaceManifest

open Work

namespace Writer

/-- The file at a path is read as it was meant: its first line is the whole marker, it belongs to the writer,
and the other lines are those of some entries. -/
structure ReadsBack (w : Writer) (p : Path) (entries : List String) (s : Workspace) : Prop where
  headed : ∃ f, s.tree.open? p = .ok (some f) ∧ firstLine f = w.marker
  generated : (w.isGenerated p s).outcome = .ok true
  body : (w.body? p s).outcome = .ok (some (Text.physicalLines entries))

/-- A file with entries is read as it was meant exactly if its marker is a single line. -/
theorem readsBack_iff
    {w : Writer} {s : Workspace} {p : Path} {old : Option File} {entries : List String} {mode : Nat}
    (hclaims : w.claims w.marker = true)
    (h : s.Holds p (some ⟨w.bytesFor old entries, mode⟩)) :
    ReadsBack w p entries s ↔ Text.isSingleLine w.marker = true := by
  constructor
  · rintro ⟨⟨f, hopen, hfirst⟩, -, hbody⟩
    obtain rfl : ⟨w.bytesFor old entries, mode⟩ = f :=
      Option.some.inj (Except.ok.inj (h.opened.symm.trans hopen))
    rw [(ends_body? h).1, Option.map_some] at hbody
    exact single_of_read_back hfirst (Option.some.inj (Except.ok.inj hbody))
  · intro hmarker
    have hw : w.Marked := ⟨hmarker, hclaims⟩
    refine ⟨⟨_, h.opened, firstLine_written hw old entries mode⟩, ?_, ?_⟩
    · rw [(ends_isGenerated h).1, Option.any_some, owns_written hw]
    · rw [(ends_body? h).1, Option.map_some, bodyOf_written hw]

end Writer

namespace Config

/-- The marker of accepted entries is a single line unless they give one that is not. -/
theorem Accepted.single_iff
    {root : Path} {entries : List (Value × Value)} {config : Config}
    (h : Accepted root entries config) :
    Text.isSingleLine config.marker = true ↔
      ∀ text, setting? entries "marker" = .ok (some text) → Text.isSingleLine text = true := by
  obtain ⟨given, hgiven, hmarker⟩ := h.marker
  rw [hmarker, hgiven]
  cases given with
  | none =>
      exact iff_of_true (by decide) (fun text h => by cases h)
  | some text =>
      simp

end Config

namespace Build

/-- The settings of a marker. -/
def markerSettings (marker : String) : List (Value × Value) :=
  [(.text "marker", .text marker)]

/-- A module with settings and nothing else. -/
def settingsAlone (settings : String) : Workspace :=
  { tree := { files := [([".nsgen.yml"], ⟨settings.toUTF8, 0o644⟩)] } }

end Build
end NamespaceManifest
