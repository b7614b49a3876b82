import NamespaceManifest.Directive.Kind
import NamespaceManifest.Tag.Shape
import NamespaceManifest.Proofs.Text.Words

/-!
# Shapes of directive tags

The table of shapes and the directive kinds name the same tags: every kind has a shape, and no other tag
has one (`ofTag?_eq_map_shape`).  So a directive tag that went through the table has a value that fits
the shape of its kind (`fits_of_shapeTag`), with as many words as its resolution relies on.

A value says all that the table keeps of a raw text: written out as one text it goes through the table as it is,
and padding around a raw text makes no difference (`shapeTag_canonical`).
-/

namespace NamespaceManifest

open Directive

namespace Directive
namespace Kind

/-- The shape of the tags of a kind. -/
def shape : Kind → Shape
  | imports | useDynLib | exportClass | exportMethod | exportPattern => .words 1 none
  | importFrom | importClassesFrom | importMethodsFrom => .words 2 none
  | exportS3Method => .words 0 (some 2)
  | exports => .line
  | rawNamespace | evalNamespace => .code

/-- A tag is of the kind that it names. -/
theorem tag_of_ofTag?
    {name : String} {kind : Kind}
    (h : ofTag? name = some kind) :
    kind.tag = name := by
  simpa using List.find?_some h

/-- A tag is of no kind that it does not name. -/
theorem ne_of_ofTag?
    {name : String} {kind other : Kind}
    (h : ofTag? name = some kind)
    (hname : name ≠ other.tag) :
    kind ≠ other := by
  rintro rfl
  exact hname (tag_of_ofTag? h).symm

@[simp] theorem ofTag?_tag
    (kind : Kind) :
    ofTag? kind.tag = some kind := by
  cases kind <;> decide

end Kind
end Directive

namespace Shape

/-- The tags of the table are the tags of the kinds. -/
theorem ofTag?_eq_map_shape
    (name : String) :
    ofTag? name = (Kind.ofTag? name).map Kind.shape := by
  cases hkind : Kind.ofTag? name with
  | some kind =>
      obtain rfl := Kind.tag_of_ofTag? hkind
      cases kind <;> decide
  | none =>
      have hnone : ∀ kind ∈ Kind.all, kind.tag ≠ name := by
        simpa [Kind.ofTag?] using hkind
      have htable : ∀ entry ∈ table, ∃ kind ∈ Kind.all, kind.tag = entry.1 := by
        decide
      rw [Option.map_none, ofTag?, List.lookup_eq_none_iff]
      intro entry hentry
      obtain ⟨kind, hmem, htag⟩ := htable entry hentry
      have hne : entry.1 ≠ name := htag ▸ hnone kind hmem
      simpa using hne.symm

/-- What a shape makes of a raw text that fits it. -/
def Reads : Shape → String → TagValue → Prop
  | code, raw, value => Text.isBlankText raw = false ∧ value = .code (Text.trim raw)
  | line, raw, value => '\n' ∉ (Text.trim raw).toList ∧ value = .words (Text.words raw)
  | words least most, raw, value =>
      least ≤ (Text.words raw).length ∧ exceeds (Text.words raw).length most = false ∧
        value = .words (Text.words raw)

theorem read_eq_ok_iff
    {shape : Shape} {tag raw : String} {value : TagValue} :
    shape.read tag raw = .ok value ↔ shape.Reads raw value := by
  cases shape with
  | code =>
      cases hblank : Text.isBlankText raw <;> simp [read, Reads, hblank, eq_comm]
  | line =>
      by_cases hfeed : '\n' ∈ (Text.trim raw).toList <;> simp [read, Reads, hfeed, eq_comm]
  | words least most =>
      by_cases hfew : ((Text.words raw).length : Int) < least
      · simp [read, Reads, hfew, Int.not_le.mpr hfew]
      · cases hmany : exceeds (Text.words raw).length most <;>
          simp [read, Reads, hfew, Int.not_lt.mp hfew, hmany, eq_comm]

/-- A value that a shape can yield. -/
def Fits : Shape → TagValue → Prop
  | code, .code source => Text.EndsInText source
  | line, .words items => ∀ w ∈ items, Text.IsWord w
  | words least most, .words items =>
      least ≤ items.length ∧ exceeds items.length most = false ∧ ∀ w ∈ items, Text.IsWord w
  | _, _ => False

theorem fits_of_read
    {shape : Shape} {tag raw : String} {value : TagValue}
    (h : shape.read tag raw = .ok value) :
    shape.Fits value := by
  rw [read_eq_ok_iff] at h
  cases shape with
  | code =>
      obtain ⟨hblank, rfl⟩ := h
      exact Text.endsInText_trim hblank
  | line =>
      obtain ⟨-, rfl⟩ := h
      exact fun w hw => Text.isWord_of_mem_words hw
  | words least most =>
      obtain ⟨hleast, hmost, rfl⟩ := h
      exact ⟨hleast, hmost, fun w hw => Text.isWord_of_mem_words hw⟩

/-- The numbers of words that a shape allows. -/
def Allows : Shape → Nat → Prop
  | code, _ => False
  | line, _ => True
  | words least most, count => least ≤ count ∧ ∀ m ∈ most, (count : Int) ≤ m

theorem allows_of_fits
    {shape : Shape} {items : List String}
    (h : shape.Fits (.words items)) :
    shape.Allows items.length ∧ ∀ w ∈ items, Text.IsWord w := by
  cases shape with
  | code =>
      cases h
  | line =>
      exact ⟨trivial, h⟩
  | words least most =>
      obtain ⟨hleast, hmost, hwords⟩ := h
      refine ⟨⟨hleast, ?_⟩, hwords⟩
      rintro m rfl
      simpa [exceeds] using hmost

/-- Padding changes neither the value of a tag nor the error. -/
theorem read_padded
    {left right : String}
    (hl : Text.isBlankText left = true)
    (hr : Text.isBlankText right = true)
    (shape : Shape) (tag raw : String) :
    shape.read tag (left ++ raw ++ right) = shape.read tag raw := by
  cases shape with
  | code =>
      simp only [read, Text.isBlankText_padded hl hr, Text.trim_padded hl hr]
  | line =>
      simp only [read, Text.trim_padded hl hr, Text.words_padded hl hr]
  | words least most =>
      simp only [read, Text.words_padded hl hr]

/-- A value that is written out has the same shape and is read again. -/
theorem read_toText
    {shape : Shape} {tag raw : String} {value : TagValue}
    (h : shape.read tag raw = .ok value) :
    shape.read tag value.toText = .ok value := by
  have hitems : ∀ w ∈ Text.words raw, Text.IsWord w :=
    fun w hw => Text.isWord_of_mem_words hw
  have hwords := Text.words_intercalate hitems
  rw [read_eq_ok_iff] at h ⊢
  cases shape with
  | code =>
      obtain ⟨hblank, rfl⟩ := h
      exact ⟨by rw [TagValue.toText, Text.isBlankText_trim, hblank], by rw [TagValue.toText, Text.trim_trim]⟩
  | line =>
      obtain ⟨-, rfl⟩ := h
      refine ⟨fun hfeed => ?_, by rw [TagValue.toText, hwords]⟩
      exact absurd (Text.unbroken_trim (Text.unbroken_intercalate hitems) _ hfeed) (by decide)
  | words least most =>
      obtain ⟨hleast, hmost, rfl⟩ := h
      rw [Reads, TagValue.toText, hwords]
      exact ⟨hleast, hmost, rfl⟩

end Shape

/-- A directive tag that went through the table fits the shape of its kind. -/
theorem fits_of_shapeTag
    {name raw : String} {kind : Kind} {value : TagValue}
    (hkind : Kind.ofTag? name = some kind)
    (h : shapeTag name raw = .ok value) :
    kind.shape.Fits value := by
  rw [shapeTag, Shape.ofTag?_eq_map_shape, hkind] at h
  exact Shape.fits_of_read h

/-- A tag of no kind goes through the table as it is. -/
theorem shapeTag_of_ofTag?_eq_none
    {name : String}
    (hkind : Kind.ofTag? name = none)
    (raw : String) :
    shapeTag name raw = .ok (.text (Text.trim raw)) := by
  rw [shapeTag, Shape.ofTag?_eq_map_shape, hkind]
  rfl

/-- A raw text is shaped as if it had no padding, and a value that is written out has the same value.  The words
of a value are words, and there are as many as the table allows. -/
theorem shapeTag_canonical
    (tag raw : String) :
    (∀ left right, Text.isBlankText left = true → Text.isBlankText right = true →
      shapeTag tag (left ++ raw ++ right) = shapeTag tag raw) ∧
    ∀ value, shapeTag tag raw = .ok value →
      shapeTag tag value.toText = .ok value ∧
      ∀ items, value = .words items →
        (∀ w ∈ items, Text.IsWord w) ∧
        ∃ shape, Shape.ofTag? tag = some shape ∧ shape.Allows items.length := by
  unfold shapeTag
  cases Shape.ofTag? tag with
  | none =>
      refine ⟨fun left right hl hr => ?_, ?_⟩
      · simp only [Text.trim_padded hl hr]
      · rintro value ⟨⟩
        refine ⟨?_, by rintro items ⟨⟩⟩
        simp only [TagValue.toText, Text.trim_trim]
  | some shape =>
      refine ⟨fun left right hl hr => Shape.read_padded hl hr shape tag raw, ?_⟩
      intro value hvalue
      refine ⟨Shape.read_toText hvalue, ?_⟩
      rintro items rfl
      obtain ⟨hallows, hwords⟩ := Shape.allows_of_fits (Shape.fits_of_read hvalue)
      exact ⟨hwords, shape, rfl, hallows⟩

theorem shapeTag_canonical_padded_method :
    let raw := "print\u0085\ttibble"
    let value := TagValue.words ["print", "tibble"]
    shapeTag "exportS3Method" ("\u3000\n" ++ raw ++ "\x1f ") = .ok value ∧
    value.toText = "print tibble" ∧
    shapeTag "exportS3Method" "print tibble" = .ok value ∧
    ∃ shape, Shape.ofTag? "exportS3Method" = some shape ∧ shape.Allows 2 := by
  intro raw value
  have hraw : shapeTag "exportS3Method" raw = .ok value := by
    decide +kernel
  have htext : value.toText = "print tibble" := by
    decide
  obtain ⟨hpadded, hshaped⟩ := shapeTag_canonical "exportS3Method" raw
  obtain ⟨hagain, hitems⟩ := hshaped value hraw
  rw [htext] at hagain
  refine ⟨?_, htext, hagain, (hitems _ rfl).2⟩
  rw [hpadded "\u3000\n" "\x1f " (by decide) (by decide), hraw]

end NamespaceManifest
