import NamespaceManifest.Json.Reader
import NamespaceManifest.Proofs.Value
import Mathlib.Data.List.Induction

/-!
# Values of JSON texts

Every value that a JSON text denotes can be written (`isWritable_of_parse`): the reader refuses integers with
more digits than an integer that is written may have, and nothing else keeps a value from having a text.

The three readers of values, items and entries call each other with less fuel, so what each of them keeps
is one statement about a number of steps (`Writes`), and the induction is on that number.
-/

namespace NamespaceManifest

namespace Number

/-- Digits denote less than the power of the base that has one digit more. -/
theorem ofDigits_lt
    {base : Nat} {value : Char → Nat} {digits : List Char}
    (h : ∀ c ∈ digits, value c < base) :
    ofDigits base value digits < Nat.pow base digits.length := by
  induction digits using List.reverseRecOn with
  | nil =>
      exact Nat.one_pos
  | append_singleton digits c ih =>
      have hrest := ih fun d hd => h d (List.mem_append_left _ hd)
      have hlast : value c < base := h c (by simp)
      have hvalue : ofDigits base value (digits ++ [c]) = ofDigits base value digits * base + value c := by
        simp [ofDigits]
      rw [hvalue, List.length_append, List.length_singleton]
      calc ofDigits base value digits * base + value c
          < ofDigits base value digits * base + base := Nat.add_lt_add_left hlast _
        _ = (ofDigits base value digits + 1) * base := (Nat.succ_mul _ _).symm
        _ ≤ Nat.pow base digits.length * base := Nat.mul_le_mul_right base hrest

theorem hexValue_lt
    {c : Char}
    (h : Json.isJsonDigit c = true) :
    hexValue c < 10 := by
  have hdigit : '0' ≤ c ∧ c ≤ '9' := by simpa [Json.isJsonDigit] using h
  have hlow : '0'.toNat ≤ c.toNat := hdigit.1
  have hhigh : c.toNat ≤ '9'.toNat := hdigit.2
  simp only [hexValue, hdigit.1, hdigit.2, decide_true, Bool.and_self, if_true]
  have hzero : '0'.toNat = 48 := rfl
  have hnine : '9'.toNat = 57 := rfl
  omega

end Number

namespace Json

theorem isJsonDigit_of_mem_wholeDigits
    {s : List Char} {c : Char}
    (h : c ∈ wholeDigits s) :
    isJsonDigit c = true := by
  unfold wholeDigits at h
  split at h
  · rw [List.mem_singleton.mp h]
    rfl
  · exact List.all_eq_true.mp List.all_takeWhile c h

/-- The integer that the digits of a number denote can be written if they are not too many. -/
theorem isWritable_ofDecimal
    {s : List Char}
    (h : (wholeDigits s).length ≤ Number.digitLimit)
    (negative : Bool) :
    Number.isWritable
      (if negative then -(Number.ofDecimal (wholeDigits s) : Int)
        else Number.ofDecimal (wholeDigits s)) = true := by
  have hlt : Number.ofDecimal (wholeDigits s) < Nat.pow 10 (wholeDigits s).length :=
    Number.ofDigits_lt fun c hc => Number.hexValue_lt (isJsonDigit_of_mem_wholeDigits hc)
  have hlimit : ∀ limit, (wholeDigits s).length ≤ limit →
      Number.ofDecimal (wholeDigits s) < Nat.pow 10 limit :=
    fun limit hle => Nat.lt_of_lt_of_le hlt (Nat.pow_le_pow_right (by decide) hle)
  have habs : (if negative then -(Number.ofDecimal (wholeDigits s) : Int)
      else Number.ofDecimal (wholeDigits s)).natAbs = Number.ofDecimal (wholeDigits s) := by
    cases negative
    · exact Int.natAbs_natCast _
    · exact (Int.natAbs_neg _).trans (Int.natAbs_natCast _)
  rw [Number.isWritable, habs, decide_eq_true_eq]
  exact hlimit Number.digitLimit h

theorem isWritable_of_readNumber
    {p next : Place} {v : Value}
    (h : readNumber p = .ok (v, next)) :
    v.isWritable = true := by
  simp only [readNumber] at h
  -- the sign only tells where the digits start and which of two integers is meant
  generalize p.startsWith "-" = negative at h
  generalize (if negative = true then p.forward 1 else p) = unsigned at h
  split at h
  · cases h
  · split at h
    · split at h
      · cases h
      · rename_i hlimit
        cases h
        exact isWritable_ofDecimal (by omega) _
    · cases h
      rfl

theorem isWritable_of_constant
    {word : String} {v : Value} {q : String × Value → Bool}
    (h : constants.find? q = some (word, v)) :
    v.isWritable = true := by
  have hall : ∀ entry ∈ constants, entry.2.isWritable = true := by
    simp [constants, Value.isWritable]
  exact hall _ (List.mem_of_find?_eq_some h)

/-- What the readers yield within a number of steps can be written. -/
structure Writes (fuel : Nat) : Prop where
  value : ∀ {room p v next},
    readValue room fuel p = .ok (v, next) → v.isWritable = true
  items : ∀ {room done p v next},
    Value.areWritable done = true →
    readItems room fuel done p = .ok (v, next) → v.isWritable = true
  entries : ∀ {room done p v next},
    Value.areWritableEntries done = true →
    readEntries room fuel done p = .ok (v, next) → v.isWritable = true

theorem writes_zero :
    Writes 0 where
  value h := by
    simp [readValue] at h
  items _ h := by
    simp [readItems] at h
  entries _ h := by
    simp [readEntries] at h

theorem isWritable_of_readValue_succ
    {fuel room : Nat} {p next : Place} {v : Value}
    (ih : Writes fuel)
    (h : readValue room (fuel + 1) p = .ok (v, next)) :
    v.isWritable = true := by
  rw [readValue] at h
  split at h
  · cases h
  · split at h
    · -- a text
      cases hkey : readKey p with
      | error fault =>
          simp [hkey, Except.map] at h
      | ok found =>
          simp only [hkey, Except.map, Except.ok.injEq, Prod.mk.injEq] at h
          rw [← h.1]
          rfl
    · split at h
      · -- a mapping
        simp only at h
        split at h
        · cases h
        · split at h
          · cases h
            rfl
          · exact ih.entries rfl h
      · split at h
        · -- a list
          simp only at h
          split at h
          · cases h
          · split at h
            · cases h
              rfl
            · exact ih.items rfl h
        · split at h
          · rename_i hconstant
            cases h
            exact isWritable_of_constant hconstant
          · exact isWritable_of_readNumber h

theorem isWritable_of_readItems_succ
    {fuel room : Nat} {done : List Value} {p next : Place} {v : Value}
    (ih : Writes fuel)
    (hdone : Value.areWritable done = true)
    (h : readItems room (fuel + 1) done p = .ok (v, next)) :
    v.isWritable = true := by
  rw [readItems] at h
  cases hitem : readValue room fuel p with
  | error fault =>
      simp [hitem, bind, Except.bind] at h
  | ok found =>
      obtain ⟨item, afterItem⟩ := found
      have hnew : Value.areWritable (item :: done) = true := by
        simp [Value.areWritable, ih.value hitem, hdone]
      simp only [hitem, bind, Except.bind] at h
      split at h
      · cases h
        rw [Value.areWritable_iff] at hnew
        rw [Value.isWritable, Value.areWritable_iff]
        intro w hw
        exact hnew w (List.mem_reverse.mp hw)
      · split at h
        · exact ih.items hnew h
        · cases h

theorem isWritable_of_readEntries_succ
    {fuel room : Nat} {done : List (Value × Value)} {p next : Place} {v : Value}
    (ih : Writes fuel)
    (hdone : Value.areWritableEntries done = true)
    (h : readEntries room (fuel + 1) done p = .ok (v, next)) :
    v.isWritable = true := by
  rw [readEntries] at h
  simp only [bind, Except.bind, throw, throwThe, MonadExceptOf.throw, pure, Except.pure] at h
  split at h
  · cases h
  · split at h
    · cases h
    · split at h
      · cases h
      · split at h
        · cases h
        · rename_i key _ _ _ _ hentry
          have hkey : (Value.text key.1).isWritable = true := rfl
          have hnew := Value.areWritableEntries_insert hkey (ih.value hentry) hdone
          split at h
          · cases h
            exact hnew
          · split at h
            · exact ih.entries hnew h
            · cases h

theorem writes
    (fuel : Nat) :
    Writes fuel := by
  induction fuel with
  | zero =>
      exact writes_zero
  | succ fuel ih =>
      exact ⟨isWritable_of_readValue_succ ih, isWritable_of_readItems_succ ih,
        isWritable_of_readEntries_succ ih⟩

/-- Every value that a JSON text denotes can be written. -/
theorem isWritable_of_parse
    {s : String} {v : Value}
    (h : parse s = .ok v) :
    v.isWritable = true := by
  simp only [parse] at h
  split at h
  · cases h
  · rename_i hread
    split at h
    · cases h
      exact (writes _).value hread
    · cases h

end Json
end NamespaceManifest
