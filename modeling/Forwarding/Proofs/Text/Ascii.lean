import Forwarding.Text.LetterCase
import Mathlib.Data.List.Basic

/-!
# Names in ASCII

* `isWordChar`: the letters, digits and the underscore of ASCII;
* `isNameChar`: these and the dollar sign;
* `isName`: a name of such characters that does not begin with a digit;
* `ascii_forall`: a decidable property of all ASCII characters is settled by trying them;
* `lower_ascii`: lower case in ASCII goes character by character.
-/

namespace Forwarding.Text

/-- A letter, digit or underscore of ASCII. -/
def isWordChar (c : Char) : Bool := c.isAlphanum || c == '_'

/-- A letter, digit, underscore or dollar sign of ASCII. -/
def isNameChar (c : Char) : Bool := isWordChar c || c == '$'

/-- Whether a text is a name of letters, digits, underscores and dollar signs of ASCII that does not
begin with a digit. -/
def isName (name : String) : Bool :=
  match name.toList with
  | [] => false
  | c :: rest => !c.isDigit && (c :: rest).all isNameChar

theorem ascii_forall {p : Char → Prop} (h : ∀ n < 128, p (Char.ofNat n)) {c : Char}
    (hc : c.toNat < 128) : p c := by
  have := h c.toNat hc
  rwa [Char.ofNat_toNat] at this

theorem isNameChar_of_isName {name : String} (h : isName name = true) {c : Char}
    (hc : c ∈ name.toList) : isNameChar c = true := by
  unfold isName at h
  split at h
  · cases h
  · rename_i first rest htext
    rw [Bool.and_eq_true, List.all_eq_true] at h
    exact h.2 c (htext ▸ hc)

theorem isNameChar_of_isWordChar {c : Char} (h : isWordChar c = true) : isNameChar c = true := by
  simp [isNameChar, h]

theorem toNat_lt_of_isNameChar {c : Char} (h : isNameChar c = true) : c.toNat < 128 := by
  simp only [isNameChar, isWordChar, Char.isAlphanum] at h
  delta Char.isAlpha Char.isUpper Char.isLower Char.isDigit at h
  simp only [Bool.or_eq_true, Bool.and_eq_true, decide_eq_true_eq, beq_iff_eq, ge_iff_le,
    UInt32.le_iff_toNat_le, Char.toNat_val] at h
  rcases h with (((⟨-, h⟩ | ⟨-, h⟩) | ⟨-, h⟩) | rfl) | rfl
  · exact Nat.lt_of_le_of_lt h (by decide)
  · exact Nat.lt_of_le_of_lt h (by decide)
  · exact Nat.lt_of_le_of_lt h (by decide)
  · decide
  · decide

theorem toNat_lt_of_isWordChar {c : Char} (h : isWordChar c = true) : c.toNat < 128 :=
  toNat_lt_of_isNameChar (isNameChar_of_isWordChar h)

theorem isNameChar_toLower {c : Char} (h : isNameChar c = true) : isNameChar c.toLower = true :=
  ascii_forall (p := fun c => isNameChar c = true → isNameChar c.toLower = true) (by decide)
    (toNat_lt_of_isNameChar h) h

theorem lowerAfter_ascii (before : List Char) {text : List Char}
    (h : ∀ c ∈ text, c.toNat < 128) : lowerAfter before text = text.map Char.toLower := by
  induction text generalizing before with
  | nil => rfl
  | cons c rest ih =>
    obtain ⟨hc, hrest⟩ := List.forall_mem_cons.1 h
    rw [lowerAfter, if_neg (by omega), lowerChar, if_pos hc, ih _ hrest]
    rfl

theorem lower_ascii {text : List Char} (h : ∀ c ∈ text, c.toNat < 128) :
    lower text = text.map Char.toLower := lowerAfter_ascii [] h

end Forwarding.Text
