import Forwarding.Json.Token
import Forwarding.Proofs.Text.SnakeCase

/-!
# The grammar of tokens

How tokens may be written, told without the automaton that reads them.

* `CharSpelling`, `TextSpelling`: the ways to write a character, and a text, between quotes;
* `NumberSpelling`: a number with its sign, fraction and exponent;
* `TokenSpelling`, `Spells`: one token, and a text of tokens with blanks between them;
* `tokens_of_spells`: a text has the tokens that it spells;
* `Token.word`, `spells_words`: one way to write tokens.
-/

namespace Forwarding.Json

/-! ### Texts between quotes -/

/-- A digit of base sixteen, in either case. -/
def IsHexDigit (value : Nat) (c : Char) : Prop :=
  "0123456789abcdef".toList[value]? = some c ∨ "0123456789ABCDEF".toList[value]? = some c

/-- A code unit of sixteen bits, by its four digits. -/
inductive UnitSpelling : Nat → List Char → Prop
  | digits {a b c d : Nat} {first second third fourth : Char} (ha : IsHexDigit a first)
      (hb : IsHexDigit b second) (hc : IsHexDigit c third) (hd : IsHexDigit d fourth) :
      UnitSpelling (((a * 16 + b) * 16 + c) * 16 + d) [first, second, third, fourth]

/-- The letters that follow a backslash, and what they stand for. -/
def shortEscapes : List (Char × Char) :=
  [('"', '"'), ('\\', '\\'), ('/', '/'), ('b', '\x08'), ('f', '\x0c'), ('n', '\x0a'),
    ('r', '\x0d'), ('t', '\x09')]

/-- The ways to write a character: as it is, by a short escape, by the number of its code unit, or
by those of two code units. -/
inductive CharSpelling : Char → List Char → Prop
  | plain {c : Char} (quote : c ≠ '"') (backslash : c ≠ '\\') (control : 0x20 ≤ c.toNat) :
      CharSpelling c [c]
  | short {letter c : Char} (h : (letter, c) ∈ shortEscapes) : CharSpelling c ['\\', letter]
  | unit {c : Char} {word : List Char} (h : UnitSpelling c.toNat word) :
      CharSpelling c ('\\' :: 'u' :: word)
  | pair {c : Char} {high low : Nat} {first second : List Char} (hhigh : high < 0x400)
      (hlow : low < 0x400) (hc : c.toNat = 0x10000 + high * 0x400 + low)
      (hfirst : UnitSpelling (0xd800 + high) first)
      (hsecond : UnitSpelling (0xdc00 + low) second) :
      CharSpelling c ('\\' :: 'u' :: first ++ '\\' :: 'u' :: second)

/-- The ways to write a text, character by character. -/
inductive TextSpelling : List Char → List Char → Prop
  | nil : TextSpelling [] []
  | cons {c : Char} {text word rest : List Char} (hc : CharSpelling c word)
      (hrest : TextSpelling text rest) : TextSpelling (c :: text) (word ++ rest)

theorem hexValue?_of_isHexDigit {value : Nat} {c : Char} (h : IsHexDigit value c) :
    hexValue? c = some value := by
  have digit : ∀ digits ∈ ["0123456789abcdef", "0123456789ABCDEF"],
      digits.toList.zipIdx.all (fun pair => hexValue? pair.1 == some pair.2) = true := by decide
  have look {digits : String} (hmem : digits ∈ ["0123456789abcdef", "0123456789ABCDEF"])
      (hc : digits.toList[value]? = some c) : hexValue? c = some value := by
    have := List.all_eq_true.1 (digit digits hmem) (c, value)
      (List.mem_zipIdx_iff_getElem?.2 hc)
    simpa using this
  rcases h with h | h
  · exact look (by simp) h
  · exact look (by simp) h

theorem escaped?_of_mem {letter c : Char} (h : (letter, c) ∈ shortEscapes) :
    letter ≠ 'u' ∧ escaped? letter = some c := by
  simp only [shortEscapes, List.mem_cons, List.not_mem_nil, or_false, Prod.mk.injEq] at h
  rcases h with ⟨rfl, rfl⟩ | ⟨rfl, rfl⟩ | ⟨rfl, rfl⟩ | ⟨rfl, rfl⟩ | ⟨rfl, rfl⟩ | ⟨rfl, rfl⟩ |
    ⟨rfl, rfl⟩ | ⟨rfl, rfl⟩ <;> exact ⟨by decide, rfl⟩

theorem tokensFrom_string {part next : StringPart} {text grown : Option (List Char)} {c : Char}
    {rest : List Char} (h : stringStep text c rest part = .more next grown) :
    tokensFrom (.string part text) (c :: rest) = tokensFrom (.string next grown) rest := by
  simp only [tokensFrom, advance, h, List.nil_append]

/-- The digits of an escape lead to what comes of its code unit. -/
theorem tokensFrom_unit {unit : Nat} {word : List Char} (h : UnitSpelling unit word)
    {high : Option Nat} {part : StringPart} {text grown : Option (List Char)}
    (hunit : unitStep text unit high = .more part grown) (rest : List Char) :
    tokensFrom (.string (.escape high) text) ('u' :: word ++ rest) =
      tokensFrom (.string part grown) rest := by
  obtain @⟨a, b, c, d, first, second, third, fourth, ha, hb, hc, hd⟩ := h
  have hlength : ¬ Text.byteLength [first, second, third, fourth] < 4 :=
    Nat.not_lt.2 (Text.length_le_byteLength [first, second, third, fourth])
  simp only [List.cons_append, List.nil_append]
  calc tokensFrom (.string (.escape high) text) ('u' :: first :: second :: third :: fourth :: rest)
    _ = tokensFrom (.string (.hex 4 0 high) text) (first :: second :: third :: fourth :: rest) :=
        tokensFrom_string (by rw [stringStep, if_pos rfl]; exact if_neg hlength)
    _ = tokensFrom (.string (.hex 3 a high) text) (second :: third :: fourth :: rest) :=
        tokensFrom_string (by simp [stringStep, hexValue?_of_isHexDigit ha])
    _ = tokensFrom (.string (.hex 2 (a * 16 + b) high) text) (third :: fourth :: rest) :=
        tokensFrom_string (by simp [stringStep, hexValue?_of_isHexDigit hb])
    _ = tokensFrom (.string (.hex 1 ((a * 16 + b) * 16 + c) high) text) (fourth :: rest) :=
        tokensFrom_string (by simp [stringStep, hexValue?_of_isHexDigit hc])
    _ = tokensFrom (.string part grown) rest :=
        tokensFrom_string (by simpa [stringStep, hexValue?_of_isHexDigit hd] using hunit)

theorem not_isUnit (c : Char) : isHighUnit c.toNat = false ∧ isLowUnit c.toNat = false := by
  have := c.valid
  simp only [UInt32.isValidChar, Nat.isValidChar, Char.toNat_val] at this
  simp only [isHighUnit, isLowUnit, Bool.and_eq_false_iff, decide_eq_false_iff_not]
  omega

theorem tokensFrom_char {c : Char} {word : List Char} (h : CharSpelling c word)
    (text rest : List Char) :
    tokensFrom (.string .plain (some text)) (word ++ rest) =
      tokensFrom (.string .plain (some (c :: text))) rest := by
  cases h with
  | plain quote backslash control =>
    exact tokensFrom_string
      (by rw [stringStep, if_neg quote, if_neg backslash, if_neg (by omega)]; rfl)
  | short h =>
    obtain ⟨hletter, hescaped⟩ := escaped?_of_mem h
    rw [List.cons_append, tokensFrom_string (by rfl)]
    exact tokensFrom_string (by rw [stringStep, if_neg hletter, hescaped]; rfl)
  | unit h =>
    obtain ⟨hhigh, hlow⟩ := not_isUnit c
    rw [List.cons_append, tokensFrom_string (by rfl)]
    exact tokensFrom_unit h (by simp [unitStep, hhigh, hlow, push]) rest
  | @pair _ high low first second hhigh hlow hc hfirst hsecond =>
    have hfirstStep : unitStep (some text) (0xd800 + high) none =
        .more (.half (0xd800 + high)) (some text) := by
      simp [unitStep, isLowUnit, isHighUnit, show ¬ 0xdc00 ≤ 0xd800 + high by omega,
        show 0xd800 + high < 0xdc00 by omega]
    have hsecondStep : unitStep (some text) (0xdc00 + low) (some (0xd800 + high)) =
        .more .plain (some (c :: text)) := by
      simp [unitStep, isLowUnit, show 0xdc00 + low < 0xe000 by omega, push, ← hc]
    rw [List.append_assoc, List.cons_append, tokensFrom_string (by rfl),
      tokensFrom_unit hfirst hfirstStep, List.cons_append, tokensFrom_string (by rfl),
      tokensFrom_unit hsecond hsecondStep]

theorem tokensFrom_text {text word : List Char} (h : TextSpelling text word)
    (before rest : List Char) :
    tokensFrom (.string .plain (some before)) (word ++ '"' :: rest) =
      .string (some (String.ofList (before.reverse ++ text))) :: tokensFrom .between rest := by
  induction h generalizing before with
  | nil => simp [tokensFrom, advance, stringStep]
  | cons hc _ ih => rw [List.append_assoc, tokensFrom_char hc, ih]; simp

/-! ### Numbers -/

/-- Digits, at least one. -/
def IsDigits (text : List Char) : Prop := text ≠ [] ∧ ∀ c ∈ text, c.isDigit = true

/-- The part of a number before the point: no zero leads it. -/
def IsWhole (text : List Char) : Prop := IsDigits text ∧ (text.head? = some '0' → text = ['0'])

/-- The part of a number after its whole digits, if there is one. -/
inductive FractionSpelling : List Char → List Char → Prop
  | absent : FractionSpelling [] []
  | present {digits : List Char} (h : IsDigits digits) : FractionSpelling digits ('.' :: digits)

/-- The exponent of a number, if there is one, by whether it is negative and by its digits. -/
inductive ExponentSpelling : Bool → List Char → List Char → Prop
  | absent : ExponentSpelling false [] []
  | plain {letter : Char} {digits : List Char} (hletter : letter ∈ ['e', 'E'])
      (h : IsDigits digits) : ExponentSpelling false digits (letter :: digits)
  | plus {letter : Char} {digits : List Char} (hletter : letter ∈ ['e', 'E'])
      (h : IsDigits digits) : ExponentSpelling false digits (letter :: '+' :: digits)
  | minus {letter : Char} {digits : List Char} (hletter : letter ∈ ['e', 'E'])
      (h : IsDigits digits) : ExponentSpelling true digits (letter :: '-' :: digits)

/-- The ways to write a number. -/
inductive NumberSpelling (number : Number) : List Char → Prop
  | parts {fraction exponent : List Char} (whole : IsWhole number.whole)
      (hfraction : FractionSpelling number.fraction fraction)
      (hexponent : ExponentSpelling number.exponentNegative number.exponent exponent) :
      NumberSpelling number
        ((if number.negative then ['-'] else []) ++ number.whole ++ fraction ++ exponent)

/-- Whether what follows a number does not go on with it. -/
def EndsNumber (rest : List Char) : Prop :=
  ∀ c ∈ rest.head?, c.isDigit = false ∧ c ∉ ['.', 'e', 'E']

theorem tokensFrom_number {part next : NumberPart} {c : Char} (h : part.next? c = some next)
    (number : Number) (rest : List Char) :
    tokensFrom (.number part number) (c :: rest) =
      tokensFrom (.number next (number.extend c next)) rest := by
  simp only [tokensFrom, advance, h, List.nil_append]

/-- The number with more digits in the part given. -/
def Number.append (number : Number) (digits : List Char) : NumberPart → Number
  | .whole => { number with whole := number.whole ++ digits }
  | .fraction => { number with fraction := number.fraction ++ digits }
  | .exponentDigits => { number with exponent := number.exponent ++ digits }
  | _ => number

/-- The parts of a number that any digits may go on with. -/
def NumberPart.isRun (part : NumberPart) : Prop :=
  part = .whole ∨ part = .fraction ∨ part = .exponentDigits

theorem tokensFrom_run {part : NumberPart} (hpart : part.isRun) {digits : List Char}
    (h : ∀ c ∈ digits, c.isDigit = true) (number : Number) (rest : List Char) :
    tokensFrom (.number part number) (digits ++ rest) =
      tokensFrom (.number part (number.append digits part)) rest := by
  induction digits generalizing number with
  | nil => rcases hpart with rfl | rfl | rfl <;> simp [Number.append]
  | cons c digits ih =>
    obtain ⟨hc, hdigits⟩ := List.forall_mem_cons.1 h
    have stay : part.next? c = some part := by
      rcases hpart with rfl | rfl | rfl <;> simp [NumberPart.next?, hc]
    rw [List.cons_append, tokensFrom_number stay, ih hdigits]
    rcases hpart with rfl | rfl | rfl <;> simp [Number.append, Number.extend]

/-- The digits of a part of a number, the first of which leads to it. -/
theorem tokensFrom_digits {part next : NumberPart} (hnext : next.isRun) {digits : List Char}
    (enter : ∀ c : Char, c.isDigit = true → part.next? c = some next) (h : IsDigits digits)
    (number : Number) (rest : List Char) :
    tokensFrom (.number part number) (digits ++ rest) =
      tokensFrom (.number next (number.append digits next)) rest := by
  obtain ⟨hne, hdigits⟩ := h
  obtain ⟨c, digits, rfl⟩ := List.exists_cons_of_ne_nil hne
  obtain ⟨hc, hdigits⟩ := List.forall_mem_cons.1 hdigits
  rw [List.cons_append, tokensFrom_number (enter c hc), tokensFrom_run hnext hdigits]
  rcases hnext with rfl | rfl | rfl <;> simp [Number.append, Number.extend]

theorem isDigit_ne {c d : Char} (h : c.isDigit = true) (hd : d.isDigit = false) : c ≠ d := by
  rintro rfl
  rw [h] at hd
  cases hd

theorem opening_digit {c : Char} (h : c.isDigit = true) (hzero : c ≠ '0') :
    opening c = ([], .number .whole { whole := [c] }) := by
  have hspace : isSpace c = false := by
    have hne (d : Char) (hd : d.isDigit = false) := isDigit_ne h hd
    simp [isSpace, hne]
  unfold opening
  rw [if_neg (by simp [hspace]), if_neg (isDigit_ne h (by decide)),
    if_neg (isDigit_ne h (by decide)), if_neg hzero, if_pos h]

/-- The sign and the whole digits of a number. -/
theorem tokensFrom_whole {whole : List Char} (h : IsWhole whole) (negative : Bool)
    (rest : List Char) :
    ∃ part, (part = .zero ∨ part = .whole) ∧
      tokensFrom .between ((if negative then ['-'] else []) ++ whole ++ rest) =
        tokensFrom (.number part { negative := negative, whole := whole }) rest := by
  obtain ⟨⟨hne, hdigits⟩, hlead⟩ := h
  obtain ⟨c, digits, rfl⟩ := List.exists_cons_of_ne_nil hne
  obtain ⟨hc, hdigits⟩ := List.forall_mem_cons.1 hdigits
  by_cases hzero : c = '0'
  · subst hzero
    obtain rfl : digits = [] := by simpa using hlead rfl
    exact ⟨.zero, .inl rfl, by cases negative <;> rfl⟩
  · refine ⟨.whole, .inr rfl, ?_⟩
    have hrun := tokensFrom_run (.inl rfl) hdigits
      { negative := negative, whole := [c] } rest
    cases negative with
    | false =>
      simpa [tokensFrom, advance, opening_digit hc hzero, Number.append] using hrun
    | true =>
      have hsign : NumberPart.sign.next? c = some .whole := by
        simp [NumberPart.next?, hzero, hc]
      have hdash : tokensFrom .between ('-' :: c :: digits ++ rest) =
          tokensFrom (.number .sign { negative := true }) (c :: digits ++ rest) := rfl
      simp only [if_true, List.cons_append, List.nil_append] at hdash hrun ⊢
      rw [hdash, tokensFrom_number hsign]
      simpa [Number.extend, Number.append] using hrun

theorem tokensFrom_fraction {fraction word : List Char} (h : FractionSpelling fraction word)
    {part : NumberPart} (hpart : part = .zero ∨ part = .whole) {number : Number}
    (hnone : number.fraction = []) (rest : List Char) :
    ∃ next, (next = .zero ∨ next = .whole ∨ next = .fraction) ∧
      tokensFrom (.number part number) (word ++ rest) =
        tokensFrom (.number next { number with fraction := fraction }) rest := by
  cases h with
  | absent =>
    refine ⟨part, by tauto, ?_⟩
    rw [List.nil_append, ← hnone]
  | present h =>
    refine ⟨.fraction, .inr (.inr rfl), ?_⟩
    have hpoint : part.next? '.' = some .point := by rcases hpart with rfl | rfl <;> rfl
    rw [List.cons_append, tokensFrom_number hpoint,
      tokensFrom_digits (.inr (.inl rfl)) (fun c hc => by simp [NumberPart.next?, hc]) h]
    simp [Number.append, Number.extend, hnone]

theorem tokensFrom_exponent {negative : Bool} {exponent word : List Char}
    (h : ExponentSpelling negative exponent word) {part : NumberPart}
    (hpart : part = .zero ∨ part = .whole ∨ part = .fraction) {number : Number}
    (hsign : number.exponentNegative = false) (hnone : number.exponent = []) (rest : List Char) :
    ∃ next : NumberPart, next.isEnd = true ∧
      tokensFrom (.number part number) (word ++ rest) =
        tokensFrom (.number next
          { number with exponentNegative := negative, exponent := exponent }) rest := by
  have enter {letter : Char} (hletter : letter ∈ ['e', 'E']) :
      part.next? letter = some .exponent := by
    simp only [List.mem_cons, List.not_mem_nil, or_false] at hletter
    rcases hpart with rfl | rfl | rfl <;> rcases hletter with rfl | rfl <;> rfl
  have signed (sign : Char) (hmark : sign = '+' ∨ sign = '-') {digits : List Char}
      (h : IsDigits digits) (number : Number) :
      tokensFrom (.number .exponent number) (sign :: digits ++ rest) =
        tokensFrom (.number .exponentDigits
          { number with exponentNegative := sign == '-', exponent := number.exponent ++ digits })
          rest := by
    have hsign : NumberPart.exponent.next? sign = some .exponentSign := if_pos hmark
    have hdigit (c : Char) (hc : c.isDigit = true) :
        NumberPart.exponentSign.next? c = some .exponentDigits := if_pos hc
    rw [List.cons_append, tokensFrom_number hsign,
      tokensFrom_digits (.inr (.inr rfl)) hdigit h]
    rfl
  cases h with
  | absent =>
    refine ⟨part, by rcases hpart with rfl | rfl | rfl <;> rfl, ?_⟩
    rw [List.nil_append, ← hsign, ← hnone]
  | plain hletter h =>
    refine ⟨.exponentDigits, rfl, ?_⟩
    have first (c : Char) (hc : c.isDigit = true) :
        NumberPart.exponent.next? c = some .exponentDigits := by
      have hne (d : Char) (hd : d.isDigit = false) := isDigit_ne hc hd
      simp [NumberPart.next?, hc, hne]
    rw [List.cons_append, tokensFrom_number (enter hletter),
      tokensFrom_digits (.inr (.inr rfl)) first h]
    simp [Number.append, Number.extend, hnone, hsign]
  | plus hletter h =>
    refine ⟨.exponentDigits, rfl, ?_⟩
    rw [List.cons_append, tokensFrom_number (enter hletter), signed '+' (.inl rfl) h]
    simp [Number.extend, hnone]
  | minus hletter h =>
    refine ⟨.exponentDigits, rfl, ?_⟩
    rw [List.cons_append, tokensFrom_number (enter hletter), signed '-' (.inr rfl) h]
    simp [Number.extend, hnone]

theorem tokensFrom_endsNumber {part : NumberPart} (hpart : part.isEnd = true) {rest : List Char}
    (h : EndsNumber rest) (number : Number) :
    tokensFrom (.number part number) rest = .number number :: tokensFrom .between rest := by
  cases rest with
  | nil => simp [tokensFrom, Mode.finish, hpart]
  | cons c rest =>
    obtain ⟨hdigit, hc⟩ := h c rfl
    simp only [List.mem_cons, List.not_mem_nil, or_false, not_or] at hc
    have hnext : part.next? c = none := by
      cases part <;> simp [NumberPart.isEnd] at hpart <;> simp [NumberPart.next?, hdigit, hc]
    simp [tokensFrom, advance, hnext, hpart, hdigit]

theorem tokensFrom_numberSpelling {number : Number} {word : List Char}
    (h : NumberSpelling number word) {rest : List Char} (hrest : EndsNumber rest) :
    tokensFrom .between (word ++ rest) = .number number :: tokensFrom .between rest := by
  obtain @⟨fraction, exponent, whole, hfraction, hexponent⟩ := h
  -- the number as it stands after its sign and whole digits, and after its fraction
  let started : Number := { negative := number.negative, whole := number.whole }
  let pointed : Number := { started with fraction := number.fraction }
  obtain ⟨part, hpart, hstarted⟩ :=
    tokensFrom_whole whole number.negative (fraction ++ (exponent ++ rest))
  obtain ⟨next, hnext, hpointed⟩ :=
    tokensFrom_fraction hfraction hpart (rfl : started.fraction = []) (exponent ++ rest)
  obtain ⟨last, hlast, hdone⟩ := tokensFrom_exponent hexponent hnext
    (rfl : pointed.exponentNegative = false) (rfl : pointed.exponent = []) rest
  have hnumber := tokensFrom_endsNumber hlast hrest number
  simp only [List.append_assoc] at hstarted ⊢
  exact hstarted.trans (hpointed.trans (hdone.trans hnumber))

/-! ### Tokens -/

/-- The ways to write a token. -/
inductive TokenSpelling : Token → List Char → Prop
  | openObject : TokenSpelling .openObject ['\x7b']
  | closeObject : TokenSpelling .closeObject ['\x7d']
  | openArray : TokenSpelling .openArray ['[']
  | closeArray : TokenSpelling .closeArray [']']
  | comma : TokenSpelling .comma [',']
  | colon : TokenSpelling .colon [':']
  | null : TokenSpelling .null "null".toList
  | true : TokenSpelling (.bool true) "true".toList
  | false : TokenSpelling (.bool false) "false".toList
  | number {number : Number} {word : List Char} (h : NumberSpelling number word) :
      TokenSpelling (.number number) word
  | string {text : String} {word : List Char} (h : TextSpelling text.toList word) :
      TokenSpelling (.string (some text)) ('"' :: word ++ ['"'])

/-- A text of tokens, with any blanks between them.  A number is as long as it can be. -/
inductive Spells : List Token → List Char → Prop
  | nil : Spells [] []
  | blank {c : Char} {tokens : List Token} {text : List Char} (hc : c ∈ [' ', '\t', '\n', '\r'])
      (h : Spells tokens text) : Spells tokens (c :: text)
  | token {token : Token} {word : List Char} {tokens : List Token} {text : List Char}
      (hword : TokenSpelling token word)
      (hends : ∀ number, token = .number number → EndsNumber text) (h : Spells tokens text) :
      Spells (token :: tokens) (word ++ text)

theorem tokensFrom_token {token : Token} {word : List Char} (h : TokenSpelling token word)
    {rest : List Char} (hends : ∀ number, token = .number number → EndsNumber rest) :
    tokensFrom .between (word ++ rest) = token :: tokensFrom .between rest := by
  cases h with
  | number h => exact tokensFrom_numberSpelling h (hends _ rfl)
  | @string text word h =>
    have hopen : tokensFrom .between ('"' :: word ++ ['"'] ++ rest) =
        tokensFrom (.string .plain (some [])) (word ++ '"' :: rest) := by
      rw [List.append_assoc]
      rfl
    rw [hopen, tokensFrom_text h, List.reverse_nil, List.nil_append, String.ofList_toList]
  | _ => rfl

/-- A text has the tokens that it spells, and no others. -/
theorem tokens_of_spells {tokens : List Token} {text : List Char} (h : Spells tokens text) :
    Json.tokens text = tokens := by
  induction h with
  | nil => rfl
  | blank hc _ ih =>
    simp only [List.mem_cons, List.not_mem_nil, or_false] at hc
    rcases hc with rfl | rfl | rfl | rfl <;> exact ih
  | token hword hends _ ih => exact (tokensFrom_token hword hends).trans (congrArg _ ih)

/-! ### Writing tokens -/

/-- A digit of base sixteen. -/
def hexDigit (value : Nat) : Char := ("0123456789abcdef".toList[value]?).getD '0'

/-- A way to write a character between quotes. -/
def charWord (c : Char) : List Char :=
  if c = '"' ∨ c = '\\' then ['\\', c]
  else if c.toNat < 0x20 then
    ['\\', 'u', '0', '0', hexDigit (c.toNat / 16), hexDigit (c.toNat % 16)]
  else [c]

/-- A way to write a token that is whole and no number. -/
def Token.word : Token → List Char
  | .openObject => ['\x7b']
  | .closeObject => ['\x7d']
  | .openArray => ['[']
  | .closeArray => [']']
  | .comma => [',']
  | .colon => [':']
  | .null => "null".toList
  | .bool true => "true".toList
  | .bool false => "false".toList
  | .string (some text) => '"' :: text.toList.flatMap charWord ++ ['"']
  | .number _ | .string none | .brokenString _ | .broken _ => []

/-- Whether a token is whole and no number. -/
def Token.isWord : Token → Bool
  | .number _ | .string none | .brokenString _ | .broken _ => false
  | _ => true

theorem isHexDigit_hexDigit {value : Nat} (h : value < 16) : IsHexDigit value (hexDigit value) := by
  refine .inl ?_
  have : ∀ value < 16, "0123456789abcdef".toList[value]? = some (hexDigit value) := by decide
  exact this value h

theorem charSpelling_charWord (c : Char) : CharSpelling c (charWord c) := by
  unfold charWord
  split
  · rename_i h
    refine .short ?_
    rcases h with rfl | rfl <;> simp [shortEscapes]
  · rename_i hquote
    rw [not_or] at hquote
    split
    · rename_i hcontrol
      have hunit : c.toNat = ((0 * 16 + 0) * 16 + c.toNat / 16) * 16 + c.toNat % 16 := by omega
      have := UnitSpelling.digits (isHexDigit_hexDigit (Nat.zero_lt_succ 15))
        (isHexDigit_hexDigit (Nat.zero_lt_succ 15))
        (isHexDigit_hexDigit (show c.toNat / 16 < 16 by omega))
        (isHexDigit_hexDigit (show c.toNat % 16 < 16 by omega))
      rw [← hunit] at this
      exact .unit this
    · rename_i hcontrol
      exact .plain hquote.1 hquote.2 (Nat.le_of_not_lt hcontrol)

theorem textSpelling_flatMap (text : List Char) : TextSpelling text (text.flatMap charWord) := by
  induction text with
  | nil => exact .nil
  | cons c text ih => exact .cons (charSpelling_charWord c) ih

theorem tokenSpelling_word {token : Token} (h : token.isWord = true) :
    TokenSpelling token token.word := by
  cases token with
  | bool value => cases value <;> constructor
  | string text =>
    cases text with
    | none => cases h
    | some text => exact .string (textSpelling_flatMap text.toList)
  | number | brokenString | broken => cases h
  | _ => constructor

/-- Tokens of which none is a number are spelled by their words. -/
theorem spells_words {tokens : List Token} (h : ∀ token ∈ tokens, token.isWord = true) :
    Spells tokens (tokens.flatMap Token.word) := by
  induction tokens with
  | nil => exact .nil
  | cons token tokens ih =>
    obtain ⟨hfirst, hrest⟩ := List.forall_mem_cons.1 h
    refine .token (tokenSpelling_word hfirst) (fun number hnumber => ?_) (ih hrest)
    rw [hnumber] at hfirst
    cases hfirst

end Forwarding.Json
