import Mathlib.Data.List.Basic

/-!
Contract: reading unsigned decimal numerals of a bounded type from text.

Owns:
- splitting at the first delimiter;
- the numeral reader of `str::parse`: an optional plus sign, then digits, with
  overflow checked at every digit;
- reading back what printing produced;
- exactly which texts are split and which are read, and as what.

Does not own: printing, which is Lean's `Nat.toDigits`.
-/

namespace RustGameserver.Foundation.Decimal

/-- `str::split_once`. -/
def splitOnce (delimiter : Char) : List Char → Option (List Char × List Char)
  | [] => none
  | letter :: rest =>
      if letter = delimiter then some ([], rest)
      else (splitOnce delimiter rest).map fun (before, after) => (letter :: before, after)

theorem splitOnce_append (delimiter : Char) {before : List Char} (absent : delimiter ∉ before)
    (after : List Char) :
    splitOnce delimiter (before ++ delimiter :: after) = some (before, after) := by
  induction before with
  | nil => simp [splitOnce]
  | cons letter rest inductionHypothesis =>
      rw [List.mem_cons, not_or] at absent
      simp [splitOnce, Ne.symm absent.1, inductionHypothesis absent.2]

/-- A text is split into what stands before its first delimiter and the rest. -/
theorem splitOnce_eq_some_iff (delimiter : Char) (letters before after : List Char) :
    splitOnce delimiter letters = some (before, after) ↔
      delimiter ∉ before ∧ letters = before ++ delimiter :: after := by
  constructor
  · intro split
    induction letters generalizing before with
    | nil => simp [splitOnce] at split
    | cons letter rest inductionHypothesis =>
        unfold splitOnce at split
        by_cases here : letter = delimiter
        · rw [if_pos here, Option.some.injEq, Prod.mk.injEq] at split
          rw [← split.1, ← split.2, here]
          simp
        · rw [if_neg here, Option.map_eq_some_iff] at split
          obtain ⟨⟨front, back⟩, tail, joined⟩ := split
          rw [Prod.mk.injEq] at joined
          rw [← joined.1]
          rw [joined.2] at tail
          have found := inductionHypothesis front tail
          refine ⟨?_, by rw [found.2]; rfl⟩
          rw [List.mem_cons, not_or]
          exact ⟨Ne.symm here, found.1⟩
  · rintro ⟨absent, rfl⟩
    exact splitOnce_append delimiter absent after

/-- Append digits to the value read so far, as long as it stays below `limit`. -/
def accumulate (limit : Nat) (value : Nat) : List Char → Option Nat
  | [] => some value
  | digit :: rest =>
      if digit.isDigit then
        let next := 10 * value + (digit.toNat - '0'.toNat)
        if next < limit then accumulate limit next rest else none
      else none

/-- `str::parse` into an unsigned type of `limit` values. -/
def parse (limit : Nat) : List Char → Option Nat
  | [] => none
  | letter :: rest =>
      if letter = '+' then
        if rest = [] then none else accumulate limit 0 rest
      else accumulate limit 0 (letter :: rest)

theorem le_ofDigitChars (digits : List Char) (value : Nat) :
    value ≤ Nat.ofDigitChars 10 digits value := by
  induction digits generalizing value with
  | nil => simp
  | cons digit rest inductionHypothesis =>
      rw [Nat.ofDigitChars_cons]
      have larger := inductionHypothesis (10 * value + (digit.toNat - '0'.toNat))
      omega

theorem accumulate_ofDigitChars {limit : Nat} {digits : List Char}
    (numeral : ∀ digit ∈ digits, digit.isDigit = true) {value : Nat}
    (small : Nat.ofDigitChars 10 digits value < limit) :
    accumulate limit value digits = some (Nat.ofDigitChars 10 digits value) := by
  induction digits generalizing value with
  | nil => simp [accumulate]
  | cons digit rest inductionHypothesis =>
      rw [List.forall_mem_cons] at numeral
      rw [Nat.ofDigitChars_cons] at small
      have next : 10 * value + (digit.toNat - '0'.toNat) < limit :=
        Nat.lt_of_le_of_lt (le_ofDigitChars rest _) small
      simp only [accumulate, numeral.1, if_true, next]
      rw [Nat.ofDigitChars_cons]
      exact inductionHypothesis numeral.2 small

/-- Digits are read exactly when they are digits and their value fits, which it
does all along when it does at the end. -/
theorem accumulate_eq_some_iff {limit : Nat} {digits : List Char} {value number : Nat}
    (small : value < limit) :
    accumulate limit value digits = some number ↔
      (∀ digit ∈ digits, digit.isDigit = true) ∧
        Nat.ofDigitChars 10 digits value = number ∧ number < limit := by
  constructor
  · intro read
    induction digits generalizing value with
    | nil =>
        rw [accumulate, Option.some.injEq] at read
        rw [← read]
        simp [small]
    | cons digit rest inductionHypothesis =>
        unfold accumulate at read
        by_cases numeral : digit.isDigit = true
        · rw [if_pos numeral] at read
          by_cases next : 10 * value + (digit.toNat - '0'.toNat) < limit
          · rw [if_pos next] at read
            have tail := inductionHypothesis next read
            rw [List.forall_mem_cons, Nat.ofDigitChars_cons]
            exact ⟨⟨numeral, tail.1⟩, tail.2⟩
          · rw [if_neg next] at read
            contradiction
        · rw [if_neg numeral] at read
          contradiction
  · rintro ⟨numeral, rfl, fits⟩
    exact accumulate_ofDigitChars numeral fits

/-- `letters` denote `number`: one or more decimal digits, leading zeros allowed,
with or without a plus sign. -/
def Numeral (letters : List Char) (number : Nat) : Prop :=
  ∃ digits, digits ≠ [] ∧ (letters = digits ∨ letters = '+' :: digits) ∧
    (∀ digit ∈ digits, digit.isDigit = true) ∧ Nat.ofDigitChars 10 digits 0 = number

theorem numeral_signed (rest : List Char) (number : Nat) :
    Numeral ('+' :: rest) number ↔
      rest ≠ [] ∧ (∀ digit ∈ rest, digit.isDigit = true) ∧
        Nat.ofDigitChars 10 rest 0 = number := by
  constructor
  · rintro ⟨digits, nonempty, spelled, numeral, value⟩
    rcases spelled with unsigned | signed
    · have sign := numeral '+' (by simp [← unsigned])
      contradiction
    · rw [List.cons.injEq] at signed
      rw [signed.2]
      exact ⟨nonempty, numeral, value⟩
  · rintro ⟨nonempty, numeral, value⟩
    exact ⟨rest, nonempty, Or.inr rfl, numeral, value⟩

theorem numeral_unsigned {first : Char} (unsigned : first ≠ '+') (rest : List Char)
    (number : Nat) :
    Numeral (first :: rest) number ↔
      (∀ digit ∈ first :: rest, digit.isDigit = true) ∧
        Nat.ofDigitChars 10 (first :: rest) 0 = number := by
  constructor
  · rintro ⟨digits, nonempty, spelled, numeral, value⟩
    rcases spelled with plain | signed
    · rw [plain]
      exact ⟨numeral, value⟩
    · rw [List.cons.injEq] at signed
      exact absurd signed.1 unsigned
  · rintro ⟨numeral, value⟩
    exact ⟨first :: rest, by simp, Or.inl rfl, numeral, value⟩

/-- The reader accepts the numerals of the numbers of its type, and nothing else. -/
theorem parse_eq_some_iff {limit : Nat} (letters : List Char) (number : Nat)
    (inhabited : 0 < limit) :
    parse limit letters = some number ↔ Numeral letters number ∧ number < limit := by
  cases letters with
  | nil => simp [parse, Numeral]
  | cons first rest =>
      by_cases plus : first = '+'
      · subst plus
        rw [numeral_signed]
        by_cases bare : rest = []
        · simp [parse, bare]
        · simp only [parse, if_true, if_neg bare, accumulate_eq_some_iff inhabited]
          simp [bare, and_assoc]
      · rw [numeral_unsigned plus]
        simp only [parse, if_neg plus, accumulate_eq_some_iff inhabited, and_assoc]

/-- A printed number of the type is read back. -/
theorem parse_toDigits {limit number : Nat} (small : number < limit) :
    parse limit (Nat.toDigits 10 number) = some number := by
  have numeral : ∀ digit ∈ Nat.toDigits 10 number, digit.isDigit = true :=
    fun digit member => Nat.isDigit_of_mem_toDigits (by decide) (by decide) member
  have value : Nat.ofDigitChars 10 (Nat.toDigits 10 number) 0 = number :=
    Nat.ofDigitChars_ten_toDigits
  have read : accumulate limit 0 (Nat.toDigits 10 number) = some number := by
    rw [accumulate_ofDigitChars numeral (by rw [value]; exact small), value]
  cases shape : Nat.toDigits 10 number with
  | nil => exact absurd shape Nat.toDigits_ne_nil
  | cons first rest =>
      rw [shape] at numeral read
      have digit := numeral first (by simp)
      have unsigned : first ≠ '+' := by
        intro plus
        rw [plus] at digit
        contradiction
      simp only [parse, unsigned, if_false]
      exact read

end RustGameserver.Foundation.Decimal
