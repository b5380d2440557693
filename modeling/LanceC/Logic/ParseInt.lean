import Mathlib.Data.Nat.Notation

/-! Decimal texts of integers: parsing into a range, and printing as its inverse. -/

namespace LanceC.Logic

inductive IntErrorKind where
  | empty
  | invalidDigit
  | posOverflow
  | negOverflow
  deriving DecidableEq, Repr

def IntErrorKind.text : IntErrorKind → String
  | empty => "cannot parse integer from empty string"
  | invalidDigit => "invalid digit found in string"
  | posOverflow => "number too large to fit in target type"
  | negOverflow => "number too small to fit in target type"

/-- Digits behind the value read so far; the first digit that leads beyond `limit` ends the parse. -/
def parseDigits (overflow : IntErrorKind) (limit : Nat) : Nat → List Char → Except IntErrorKind Nat
  | value, [] => .ok value
  | value, c :: rest =>
    if c.isDigit then
      if 10 * value + (c.toNat - '0'.toNat) ≤ limit then
        parseDigits overflow limit (10 * value + (c.toNat - '0'.toNat)) rest
      else .error overflow
    else .error .invalidDigit

/-- An unsigned type up to `limit`. -/
def parseUnsigned (limit : Nat) (text : String) : Except IntErrorKind Nat :=
  match text.toList with
  | [] => .error .empty
  | sign :: digits =>
    if digits = [] ∧ (sign = '+' ∨ sign = '-') then .error .invalidDigit
    else if sign = '+' then parseDigits .posOverflow limit 0 digits
    else parseDigits .posOverflow limit 0 (sign :: digits)

/-- A two's complement type from `-limit - 1` to `limit`. -/
def parseSigned (limit : Nat) (text : String) : Except IntErrorKind Int :=
  match text.toList with
  | [] => .error .empty
  | sign :: digits =>
    if digits = [] ∧ (sign = '+' ∨ sign = '-') then .error .invalidDigit
    else if sign = '+' then (parseDigits .posOverflow limit 0 digits).map Int.ofNat
    else if sign = '-' then (parseDigits .negOverflow (limit + 1) 0 digits).map fun value => -(value : Int)
    else (parseDigits .posOverflow limit 0 (sign :: digits)).map Int.ofNat

section Printed

variable {overflow : IntErrorKind} {limit value number : Nat} {digits : List Char}

theorem le_ofDigitChars (value : Nat) (digits : List Char) : value ≤ Nat.ofDigitChars 10 digits value := by
  induction digits generalizing value with
  | nil => exact Nat.le_of_eq (Nat.ofDigitChars_nil).symm
  | cons c rest ih =>
    rw [Nat.ofDigitChars_cons]
    exact Nat.le_trans (by omega) (ih _)

theorem parseDigits_ok (decimal : ∀ c ∈ digits, c.isDigit) (fits : Nat.ofDigitChars 10 digits value ≤ limit) :
    parseDigits overflow limit value digits = .ok (Nat.ofDigitChars 10 digits value) := by
  induction digits generalizing value with
  | nil => rw [parseDigits, Nat.ofDigitChars_nil]
  | cons c rest ih =>
    obtain ⟨digit, others⟩ := List.forall_mem_cons.mp decimal
    rw [Nat.ofDigitChars_cons] at fits ⊢
    rw [parseDigits, if_pos digit, if_pos (Nat.le_trans (le_ofDigitChars _ rest) fits)]
    exact ih others fits

theorem isDigit_of_mem_toDigits : ∀ c ∈ Nat.toDigits 10 number, c.isDigit :=
  fun _ member => Nat.isDigit_of_mem_toDigits (by decide) (by decide) member

theorem parseDigits_toDigits (fits : number ≤ limit) :
    parseDigits overflow limit 0 (Nat.toDigits 10 number) = .ok number := by
  have same : Nat.ofDigitChars 10 (Nat.toDigits 10 number) 0 = number := Nat.ofDigitChars_ten_toDigits
  have parsed := @parseDigits_ok overflow limit 0 _ isDigit_of_mem_toDigits (same.symm ▸ fits)
  rwa [same] at parsed

/-- A printed number begins with a digit, not with a sign. -/
theorem toDigits_eq_cons (number : Nat) :
    ∃ head rest, Nat.toDigits 10 number = head :: rest ∧ head ≠ '+' ∧ head ≠ '-' := by
  cases printed : Nat.toDigits 10 number with
  | nil => exact absurd printed Nat.toDigits_ne_nil
  | cons head rest =>
    have digit := isDigit_of_mem_toDigits head (printed ▸ List.mem_cons_self)
    refine ⟨head, rest, rfl, ?_, ?_⟩
    · rintro rfl
      cases digit
    · rintro rfl
      cases digit

theorem parseUnsigned_repr (fits : number ≤ limit) : parseUnsigned limit number.repr = .ok number := by
  obtain ⟨head, rest, printed, plus, minus⟩ := toDigits_eq_cons number
  have parsed := @parseDigits_toDigits .posOverflow _ _ fits
  rw [printed] at parsed
  simp [parseUnsigned, Nat.toList_repr, printed, plus, minus, parsed]

theorem parseSigned_repr (fits : number ≤ limit) : parseSigned limit number.repr = .ok (number : Int) := by
  obtain ⟨head, rest, printed, plus, minus⟩ := toDigits_eq_cons number
  have parsed := @parseDigits_toDigits .posOverflow _ _ fits
  rw [printed] at parsed
  simp [parseSigned, Nat.toList_repr, printed, plus, minus, parsed, Except.map]

end Printed

end LanceC.Logic
