import Mathlib.Data.List.TakeDrop

/-! JSON texts as lists of characters: the values they stand for and a parser of
the grammar, with fuel for its nesting. -/

namespace LanceC.Logic

/-- A number keeps its literal; the members of an object keep their order. -/
inductive Json where
  | null
  | bool (value : Bool)
  | number (literal : List Char)
  | string (text : List Char)
  | array (items : List Json)
  | object (members : List (List Char × Json))

namespace Json

def isSpace (c : Char) : Bool := c = ' ' || c = '\t' || c = '\n' || c = '\r'

def skipSpace (text : List Char) : List Char := text.dropWhile isSpace

def hexValue (c : Char) : Option Nat :=
  if '0' ≤ c ∧ c ≤ '9' then some (c.toNat - 48)
  else if 'a' ≤ c ∧ c ≤ 'f' then some (c.toNat - 87)
  else if 'A' ≤ c ∧ c ≤ 'F' then some (c.toNat - 55)
  else none

/-- The given number of hexadecimal digits, behind the value read so far. -/
def parseHex : Nat → Nat → List Char → Option (Nat × List Char)
  | 0, value, text => some (value, text)
  | _ + 1, _, [] => none
  | count + 1, value, c :: text => do parseHex count (value * 16 + (← hexValue c)) text

/-- The code unit behind `\u`, and the low half that a high surrogate must have. -/
def parseUnicode (text : List Char) : Option (Char × List Char) := do
  let (high, text) ← parseHex 4 0 text
  if 0xD800 ≤ high ∧ high < 0xDC00 then
    match text with
    | '\\' :: 'u' :: text => do
      let (low, text) ← parseHex 4 0 text
      if 0xDC00 ≤ low ∧ low < 0xE000 then
        some (Char.ofNat (0x10000 + (high - 0xD800) * 0x400 + (low - 0xDC00)), text)
      else none
    | _ => none
  else if 0xDC00 ≤ high ∧ high < 0xE000 then none
  else some (Char.ofNat high, text)

/-- What stands behind a backslash. -/
def parseEscape : List Char → Option (Char × List Char)
  | '"' :: text => some ('"', text)
  | '\\' :: text => some ('\\', text)
  | '/' :: text => some ('/', text)
  | 'b' :: text => some (Char.ofNat 8, text)
  | 'f' :: text => some (Char.ofNat 12, text)
  | 'n' :: text => some ('\n', text)
  | 'r' :: text => some ('\r', text)
  | 't' :: text => some ('\t', text)
  | 'u' :: text => parseUnicode text
  | _ => none

/-- A string behind its opening quote, up to the closing one. -/
def parseString : Nat → List Char → Option (List Char × List Char)
  | 0, _ | _, [] => none
  | fuel + 1, c :: text =>
    if c = '"' then some ([], text)
    else if c = '\\' then do
      let (first, text) ← parseEscape text
      let (others, text) ← parseString fuel text
      some (first :: others, text)
    else if c.toNat < 0x20 then none
    else do
      let (others, text) ← parseString fuel text
      some (c :: others, text)

def spanDigits (text : List Char) : List Char × List Char := text.span Char.isDigit

/-- At least one digit. -/
def parseDigits (text : List Char) : Option (List Char × List Char) :=
  match spanDigits text with
  | ([], _) => none
  | (digits, text) => some (digits, text)

/-- The integer part has no leading zero. -/
def parseInteger : List Char → Option (List Char × List Char)
  | '0' :: text => some (['0'], text)
  | text => parseDigits text

def parseSign (accepted : List Char) : List Char → List Char × List Char
  | c :: text => if c ∈ accepted then ([c], text) else ([], c :: text)
  | [] => ([], [])

def parseFraction : List Char → Option (List Char × List Char)
  | '.' :: text => do
    let (digits, text) ← parseDigits text
    some ('.' :: digits, text)
  | text => some ([], text)

def parseExponent : List Char → Option (List Char × List Char)
  | [] => some ([], [])
  | c :: text =>
    if c = 'e' ∨ c = 'E' then do
      let (sign, text) := parseSign ['+', '-'] text
      let (digits, text) ← parseDigits text
      some (c :: sign ++ digits, text)
    else some ([], c :: text)

def parseNumber (text : List Char) : Option (List Char × List Char) := do
  let (sign, text) := parseSign ['-'] text
  let (integer, text) ← parseInteger text
  let (fraction, text) ← parseFraction text
  let (exponent, text) ← parseExponent text
  some (sign ++ integer ++ fraction ++ exponent, text)

mutual

def parseValue : Nat → List Char → Option (Json × List Char)
  | 0, _ => none
  | fuel + 1, text =>
    match skipSpace text with
    | '"' :: text => do
      let (value, text) ← parseString (text.length + 1) text
      some (.string value, text)
    | '[' :: text =>
      match skipSpace text with
      | ']' :: text => some (.array [], text)
      | _ => do
        let (items, text) ← parseItems fuel text
        some (.array items, text)
    | '{' :: text =>
      match skipSpace text with
      | '}' :: text => some (.object [], text)
      | _ => do
        let (members, text) ← parseMembers fuel text
        some (.object members, text)
    | 'n' :: 'u' :: 'l' :: 'l' :: text => some (.null, text)
    | 't' :: 'r' :: 'u' :: 'e' :: text => some (.bool true, text)
    | 'f' :: 'a' :: 'l' :: 's' :: 'e' :: text => some (.bool false, text)
    | text => do
      let (literal, text) ← parseNumber text
      some (.number literal, text)

/-- The items of an array behind its bracket or a comma. -/
def parseItems : Nat → List Char → Option (List Json × List Char)
  | 0, _ => none
  | fuel + 1, text => do
    let (first, text) ← parseValue fuel text
    match skipSpace text with
    | ',' :: text => do
      let (others, text) ← parseItems fuel text
      some (first :: others, text)
    | ']' :: text => some ([first], text)
    | _ => none

/-- The members of an object behind its brace or a comma. -/
def parseMembers : Nat → List Char → Option (List (List Char × Json) × List Char)
  | 0, _ => none
  | fuel + 1, text =>
    match skipSpace text with
    | '"' :: text => do
      let (key, text) ← parseString (text.length + 1) text
      match skipSpace text with
      | ':' :: text => do
        let (value, text) ← parseValue fuel text
        match skipSpace text with
        | ',' :: text => do
          let (others, text) ← parseMembers fuel text
          some ((key, value) :: others, text)
        | '}' :: text => some ([(key, value)], text)
        | _ => none
      | _ => none
    | _ => none

end

/-- A whole text. Every level of nesting and every comma costs a character, so the fuel suffices. -/
def parse (text : List Char) : Option Json := do
  let (value, rest) ← parseValue (2 * text.length + 2) text
  if skipSpace rest = [] then some value else none

def asString : Json → Option String
  | .string text => some (String.ofList text)
  | _ => none

def asArray : Json → Option (List Json)
  | .array items => some items
  | _ => none

def asNat : Json → Option Nat
  | .number literal => if literal.all Char.isDigit then some (Nat.ofDigitChars 10 literal 0) else none
  | _ => none

/-- The first member of the name. -/
def member (key : String) : Json → Option Json
  | .object members => members.lookup key.toList
  | _ => none

/-- A character that stands for itself inside a string. -/
def Verbatim (c : Char) : Prop := c ≠ '"' ∧ c ≠ '\\' ∧ 0x20 ≤ c.toNat

instance instDecidableVerbatim (c : Char) : Decidable (Verbatim c) := inferInstanceAs (Decidable (_ ∧ _ ∧ _))

instance instDecidableAllVerbatim (word : List Char) : Decidable (∀ c ∈ word, Verbatim c) :=
  List.decidableBAll Verbatim word

theorem parseString_verbatim {c : Char} (verbatim : Verbatim c) (fuel : Nat) (text : List Char) :
    parseString (fuel + 1) (c :: text) = (parseString fuel text).map fun read => (c :: read.1, read.2) := by
  obtain ⟨quote, backslash, printable⟩ := verbatim
  rw [parseString, if_neg quote, if_neg backslash, if_neg (by omega)]
  cases parseString fuel text <;> rfl

/-- An escape takes one more character, but for the one of a code unit. -/
theorem parseEscape_cases {c d : Char} {text rest : List Char}
    (parsed : parseEscape (d :: text) = some (c, rest)) :
    rest = text ∨ d = 'u' ∧ parseUnicode text = some (c, rest) := by
  unfold parseEscape at parsed
  split at parsed <;> simp_all

theorem parseString_backslash (fuel : Nat) (text : List Char) :
    parseString (fuel + 1) ('\\' :: text) = (parseEscape text).bind fun escaped =>
      (parseString fuel escaped.2).map fun read => (escaped.1 :: read.1, read.2) := by
  rw [parseString, if_neg (by decide), if_pos rfl]
  cases parseEscape text with
  | none => rfl
  | some escaped =>
    simp only [Option.bind_eq_bind, Option.bind_some]
    cases parseString fuel escaped.2 <;> rfl

@[simp] theorem parseString_close (fuel : Nat) (text : List Char) :
    parseString (fuel + 1) ('"' :: text) = some ([], text) := by
  rw [parseString, if_pos rfl]

theorem parseString_append {word : List Char} (verbatim : ∀ c ∈ word, Verbatim c) {fuel : Nat}
    (enough : word.length < fuel) (text : List Char) : parseString fuel (word ++ '"' :: text) = some (word, text) := by
  induction word generalizing fuel with
  | nil =>
    obtain ⟨fuel, rfl⟩ := Nat.exists_eq_add_one_of_ne_zero (Nat.ne_of_gt enough)
    exact parseString_close fuel text
  | cons c word ih =>
    obtain ⟨fuel, rfl⟩ := Nat.exists_eq_add_one_of_ne_zero (Nat.ne_of_gt (Nat.zero_lt_of_lt enough))
    rw [List.forall_mem_cons] at verbatim
    rw [List.cons_append, parseString_verbatim verbatim.1, ih verbatim.2 (by simpa using enough)]
    rfl

/-- Read with any fuel, a verbatim word is read as itself or not at all. -/
theorem parseString_append_inv {word : List Char} (verbatim : ∀ c ∈ word, Verbatim c) {fuel : Nat}
    {text read rest : List Char} (parsed : parseString fuel (word ++ '"' :: text) = some (read, rest)) :
    read = word ∧ rest = text := by
  induction word generalizing fuel read with
  | nil =>
    cases fuel with
    | zero => simp [parseString] at parsed
    | succ fuel => simpa [eq_comm] using parsed
  | cons c word ih =>
    cases fuel with
    | zero => simp [parseString] at parsed
    | succ fuel =>
      rw [List.forall_mem_cons] at verbatim
      rw [List.cons_append, parseString_verbatim verbatim.1, Option.map_eq_some_iff] at parsed
      obtain ⟨⟨tail, left⟩, parsed, same⟩ := parsed
      obtain ⟨rfl, rfl⟩ := Prod.mk.inj same
      obtain ⟨rfl, rfl⟩ := ih verbatim.2 parsed
      exact ⟨rfl, rfl⟩

@[simp] theorem skipSpace_cons {c : Char} (visible : isSpace c = false) (text : List Char) :
    skipSpace (c :: text) = c :: text := by
  simp [skipSpace, visible]

section Values

variable {fuel : Nat} {key text rest : List Char}

theorem parseValue_string (fuel : Nat) (text : List Char) :
    parseValue (fuel + 1) ('"' :: text) =
      (parseString (text.length + 1) text).map fun read => (.string read.1, read.2) := by
  rw [parseValue, skipSpace_cons (by decide)]
  simp only [Option.bind_eq_bind]
  cases parseString (text.length + 1) text <;> rfl

theorem parseValue_array {c : Char} (visible : isSpace c = false) (nonempty : c ≠ ']')
    (fuel : Nat) (text : List Char) :
    parseValue (fuel + 1) ('[' :: c :: text) =
      (parseItems fuel (c :: text)).map fun read => (.array read.1, read.2) := by
  rw [parseValue, skipSpace_cons (by decide)]
  simp only [skipSpace_cons visible]
  split
  · next same => exact absurd (List.cons.inj same).1 nonempty
  · cases parseItems fuel (c :: text) <;> rfl

@[simp] theorem parseValue_emptyArray (fuel : Nat) (text : List Char) :
    parseValue (fuel + 1) ('[' :: ']' :: text) = some (.array [], text) := by
  rw [parseValue, skipSpace_cons (by decide)]
  simp only [skipSpace_cons (show isSpace ']' = false by decide)]

theorem parseValue_object {c : Char} (visible : isSpace c = false) (nonempty : c ≠ '}') (fuel : Nat)
    (text : List Char) :
    parseValue (fuel + 1) ('{' :: c :: text) =
      (parseMembers fuel (c :: text)).map fun read => (.object read.1, read.2) := by
  rw [parseValue, skipSpace_cons (by decide)]
  simp only [skipSpace_cons visible]
  split
  · next same => exact absurd (List.cons.inj same).1 nonempty
  · cases parseMembers fuel (c :: text) <;> rfl

theorem parseValue_string_inv {value : Json} (parsed : parseValue fuel ('"' :: text) = some (value, rest)) :
    ∃ out, value = .string out ∧ parseString (text.length + 1) text = some (out, rest) := by
  cases fuel with
  | zero => simp [parseValue] at parsed
  | succ fuel =>
    rw [parseValue_string, Option.map_eq_some_iff] at parsed
    obtain ⟨⟨out, left⟩, read, same⟩ := parsed
    obtain ⟨rfl, rfl⟩ := Prod.mk.inj same
    exact ⟨out, rfl, read⟩

section Numbers

variable {digits : List Char}

theorem spanDigits_append (all : ∀ c ∈ digits, c.isDigit = true) {c : Char} (stop : c.isDigit = false)
    (rest : List Char) : spanDigits (digits ++ c :: rest) = (digits, c :: rest) := by
  simp only [spanDigits, List.span_eq_takeWhile_dropWhile, Prod.mk.injEq]
  constructor
  · rw [List.takeWhile_append_of_pos all]
    simp [stop]
  · rw [List.dropWhile_append_of_pos all]
    simp [stop]

theorem parseInteger_digits (all : ∀ c ∈ digits, c.isDigit = true) (nonempty : digits ≠ [])
    (leading : digits.head? ≠ some '0' ∨ digits = ['0']) {c : Char} (stop : c.isDigit = false) (rest : List Char) :
    parseInteger (digits ++ c :: rest) = some (digits, c :: rest) := by
  rcases leading with leading | rfl
  · cases digits with
    | nil => exact absurd rfl nonempty
    | cons d digits =>
      have other : d ≠ '0' := fun same => leading (by rw [same]; rfl)
      rw [List.cons_append, parseInteger, parseDigits, ← List.cons_append, spanDigits_append all stop]
      intro text same
      exact other (List.cons.inj same).1
  · rfl

theorem parseNumber_digits (all : ∀ c ∈ digits, c.isDigit = true) (nonempty : digits ≠ [])
    (leading : digits.head? ≠ some '0' ∨ digits = ['0']) (rest : List Char) :
    parseNumber (digits ++ '}' :: rest) = some (digits, '}' :: rest) := by
  have integer := parseInteger_digits all nonempty leading (show '}'.isDigit = false by decide) rest
  have unsigned : parseSign ['-'] (digits ++ '}' :: rest) = ([], digits ++ '}' :: rest) := by
    cases digits with
    | nil => exact absurd rfl nonempty
    | cons d digits =>
      have other : d ∉ ['-'] := by
        rintro same
        rw [List.mem_singleton.mp same] at all
        exact absurd (all '-' List.mem_cons_self) (by decide)
      rw [List.cons_append, parseSign, if_neg other]
  simp [parseNumber, unsigned, integer, parseFraction, parseExponent]

/-- A natural number in front of a brace. -/
theorem parseValue_digits (all : ∀ c ∈ digits, c.isDigit = true) (nonempty : digits ≠ [])
    (leading : digits.head? ≠ some '0' ∨ digits = ['0']) (fuel : Nat) (rest : List Char) :
    parseValue (fuel + 1) (digits ++ '}' :: rest) = some (.number digits, '}' :: rest) := by
  have number := parseNumber_digits all nonempty leading rest
  cases digits with
  | nil => exact absurd rfl nonempty
  | cons d digits =>
    have digit : d.isDigit = true := all d List.mem_cons_self
    have other : ∀ c : Char, c.isDigit = false → d ≠ c := by
      rintro c stop rfl
      exact absurd digit (by simp [stop])
    have visible : isSpace d = false := by
      simp [isSpace, other ' ' (by decide), other '\t' (by decide), other '\n' (by decide), other '\r' (by decide)]
    rw [List.cons_append] at number ⊢
    rw [parseValue, skipSpace_cons visible]
    split
    · next same => exact absurd (List.cons.inj same).1 (other _ (by decide))
    · next same => exact absurd (List.cons.inj same).1 (other _ (by decide))
    · next same => exact absurd (List.cons.inj same).1 (other _ (by decide))
    · next same => exact absurd (List.cons.inj same).1 (other _ (by decide))
    · next same => exact absurd (List.cons.inj same).1 (other _ (by decide))
    · next same => exact absurd (List.cons.inj same).1 (other _ (by decide))
    · rw [number]
      rfl

theorem toDigits_leading (number : Nat) :
    (Nat.toDigits 10 number).head? ≠ some '0' ∨ Nat.toDigits 10 number = ['0'] := by
  induction number using Nat.strongRecOn with
  | ind number ih =>
    by_cases small : number < 10
    · rw [Nat.toDigits_of_lt_base small]
      have digits : ∀ digit < 10, [Nat.digitChar digit].head? ≠ some '0' ∨ [Nat.digitChar digit] = ['0'] := by decide
      exact digits number small
    · have smaller : number / 10 < number := by omega
      rw [Nat.toDigits_of_base_le (by decide) (Nat.le_of_not_lt small)]
      rcases ih _ smaller with leading | zero
      · left
        cases start : Nat.toDigits 10 (number / 10) with
        | nil => exact absurd start Nat.toDigits_ne_nil
        | cons digit digits => simpa [start] using leading
      · have same := congrArg (fun digits => Nat.ofDigitChars 10 digits 0) zero
        simp only [Nat.ofDigitChars_ten_toDigits] at same
        have none : number / 10 = 0 := same
        omega

theorem parseValue_nat (number fuel : Nat) (rest : List Char) :
    parseValue (fuel + 1) (Nat.toDigits 10 number ++ '}' :: rest) =
      some (.number (Nat.toDigits 10 number), '}' :: rest) :=
  parseValue_digits (fun _ member => Nat.isDigit_of_mem_toDigits (by decide) (by decide) member)
    Nat.toDigits_ne_nil (toDigits_leading number) fuel rest

theorem asNat_toDigits (number : Nat) : asNat (.number (Nat.toDigits 10 number)) = some number := by
  have all : (Nat.toDigits 10 number).all Char.isDigit = true :=
    List.all_eq_true.mpr fun _ member => Nat.isDigit_of_mem_toDigits (by decide) (by decide) member
  rw [asNat, if_pos all, Nat.ofDigitChars_ten_toDigits]

end Numbers

/-- The rest of an array behind one of its items. -/
def continueItems (fuel : Nat) (item : Json) (text : List Char) : Option (List Json × List Char) :=
  match skipSpace text with
  | ',' :: text => (parseItems fuel text).map fun read => (item :: read.1, read.2)
  | ']' :: text => some ([item], text)
  | _ => none

/-- The rest of an object behind one of its members. -/
def continueMembers (fuel : Nat) (member : List Char × Json) (text : List Char) :
    Option (List (List Char × Json) × List Char) :=
  match skipSpace text with
  | ',' :: text => (parseMembers fuel text).map fun read => (member :: read.1, read.2)
  | '}' :: text => some ([member], text)
  | _ => none

@[simp] theorem continueItems_comma (item : Json) (text : List Char) :
    continueItems fuel item (',' :: text) = (parseItems fuel text).map fun read => (item :: read.1, read.2) := by
  simp only [continueItems, skipSpace_cons (show isSpace ',' = false by decide)]

@[simp] theorem continueItems_close (item : Json) (text : List Char) :
    continueItems fuel item (']' :: text) = some ([item], text) := by
  simp only [continueItems, skipSpace_cons (show isSpace ']' = false by decide)]

@[simp] theorem continueMembers_comma (member : List Char × Json) (text : List Char) :
    continueMembers fuel member (',' :: text) =
      (parseMembers fuel text).map fun read => (member :: read.1, read.2) := by
  simp only [continueMembers, skipSpace_cons (show isSpace ',' = false by decide)]

@[simp] theorem continueMembers_close (member : List Char × Json) (text : List Char) :
    continueMembers fuel member ('}' :: text) = some ([member], text) := by
  simp only [continueMembers, skipSpace_cons (show isSpace '}' = false by decide)]

theorem continueItems_head {item : Json} {items : List Json} (read : continueItems fuel item text = some (items, rest)) :
    ∃ others, items = item :: others := by
  unfold continueItems at read
  split at read
  · obtain ⟨others, _, same⟩ := Option.map_eq_some_iff.mp read
    exact ⟨others.1, (congrArg Prod.fst same).symm⟩
  · exact ⟨[], (congrArg Prod.fst (Option.some.inj read)).symm⟩
  · exact nomatch read

theorem continueMembers_head {member : List Char × Json} {members : List (List Char × Json)}
    (read : continueMembers fuel member text = some (members, rest)) : ∃ others, members = member :: others := by
  unfold continueMembers at read
  split at read
  · obtain ⟨others, _, same⟩ := Option.map_eq_some_iff.mp read
    exact ⟨others.1, (congrArg Prod.fst same).symm⟩
  · exact ⟨[], (congrArg Prod.fst (Option.some.inj read)).symm⟩
  · exact nomatch read

theorem continueMembers_comma_inv {member : List Char × Json} {others : List (List Char × Json)}
    (read : continueMembers fuel member (',' :: text) = some (member :: others, rest)) :
    parseMembers fuel text = some (others, rest) := by
  rw [continueMembers_comma, Option.map_eq_some_iff] at read
  obtain ⟨⟨members, _⟩, later, same⟩ := read
  obtain ⟨listed, rfl⟩ := Prod.mk.inj same
  obtain rfl := (List.cons.inj listed).2
  exact later

theorem continueItems_comma_inv {item : Json} {others : List Json}
    (read : continueItems fuel item (',' :: text) = some (item :: others, rest)) :
    parseItems fuel text = some (others, rest) := by
  rw [continueItems_comma, Option.map_eq_some_iff] at read
  obtain ⟨⟨items, _⟩, later, same⟩ := read
  obtain ⟨listed, rfl⟩ := Prod.mk.inj same
  obtain rfl := (List.cons.inj listed).2
  exact later

theorem parseItems_succ (fuel : Nat) (text : List Char) :
    parseItems (fuel + 1) text = (parseValue fuel text).bind fun read => continueItems fuel read.1 read.2 := by
  rw [parseItems]
  cases parseValue fuel text with
  | none => rfl
  | some read =>
    simp only [Option.bind_eq_bind, Option.bind_some, continueItems]
    split
    · next text same => cases parseItems fuel text <;> rfl
    · rfl
    · rfl

/-- A member's key as the text has it. -/
def label (key : List Char) (text : List Char) : List Char := '"' :: (key ++ '"' :: ':' :: text)

theorem parseMembers_label (verbatim : ∀ c ∈ key, Verbatim c) (fuel : Nat) (text : List Char) :
    parseMembers (fuel + 1) (label key text) =
      (parseValue fuel text).bind fun read => continueMembers fuel (key, read.1) read.2 := by
  have enough : key.length < (key ++ '"' :: ':' :: text).length + 1 := by
    rw [List.length_append]
    omega
  rw [parseMembers, label, skipSpace_cons (by decide)]
  simp only [parseString_append verbatim enough, Option.bind_eq_bind, Option.bind_some,
    skipSpace_cons (show isSpace ':' = false by decide)]
  cases parseValue fuel text with
  | none => rfl
  | some read =>
    simp only [Option.bind_some, continueMembers]
    split
    · next text same => cases parseMembers fuel text <;> rfl
    · rfl
    · rfl

theorem parseItems_inv {items : List Json} (parsed : parseItems fuel text = some (items, rest)) :
    ∃ left item after, fuel = left + 1 ∧ parseValue left text = some (item, after) ∧
      continueItems left item after = some (items, rest) := by
  cases fuel with
  | zero => simp [parseItems] at parsed
  | succ left =>
    rw [parseItems_succ, Option.bind_eq_some_iff] at parsed
    obtain ⟨⟨item, after⟩, first, continued⟩ := parsed
    exact ⟨left, item, after, rfl, first, continued⟩

theorem parseMembers_inv (verbatim : ∀ c ∈ key, Verbatim c) {members : List (List Char × Json)}
    (parsed : parseMembers fuel (label key text) = some (members, rest)) :
    ∃ left value after, fuel = left + 1 ∧ parseValue left text = some (value, after) ∧
      continueMembers left (key, value) after = some (members, rest) := by
  cases fuel with
  | zero => simp [parseMembers] at parsed
  | succ left =>
    rw [parseMembers_label verbatim, Option.bind_eq_some_iff] at parsed
    obtain ⟨⟨value, after⟩, first, continued⟩ := parsed
    exact ⟨left, value, after, rfl, first, continued⟩

section Items

variable {α : Type} {write : α → List Char → List Char} {value : α → Json} {items : List α}

/-- Items with commas between them, up to the bracket; each is written in front of what follows it. -/
def itemsText (write : α → List Char → List Char) : List α → List Char → List Char
  | [], rest => ']' :: rest
  | [item], rest => write item (']' :: rest)
  | item :: next :: others, rest => write item (',' :: itemsText write (next :: others) rest)

/-- Fuel for a text: two for each character. -/
def Enough (text : List Char) (fuel : Nat) : Prop := 2 * text.length < fuel

/-- What is written for the item is read as its value, whatever follows. -/
structure Reads (write : α → List Char → List Char) (value : α → Json) (item : α) : Prop where
  grows : ∀ rest, rest.length ≤ (write item rest).length
  read : ∀ fuel rest, Enough (write item rest) fuel → parseValue fuel (write item rest) = some (value item, rest)

theorem enough_later {item next : α} {others : List α} {rest : List Char}
    (reads : Reads write value item) {fuel : Nat}
    (enough : Enough (itemsText write (item :: next :: others) rest) fuel) :
    Enough (itemsText write (next :: others) rest) (fuel - 1) := by
  have grows := reads.grows (',' :: itemsText write (next :: others) rest)
  simp only [Enough, itemsText, List.length_cons] at enough grows ⊢
  omega

theorem parseItems_itemsText (reads : ∀ item ∈ items, Reads write value item) (nonempty : items ≠ []) {fuel : Nat}
    (rest : List Char) (enough : Enough (itemsText write items rest) (fuel - 1)) :
    parseItems fuel (itemsText write items rest) = some (items.map value, rest) := by
  induction items generalizing fuel with
  | nil => exact absurd rfl nonempty
  | cons item others ih =>
    obtain ⟨fuel, rfl⟩ : ∃ left, fuel = left + 1 := Nat.exists_eq_add_one_of_ne_zero (by
      unfold Enough at enough
      omega)
    rw [Nat.add_sub_cancel] at enough
    obtain ⟨first, reads⟩ := List.forall_mem_cons.mp reads
    cases others with
    | nil =>
      rw [itemsText, parseItems_succ, first.read fuel _ (by simpa [itemsText] using enough), Option.bind_some,
        continueItems_close]
      rfl
    | cons next others =>
      rw [itemsText, parseItems_succ, first.read fuel _ (by simpa [itemsText] using enough), Option.bind_some,
        continueItems_comma, ih reads (List.cons_ne_nil _ _) (enough_later first enough)]
      rfl

theorem parse_array {c : Char} {text : List Char} (visible : isSpace c = false)
    (nonempty : c ≠ ']') {array : Json} :
    parse ('[' :: c :: text) = some array ↔
      ∃ items rest, parseItems (2 * (c :: text).length + 3) (c :: text) = some (items, rest) ∧
        skipSpace rest = [] ∧ array = .array items := by
  rw [parse, List.length_cons, Nat.mul_add, parseValue_array visible nonempty]
  cases parseItems (2 * (c :: text).length + 3) (c :: text) with
  | none => simp
  | some read =>
    obtain ⟨items, rest⟩ := read
    by_cases clean : skipSpace rest = []
    · have same : (Json.array items = array) ↔ array = .array items := eq_comm
      simpa [clean] using same
    · simp [clean]

end Items

end Values

end Json

end LanceC.Logic
