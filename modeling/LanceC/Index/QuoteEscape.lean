import LanceC.Logic.Json
import Mathlib.Data.List.Basic

/-! The escaping of names in the index listing, and what a JSON reader makes of it. -/

namespace LanceC.Index

open Logic Json

/-- `name.replace('"', "\\\"")`. -/
def escapeQuotes : List Char → List Char
  | [] => []
  | c :: text => if c = '"' then '\\' :: '"' :: escapeQuotes text else c :: escapeQuotes text

/-- No backslash and no control character; quotes are allowed. -/
def Plain (text : List Char) : Prop := ∀ c ∈ text, c ≠ '\\' ∧ 0x20 ≤ c.toNat

instance instDecidablePlain (text : List Char) : Decidable (Plain text) :=
  List.decidableBAll (fun c => c ≠ '\\' ∧ 0x20 ≤ c.toNat) text

@[simp] theorem plain_nil : Plain [] := by simp [Plain]

@[simp] theorem plain_cons {c : Char} {text : List Char} :
    Plain (c :: text) ↔ (c ≠ '\\' ∧ 0x20 ≤ c.toNat) ∧ Plain text := by
  simp [Plain]

@[simp] theorem escapeQuotes_quote (text : List Char) :
    escapeQuotes ('"' :: text) = '\\' :: '"' :: escapeQuotes text := by
  simp [escapeQuotes]

@[simp] theorem escapeQuotes_other {c : Char} (other : c ≠ '"') (text : List Char) :
    escapeQuotes (c :: text) = c :: escapeQuotes text := by
  simp [escapeQuotes, other]

/-- A plain name is read back. -/
theorem parseString_escapeQuotes {text : List Char} (plain : Plain text) {fuel : Nat} (enough : text.length < fuel)
    (rest : List Char) : parseString fuel (escapeQuotes text ++ '"' :: rest) = some (text, rest) := by
  induction text generalizing fuel with
  | nil =>
    obtain ⟨fuel, rfl⟩ := Nat.exists_eq_add_one_of_ne_zero (Nat.ne_of_gt enough)
    exact parseString_close fuel rest
  | cons c text ih =>
    obtain ⟨fuel, rfl⟩ := Nat.exists_eq_add_one_of_ne_zero (Nat.ne_of_gt (Nat.zero_lt_of_lt enough))
    obtain ⟨⟨backslash, printable⟩, plain⟩ := plain_cons.mp plain
    have read := ih plain (Nat.lt_of_succ_lt_succ enough)
    by_cases quote : c = '"'
    · subst quote
      rw [escapeQuotes_quote, List.cons_append, List.cons_append, parseString_backslash, parseEscape,
        Option.bind_some, read]
      rfl
    · rw [escapeQuotes_other quote, List.cons_append, parseString_verbatim ⟨quote, backslash, printable⟩, read]
      rfl

section Escapes

variable {text tail rest : List Char} {c : Char} {value read : Nat}

/-- The next character of an escaped name is one of the name, or escapes a quote of it. -/
theorem escaped_head {next : List Char} (other : c ≠ '"') (starts : escapeQuotes text ++ '"' :: tail = c :: next) :
    (∃ left, text = c :: left ∧ next = escapeQuotes left ++ '"' :: tail) ∨
      c = '\\' ∧ ∃ left, text = '"' :: left ∧ next = '"' :: (escapeQuotes left ++ '"' :: tail) := by
  cases text with
  | nil =>
    obtain ⟨same, _⟩ := List.cons.inj starts
    exact absurd same.symm other
  | cons d text =>
    by_cases quote : d = '"'
    · subst quote
      rw [escapeQuotes_quote, List.cons_append, List.cons_append] at starts
      obtain ⟨backslash, rfl⟩ := List.cons.inj starts
      exact .inr ⟨backslash.symm, text, rfl, rfl⟩
    · rw [escapeQuotes_other quote, List.cons_append] at starts
      obtain ⟨rfl, rfl⟩ := List.cons.inj starts
      exact .inl ⟨text, rfl, rfl⟩

theorem hexValue_ne {digit : Nat} (hex : hexValue c = some digit) : c ≠ '"' ∧ c ≠ '\\' := by
  constructor
  · rintro rfl
    simp [hexValue] at hex
  · rintro rfl
    simp [hexValue] at hex

/-- Hexadecimal digits are never quotes or backslashes, so they all come from the name. -/
theorem parseHex_escaped {count : Nat}
    (parsed : parseHex count value (escapeQuotes text ++ '"' :: tail) = some (read, rest)) :
    ∃ left, left <:+ text ∧ rest = escapeQuotes left ++ '"' :: tail := by
  induction count generalizing text value with
  | zero =>
    obtain ⟨_, rfl⟩ := Prod.mk.inj (Option.some.inj parsed)
    exact ⟨text, List.suffix_refl text, rfl⟩
  | succ count ih =>
    cases starts : escapeQuotes text ++ '"' :: tail with
    | nil => simp at starts
    | cons c next =>
      rw [starts, parseHex, Option.bind_eq_bind, Option.bind_eq_some_iff] at parsed
      obtain ⟨digit, hex, parsed⟩ := parsed
      obtain ⟨quote, backslash⟩ := hexValue_ne hex
      rcases escaped_head quote starts with ⟨inner, rfl, rfl⟩ | ⟨same, _⟩
      · obtain ⟨left, suffix, same⟩ := ih parsed
        exact ⟨left, suffix.trans (List.suffix_cons c inner), same⟩
      · exact absurd same backslash

theorem parseUnicode_escaped (parsed : parseUnicode (escapeQuotes text ++ '"' :: tail) = some (c, rest)) :
    ∃ left, left <:+ text ∧ rest = escapeQuotes left ++ '"' :: tail := by
  simp only [parseUnicode, Option.bind_eq_bind, Option.bind_eq_some_iff] at parsed
  obtain ⟨⟨high, after⟩, hex, parsed⟩ := parsed
  obtain ⟨left, suffix, rfl⟩ := parseHex_escaped hex
  split at parsed
  · split at parsed
    · next next starts =>
      obtain ⟨⟨low, after⟩, hex, parsed⟩ := Option.bind_eq_some_iff.mp parsed
      rcases escaped_head (by decide) starts with ⟨inner, rfl, behind⟩ | ⟨_, inner, rfl, behind⟩
      · rcases escaped_head (by decide) behind.symm with ⟨inner, rfl, rfl⟩ | ⟨same, _⟩
        · obtain ⟨left, innerSuffix, rfl⟩ := parseHex_escaped hex
          have whole : left <:+ text :=
            (innerSuffix.trans ((List.suffix_cons _ _).trans (List.suffix_cons _ _))).trans suffix
          split at parsed
          · obtain ⟨_, rfl⟩ := Prod.mk.inj (Option.some.inj parsed)
            exact ⟨left, whole, rfl⟩
          · simp at parsed
        · exact absurd same (by decide)
      · exact absurd (List.cons.inj behind).1 (by decide)
    · simp at parsed
  · split at parsed
    · simp at parsed
    · obtain ⟨_, rfl⟩ := Prod.mk.inj (Option.some.inj parsed)
      exact ⟨left, suffix, rfl⟩

/-- What an escape leaves: it took the closing quote, the backslash of an escaped
quote, or a shorter rest of the name stays. -/
theorem parseEscape_escaped (parsed : parseEscape (escapeQuotes text ++ '"' :: tail) = some (c, rest)) :
    text = [] ∧ c = '"' ∧ rest = tail ∨
      (∃ left, text = '"' :: left ∧ rest = '"' :: (escapeQuotes left ++ '"' :: tail)) ∨
      ∃ left, left <:+ text ∧ left.length < text.length ∧ rest = escapeQuotes left ++ '"' :: tail := by
  cases text with
  | nil =>
    obtain ⟨rfl, rfl⟩ := Prod.mk.inj (Option.some.inj parsed)
    exact .inl ⟨rfl, rfl, rfl⟩
  | cons d text =>
    refine .inr ?_
    by_cases quote : d = '"'
    · subst quote
      rw [escapeQuotes_quote, List.cons_append, List.cons_append, parseEscape] at parsed
      obtain ⟨_, rfl⟩ := Prod.mk.inj (Option.some.inj parsed)
      exact .inl ⟨text, rfl, rfl⟩
    · refine .inr ?_
      rw [escapeQuotes_other quote, List.cons_append] at parsed
      rcases parseEscape_cases parsed with rfl | ⟨rfl, unicode⟩
      · exact ⟨text, List.suffix_cons d text, by simp, rfl⟩
      · obtain ⟨left, suffix, same⟩ := parseUnicode_escaped unicode
        exact ⟨left, suffix.trans (List.suffix_cons 'u' text), Nat.lt_succ_of_le suffix.length_le, same⟩

/-- What a reader makes of an escaped name. A plain one it reads at its full length;
any other it reads shorter, or the last backslash of the name has taken the closing quote. -/
def ReadAs (text tail out rest : List Char) : Prop :=
  (out.length ≤ text.length ∧ (out.length = text.length → Plain text)) ∨
    text.getLast? = some '\\' ∧
      ∃ front beyond fuel, out = front ++ '"' :: beyond ∧ parseString fuel tail = some (beyond, rest)

theorem ReadAs.printable {out : List Char} (read : ReadAs text tail out rest) (backslash : c ≠ '\\')
    (printable : 0x20 ≤ c.toNat) (d : Char) : ReadAs (c :: text) tail (d :: out) rest := by
  rcases read with ⟨short, plain⟩ | ⟨last, front, beyond, fuel, rfl, parsed⟩
  · refine .inl ⟨Nat.succ_le_succ short, fun same => plain_cons.mpr ⟨⟨backslash, printable⟩, plain ?_⟩⟩
    exact Nat.succ.inj same
  · exact .inr ⟨by simp [List.getLast?_cons, last], d :: front, beyond, fuel, rfl, parsed⟩

/-- An escape that takes at least one character behind its backslash. -/
theorem ReadAs.escape {left out : List Char} (read : ReadAs left tail out rest) (suffix : left <:+ text)
    (shorter : left.length < text.length) (d : Char) : ReadAs (c :: text) tail (d :: out) rest := by
  rcases read with ⟨short, _⟩ | ⟨last, front, beyond, fuel, rfl, parsed⟩
  · have below : out.length + 1 < text.length + 1 := by omega
    exact .inl ⟨Nat.le_of_lt below, fun same => absurd same (Nat.ne_of_lt below)⟩
  · obtain ⟨taken, rfl⟩ := suffix
    refine .inr ⟨?_, d :: front, beyond, fuel, rfl, parsed⟩
    rw [← List.cons_append, List.getLast?_append, last, Option.some_or]

theorem parseString_escaped {fuel : Nat} {out : List Char}
    (parsed : parseString fuel (escapeQuotes text ++ '"' :: tail) = some (out, rest)) :
    ReadAs text tail out rest := by
  induction fuel generalizing text out with
  | zero => simp [parseString] at parsed
  | succ fuel ih =>
    cases text with
    | nil =>
      obtain ⟨rfl, _⟩ := Prod.mk.inj (Option.some.inj ((parseString_close fuel tail).symm.trans parsed))
      exact .inl ⟨Nat.le_refl _, fun _ => plain_nil⟩
    | cons c text =>
      by_cases quote : c = '"'
      · subst quote
        rw [escapeQuotes_quote, List.cons_append, List.cons_append, parseString_backslash, parseEscape,
          Option.bind_some, Option.map_eq_some_iff] at parsed
        obtain ⟨⟨others, left⟩, inner, same⟩ := parsed
        obtain ⟨rfl, rfl⟩ := Prod.mk.inj same
        exact (ih inner).printable (by decide) (by decide) _
      · rw [escapeQuotes_other quote, List.cons_append] at parsed
        by_cases backslash : c = '\\'
        · subst backslash
          rw [parseString_backslash, Option.bind_eq_some_iff] at parsed
          obtain ⟨⟨d, behind⟩, escape, parsed⟩ := parsed
          obtain ⟨⟨others, left⟩, inner, same⟩ := Option.map_eq_some_iff.mp parsed
          obtain ⟨rfl, rfl⟩ := Prod.mk.inj same
          rcases parseEscape_escaped escape with ⟨rfl, rfl, rfl⟩ | ⟨name, rfl, rfl⟩ | ⟨name, suffix, shorter, rfl⟩
          · exact .inr ⟨rfl, [], others, fuel, rfl, inner⟩
          · cases fuel with
            | zero => simp [parseString] at inner
            | succ fuel =>
              obtain ⟨rfl, _⟩ := Prod.mk.inj (Option.some.inj ((parseString_close fuel _).symm.trans inner))
              exact .inl ⟨by simp, fun same => by simp at same⟩
          · exact (ih inner).escape suffix shorter d
        · by_cases printable : 0x20 ≤ c.toNat
          · rw [parseString_verbatim ⟨quote, backslash, printable⟩, Option.map_eq_some_iff] at parsed
            obtain ⟨⟨others, left⟩, inner, same⟩ := parsed
            obtain ⟨rfl, rfl⟩ := Prod.mk.inj same
            exact (ih inner).printable backslash printable c
          · rw [parseString, if_neg quote, if_neg backslash, if_pos (by omega)] at parsed
            simp at parsed

/-- A name that is read back as itself is plain, where a verbatim text and a quote
follow its closing quote. -/
theorem plain_of_parseString {fuel : Nat} {separator : List Char} (verbatim : ∀ c ∈ separator, Verbatim c)
    (parsed : parseString fuel (escapeQuotes text ++ '"' :: (separator ++ '"' :: tail)) = some (text, rest)) :
    Plain text := by
  rcases parseString_escaped parsed with ⟨_, plain⟩ | ⟨last, front, beyond, fuel, same, after⟩
  · exact plain rfl
  · obtain ⟨rfl, _⟩ := parseString_append_inv verbatim after
    rw [same, List.getLast?_append_of_ne_nil _ (List.cons_ne_nil _ _)] at last
    have member : '\\' ∈ '"' :: beyond := List.mem_of_getLast? last
    rcases List.mem_cons.mp member with wrong | inside
    · exact absurd wrong (by decide)
    · exact absurd rfl (verbatim _ inside).2.1

end Escapes

end LanceC.Index
