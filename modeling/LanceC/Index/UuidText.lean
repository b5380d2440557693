import LanceC.Logic.Json
import LanceC.Snapshot

/-! Reading a UUID back from its hyphenated text. -/

namespace LanceC

open Logic Json

def Uuid.ofText (text : String) : Option Uuid :=
  match parseHex 32 0 (text.toList.filter (· ≠ '-')) with
  | some (value, []) => some (BitVec.ofNat 128 value)
  | _ => none

@[simp] theorem length_hexDigits (width value : Nat) : (hexDigits width value).length = width := by
  induction width generalizing value with
  | zero => rfl
  | succ width ih => simp [hexDigits, ih]

theorem digitChar_hex : ∀ digit < 16, hexValue (Nat.digitChar digit) = some digit ∧ Nat.digitChar digit ≠ '-' ∧
    Verbatim (Nat.digitChar digit) := by
  decide

theorem mem_hexDigits {c : Char} {width value : Nat} (member : c ∈ hexDigits width value) :
    c ≠ '-' ∧ Verbatim c := by
  induction width generalizing value with
  | zero => simp [hexDigits] at member
  | succ width ih =>
    rcases List.mem_append.mp member with earlier | last
    · exact ih earlier
    · rw [List.mem_singleton.mp last]
      exact (digitChar_hex _ (Nat.mod_lt value (by decide))).2

theorem parseHex_add (first second value : Nat) (text : List Char) :
    parseHex (first + second) value text =
      (parseHex first value text).bind fun read => parseHex second read.1 read.2 := by
  induction first generalizing value text with
  | zero => simp [parseHex]
  | succ first ih =>
    rw [Nat.succ_add]
    cases text with
    | nil => rfl
    | cons c text =>
      rw [parseHex, parseHex]
      cases hexValue c with
      | none => rfl
      | some digit => exact ih _ _

theorem parseHex_hexDigits (width value before : Nat) (rest : List Char) :
    parseHex width before (hexDigits width value ++ rest) = some (before * 16 ^ width + value % 16 ^ width, rest) := by
  induction width generalizing value rest with
  | zero => simp [parseHex, hexDigits, Nat.mod_one]
  | succ width ih =>
    have digit := (digitChar_hex (value % 16) (Nat.mod_lt value (by decide))).1
    have split : value % (16 * 16 ^ width) = value % 16 + 16 * (value / 16 % 16 ^ width) := Nat.mod_mul
    rw [parseHex_add, hexDigits, List.append_assoc, ih, Option.bind_some]
    simp only [List.singleton_append, parseHex, digit, Option.bind_eq_bind, Option.bind_some, Option.some_inj,
      Prod.mk.injEq, and_true]
    rw [Nat.pow_succ', split, Nat.add_mul, Nat.mul_assoc, Nat.mul_comm (16 ^ width) 16]
    omega

theorem take_append_rest {α : Type} (items : List α) (start length : Nat) :
    (items.drop start).take length ++ items.drop (start + length) = items.drop start := by
  rw [← List.drop_drop]
  exact List.take_append_drop length _

/-- The hyphens are the only characters that the text adds to the digits. -/
theorem Uuid.filter_text (uuid : Uuid) : uuid.text.toList.filter (· ≠ '-') = hexDigits 32 uuid.toNat := by
  have kept : ∀ start length : Nat, (((hexDigits 32 uuid.toNat).drop start).take length).filter (· ≠ '-') =
      ((hexDigits 32 uuid.toNat).drop start).take length := by
    intro start length
    refine List.filter_eq_self.mpr fun c member => ?_
    exact decide_eq_true (mem_hexDigits (List.mem_of_mem_drop (List.mem_of_mem_take member))).1
  have last : ((hexDigits 32 uuid.toNat).drop 20).take 12 = (hexDigits 32 uuid.toNat).drop 20 :=
    List.take_of_length_le (by simp)
  have hyphen : "-".toList.filter (· ≠ '-') = [] := by decide
  simp only [Uuid.text, String.toList_intercalate, List.map_cons, List.map_nil, String.toList_ofList,
    List.intercalate, List.intersperse, List.flatten_cons, List.flatten_nil, List.filter_append, kept, hyphen,
    List.nil_append, List.append_nil]
  rw [last, take_append_rest, take_append_rest, take_append_rest, take_append_rest, List.drop_zero]

theorem Uuid.ofText_text (uuid : Uuid) : Uuid.ofText uuid.text = some uuid := by
  have inRange : uuid.toNat % 16 ^ 32 = uuid.toNat := Nat.mod_eq_of_lt uuid.isLt
  have digits := parseHex_hexDigits 32 uuid.toNat 0 []
  rw [List.append_nil, Nat.zero_mul, Nat.zero_add, inRange] at digits
  rw [Uuid.ofText, Uuid.filter_text, digits]
  simp

theorem Uuid.text_verbatim (uuid : Uuid) : ∀ c ∈ uuid.text.toList, Verbatim c := by
  intro c member
  by_cases hyphen : c = '-'
  · exact hyphen ▸ by decide
  · have digit : c ∈ uuid.text.toList.filter (· ≠ '-') := List.mem_filter.mpr ⟨member, by simpa using hyphen⟩
    rw [Uuid.filter_text] at digit
    exact (mem_hexDigits digit).2

end LanceC
