import LanceC.Error

/-! C strings and string arrays as the entry points receive them. -/

namespace LanceC.Ffi

/-- A `const char *`; `malformed` is not UTF-8 and carries the decoder's message. -/
inductive CString where
  | null
  | malformed (message : String)
  | text (value : String)
  deriving DecidableEq, Repr

def CString.isUtf8 : CString → Bool
  | .malformed _ => false
  | _ => true

def parseCString : CString → Except LanceError (Option String)
  | .null => .ok none
  | .malformed message => .error (.invalidInput message)
  | .text value => .ok (some value)

/-- The entries of a NULL-terminated array, up to its first NULL. -/
def parseEntries : List CString → Except LanceError (List String)
  | [] => .ok []
  | entry :: rest => do
    match ← parseCString entry with
    | some value => return value :: (← parseEntries rest)
    | none => return []

/-- `parse_c_string(entry)?.filter(|s| !s.is_empty()).ok_or_else(..)?`. -/
def requireText (entry : CString) (message : String) : Except LanceError String := do
  match ← parseCString entry with
  | none => .error (.invalidInput message)
  | some value =>
    refuseIf (value = "") (.invalidInput message)
    return value

/-- NULL leaves it out; an empty string is refused. -/
def optionalText (entry : CString) (message : String) : Except LanceError (Option String) := do
  match ← parseCString entry with
  | none => return none
  | some value =>
    refuseIf (value = "") (.invalidInput message)
    return some value

/-- The array a caller passes next to its length; `none` is NULL. -/
abbrev CArray (α : Type) (count : Nat) := Option {entries : List α // entries.length = count}

/-- `none` is a NULL array. -/
def parseCStringArray : Option (List CString) → Except LanceError (Option (List String))
  | none => .ok none
  | some entries => return some (← parseEntries entries)

/-- A name: neither NULL nor empty. -/
def CString.Named (entry : CString) (name : String) : Prop := entry = .text name ∧ name ≠ ""

/-- A text that may be left out. -/
def CString.Optionally (entry : CString) : Option String → Prop
  | none => entry = .null
  | some value => entry = .text value

/-- What a string is refused with that is no name. -/
def CString.Refused (entry : CString) (message : String) (error : LanceError) : Prop :=
  (∃ reason, entry = .malformed reason ∧ error = .invalidInput reason) ∨
    (entry = .null ∨ entry = .text "") ∧ error = .invalidInput message

theorem parseCString_eq_ok {entry : CString} {text : Option String} :
    parseCString entry = .ok text ↔ entry.Optionally text := by
  cases entry <;> cases text <;> simp [parseCString, CString.Optionally]

theorem requireText_eq_ok {entry : CString} {message name : String} :
    requireText entry message = .ok name ↔ entry.Named name := by
  cases entry with
  | null => simp [requireText, parseCString, CString.Named, bind, Except.bind]
  | malformed reason => simp [requireText, parseCString, CString.Named, bind, Except.bind]
  | text value =>
    by_cases empty : value = ""
    · simp [requireText, parseCString, CString.Named, bind, Except.bind, refuseIf, empty]
    · simp only [requireText, parseCString, CString.Named, bind, Except.bind, refuseIf, empty, if_false, pure, Except.pure,
        Except.ok.injEq, CString.text.injEq]
      constructor
      · rintro rfl
        exact ⟨rfl, empty⟩
      · exact And.left

theorem optionalText_eq_ok {entry : CString} {message : String} {name : Option String} :
    optionalText entry message = .ok name ↔ entry.Optionally name ∧ name ≠ some "" := by
  cases entry with
  | null =>
    cases name <;> simp [optionalText, parseCString, CString.Optionally, bind, Except.bind, pure, Except.pure]
  | malformed reason => cases name <;> simp [optionalText, parseCString, CString.Optionally, bind, Except.bind]
  | text value =>
    by_cases empty : value = ""
    · cases name <;> simp [optionalText, parseCString, CString.Optionally, bind, Except.bind, refuseIf, empty, eq_comm]
    · cases name with
      | none => simp [optionalText, parseCString, CString.Optionally, bind, Except.bind, refuseIf, empty, pure, Except.pure]
      | some name =>
        simp only [optionalText, parseCString, CString.Optionally, bind, Except.bind, refuseIf, empty, if_false, pure,
          Except.pure, Except.ok.injEq, Option.some.injEq, CString.text.injEq]
        constructor
        · rintro rfl
          exact ⟨rfl, fun same => empty (Option.some.inj same)⟩
        · exact And.left

theorem requireText_eq_error {entry : CString} {message : String} {error : LanceError} :
    requireText entry message = .error error ↔ entry.Refused message error := by
  cases entry with
  | null => simp [requireText, parseCString, CString.Refused, bind, Except.bind, eq_comm]
  | malformed reason => simp [requireText, parseCString, CString.Refused, bind, Except.bind, eq_comm]
  | text value =>
    by_cases empty : value = ""
    · simp [requireText, parseCString, CString.Refused, bind, Except.bind, refuseIf, empty, eq_comm]
    · simp [requireText, parseCString, CString.Refused, bind, Except.bind, refuseIf, empty, pure, Except.pure]

end LanceC.Ffi
