import LanceC.Ffi.CString
import LanceC.Logic.HashMap

/-! Storage options as the entry points receive them (helpers.rs). -/

namespace LanceC.Ffi

open Logic

/-- The pairs of the array up to the NULL that ends it, the end of the list included. -/
def parseStoragePairs (map : HashMap String String) : List CString → Except LanceError (HashMap String String)
  | [] => .ok map
  | .null :: _ => .ok map
  | [_] | _ :: .null :: _ =>
    .error (.invalidInput "storage options must be key-value pairs; odd number of entries")
  | key :: value :: rest => do
    let key ← parseCString key
    let value ← parseCString value
    parseStoragePairs (map.insert (key.getD "") (value.getD "")) rest

/-- `none` is a NULL array. -/
def parseStorageOptions : Option (List CString) → Except LanceError (HashMap String String)
  | none => .ok ∅
  | some entries => parseStoragePairs ∅ entries

end LanceC.Ffi
