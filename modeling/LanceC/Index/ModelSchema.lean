import LanceC.Ffi.CString
import LanceC.Machine.Integer
import LanceC.Snapshot

/-! The schema of an injected index model, checked before arrow-rs sees it
(`validate_model_schema` of index_segment.rs). -/

namespace LanceC.Index

open Ffi Machine

/-- What is read of an `ArrowSchema` struct. Pointers are addresses. -/
structure ArrowSchemaNode where
  hasRelease : Bool
  format : CString
  name : CString
  nChildren : Int
  children : Option (Nat → Option Nat)
  dictionary : Option Nat

/-- The structs that pointers lead to; a child array is readable for the declared count. -/
abbrev SchemaMemory := Nat → ArrowSchemaNode

def maxSchemaDepth : Nat := 64

/-- `levels` counts the depth down: it is 65 at the root and 0 beyond the limit. The
addresses visited so far are passed on. -/
def preflight [Target] (memory : SchemaMemory) : Nat → Option Nat → String → List Nat →
    Except LanceError (List Nat)
  | _, none, path, _ => .error (.invalidInput s!"{path} must not be NULL")
  | 0, some _, path, _ =>
    .error (.invalidInput s!"{path} nesting depth exceeds the supported maximum of {maxSchemaDepth}")
  | levels + 1, some address, path, visited => do
    if visited.contains address then throw (.invalidInput s!"{path} contains a schema pointer cycle")
    let visited := address :: visited
    let value := memory address
    if !value.hasRelease ∨ value.format = .null then
      throw (.invalidInput s!"{path} is uninitialized or already released")
    if !value.format.isUtf8 then throw (.invalidInput s!"{path} format string is not valid UTF-8")
    if !value.name.isUtf8 then throw (.invalidInput s!"{path} name string is not valid UTF-8")
    let some childCount := usizeTryFrom value.nChildren
      | throw (.invalidInput s!"{path}.n_children must be non-negative, got {value.nChildren}")
    if childCount > isizeMax / (Target.usizeBits / 8) then
      throw (.invalidInput s!"{path}.n_children {childCount} exceeds the addressable pointer slice length")
    if childCount > 0 ∧ value.children.isNone then
      throw (.invalidInput s!"{path}.children is NULL while n_children is {childCount}")
    let child index := value.children.bind (· index)
    let visited ← (List.range childCount).foldlM
      (fun visited index => preflight memory levels (child index) s!"{path}.children[{index}]" visited) visited
    match value.dictionary with
    | none => return visited
    | some dictionary => preflight memory levels (some dictionary) s!"{path}.dictionary" visited

structure ArrowField where
  dataType : DataType
  metadata : List (String × String)

/-- arrow-rs's own conversions of a schema struct, and how it prints a type. -/
structure SchemaConversion where
  dataType : Nat → Except String DataType
  field : Nat → Except String ArrowField
  debug : DataType → String

def validateModelSchema [Target] (arrow : SchemaConversion) (memory : SchemaMemory) (schema : Option Nat)
    (name : String) : Except LanceError ArrowField := do
  let _ ← preflight memory (maxSchemaDepth + 1) schema s!"{name}_schema" []
  -- A NULL root has been refused.
  let schema := schema.getD 0
  if let .error error := arrow.dataType schema then
    throw (.invalidInput s!"{name}_schema is not a valid Arrow type: {error}")
  match arrow.field schema with
  | .error error => .error (.invalidInput s!"{name}_schema is not a valid Arrow field: {error}")
  | .ok field => .ok field

end LanceC.Index
