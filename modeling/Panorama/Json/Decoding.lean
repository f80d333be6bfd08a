import Panorama.Json.Value
import Panorama.Number.Exact

/-!
# Reading data from JSON

A decoder takes the data of one kind from a JSON value. A record may be written as an object, or as
an array of its fields in order. Its keys may not be repeated; further keys are refused by a closed
record and ignored by an open one.
-/

namespace Panorama.Json

/-- How data are taken from a value. -/
abbrev Decoder (α : Type) := Value → Option α

namespace Decoder

/-- A natural number below a limit. -/
def natural (limit : Nat) : Decoder Nat
  | .number (.natural value) => if value < limit then some value else none
  | _ => none

/-- A 64-bit word. -/
def count : Decoder Nat := natural UInt64.size

/-- A 32-bit word. -/
def word : Decoder UInt32 := fun value ↦ (natural UInt32.size value).map .ofNat

/-- A byte. -/
def byte : Decoder UInt8 := fun value ↦ (natural UInt8.size value).map .ofNat

/-- A double. -/
def double : Decoder Float
  | .number (.natural value) => some (Float.ofNat value)
  | .number (.negative magnitude) => some (-Float.ofNat magnitude)
  | .number (.real value) => some value
  | _ => none

/-- A single. -/
def single : Decoder Float32
  | .number (.natural value) => some (Float32.ofNat value)
  | .number (.negative magnitude) => some (-Float32.ofNat magnitude)
  | .number (.real value) => some (Number.narrow value)
  | _ => none

/-- A text. -/
def text : Decoder String
  | .text value => value
  | _ => none

/-- An array of things of one kind. -/
def list {α : Type} (item : Decoder α) : Decoder (List α)
  | .array items => items.mapM item
  | _ => none

/-- Something or null. -/
def optional {α : Type} (decoder : Decoder α) : Decoder (Option α)
  | .null => some none
  | value => (decoder value).map some

/-- One of several names, written as a text, or as an object with null under the name. -/
def choice {α : Type} (meaning : String → Option α) : Decoder α
  | .text (some name) => meaning name
  | .object [(some name, .null)] => meaning name
  | _ => none

end Decoder

/-- The fields of a record that are given. -/
abbrev Fields := List (String × Value)

/-- The fields of a record with given names. -/
def Fields.of? (names : List String) (closed : Bool) : Decoder Fields
  | .array items => if items.length ≤ names.length then some (names.zip items) else none
  | .object members => do
    let members ← members.mapM fun (key, value) ↦ key.map fun key ↦ (key, value)
    let (known, unknown) := members.partition fun (key, _) ↦ names.contains key
    if (closed && !unknown.isEmpty) || !(known.map Prod.fst).Nodup then none else some known
  | _ => none

namespace Fields

/-- A field that must be given. -/
def required {α : Type} (fields : Fields) (name : String) (decoder : Decoder α) : Option α := do
  decoder (← fields.lookup name)

/-- A field that has a default. -/
def withDefault {α : Type} (fields : Fields) (name : String) (default : α)
    (decoder : Decoder α) : Option α :=
  match fields.lookup name with
  | some value => decoder value
  | none => some default

/-- A field that may be missing or null. -/
def optional {α : Type} (fields : Fields) (name : String) (decoder : Decoder α) :
    Option (Option α) :=
  fields.withDefault name none decoder.optional

end Fields

end Panorama.Json
