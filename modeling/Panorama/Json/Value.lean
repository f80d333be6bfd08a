import Panorama.Json.Token

/-!
# JSON values

The values of JSON, and reading one from a byte string. Reading is a machine that takes one token
at a time and holds the containers that are open, so that nothing bounds how deeply they nest.
-/

namespace Panorama.Json

/-- A value. Texts and keys that are no UTF-8 have no value. -/
inductive Value where
  | null
  | bool (value : Bool)
  | number (value : Numeral)
  | text (value : Option String)
  | array (items : List Value)
  | object (members : List (Option String × Value))

/-- A container that is open, with what it holds so far, the latest item first. -/
inductive Container where
  /-- An array. -/
  | array (items : List Value)
  /-- An object, with the key of the member that is being read. -/
  | object (members : List (Option String × Value)) (key : Option String)

/-- What may come next. -/
inductive Phase where
  /-- A value. -/
  | value
  /-- A value, or the end of an array that is still empty. -/
  | firstItem
  /-- A key, or the end of an object that is still empty. -/
  | firstKey
  /-- A key. -/
  | key
  /-- The colon behind a key. -/
  | colon
  /-- What follows a complete value. -/
  | complete (value : Value)

/-- A machine in the middle of a text. -/
structure Reader where
  phase : Phase
  containers : List Container

namespace Reader

/-- The machine at the start of a text. -/
def start : Reader := ⟨.value, []⟩

/-- Take the first token of a value. -/
def beginValue? (containers : List Container) : Token → Option Reader
  | .null => some ⟨.complete .null, containers⟩
  | .bool value => some ⟨.complete (.bool value), containers⟩
  | .number value => some ⟨.complete (.number value), containers⟩
  | .text value => some ⟨.complete (.text value), containers⟩
  | .openArray => some ⟨.firstItem, .array [] :: containers⟩
  | .openObject => some ⟨.firstKey, .object [] none :: containers⟩
  | _ => none

/-- Take the token behind a complete value: the container that holds it goes on or ends. -/
def afterValue? (value : Value) : List Container → Token → Option Reader
  | .array items :: outer, .comma => some ⟨.value, .array (value :: items) :: outer⟩
  | .array items :: outer, .closeArray =>
    some ⟨.complete (.array (value :: items).reverse), outer⟩
  | .object members key :: outer, .comma =>
    some ⟨.key, .object ((key, value) :: members) none :: outer⟩
  | .object members key :: outer, .closeObject =>
    some ⟨.complete (.object ((key, value) :: members).reverse), outer⟩
  | _, _ => none

/-- Take one token. -/
def step? (reader : Reader) (token : Token) : Option Reader :=
  match reader.phase, reader.containers, token with
  | .value, containers, token => beginValue? containers token
  | .firstItem, .array _ :: outer, .closeArray => some ⟨.complete (.array []), outer⟩
  | .firstItem, containers, token => beginValue? containers token
  | .firstKey, .object _ _ :: outer, .closeObject => some ⟨.complete (.object []), outer⟩
  | .firstKey, .object members _ :: outer, .text key => some ⟨.colon, .object members key :: outer⟩
  | .key, .object members _ :: outer, .text key => some ⟨.colon, .object members key :: outer⟩
  | .colon, containers, .colon => some ⟨.value, containers⟩
  | .complete value, containers, token => afterValue? value containers token
  | _, _, _ => none

end Reader

namespace Value

/-- The value that tokens make. -/
def ofTokens? (tokens : List Token) : Option Value := do
  match ← tokens.foldlM Reader.step? Reader.start with
  | ⟨.complete value, []⟩ => some value
  | _ => none

/-- The value written in a byte string. -/
def ofBytes? (bytes : List UInt8) : Option Value := do
  ofTokens? (← Token.ofBytes? bytes)

mutual

/-- Whether all texts have a value, all numbers fit, and containers nest at most `levels` deep. -/
def isPlain (levels : Nat) : Value → Bool
  | .number .outOfRange => false
  | .text none => false
  | .array items => 0 < levels && arePlain (levels - 1) items
  | .object members => 0 < levels && membersArePlain (levels - 1) members
  | _ => true

/-- Whether several values are plain. -/
def arePlain (levels : Nat) : List Value → Bool
  | [] => true
  | value :: rest => isPlain levels value && arePlain levels rest

/-- Whether the keys and values of several members are plain. -/
def membersArePlain (levels : Nat) : List (Option String × Value) → Bool
  | [] => true
  | (key, value) :: rest => key.isSome && isPlain levels value && membersArePlain levels rest

end

end Value

end Panorama.Json
