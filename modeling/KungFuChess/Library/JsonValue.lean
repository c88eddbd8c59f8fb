import KungFuChess.Library.JsonText
import Mathlib.Data.Nat.Digits.Defs

/-!
# JSON as values

The tree that a JSON library parses a text into, and the compact text it writes a tree
as. A number with a fraction or an exponent stays as it is written.
-/

set_option autoImplicit false

open JsonText

inductive JsonValue where
  | null
  | bool (value : Bool)
  | int (value : Int)
  | double (text : Text)
  | string (value : String)
  | array (items : List JsonValue)
  | object (members : List (String × JsonValue))

namespace JsonValue

/-! ## Writing -/

def decimal (value : Int) : Text :=
  if value < 0 then '-' :: Nat.toDigits 10 value.natAbs else Nat.toDigits 10 value.natAbs

/-- The escape of a character; what is not ASCII stays. -/
def escape (character : Char) : Text :=
  match character with
  | '"' => ['\\', '"']
  | '\\' => ['\\', '\\']
  | '\n' => ['\\', 'n']
  | '\r' => ['\\', 'r']
  | '\t' => ['\\', 't']
  | '\x08' => ['\\', 'b']
  | '\x0c' => ['\\', 'f']
  | _ =>
      if character.toNat < 0x20 then
        ['\\', 'u', '0', '0', Nat.digitChar (character.toNat / 16),
          Nat.digitChar (character.toNat % 16)]
      else [character]

def escaped (value : String) : Text := value.toList.flatMap escape

mutual

/-- The text of a value, without blanks and with the members in their order. -/
def serialize : JsonValue → Text
  | .null => "null".toList
  | .bool value => if value then "true".toList else "false".toList
  | .int value => decimal value
  | .double text => text
  | .string value => quoted (escaped value)
  | .array items => JsonText.array (serializeItems items)
  | .object members => JsonText.object (serializeMembers members)

def serializeItems : List JsonValue → List Text
  | [] => []
  | item :: items => serialize item :: serializeItems items

def serializeMembers : List (String × JsonValue) → List Member
  | [] => []
  | (key, value) :: members =>
      (String.ofList (escaped key), serialize value) :: serializeMembers members

end

end JsonValue
