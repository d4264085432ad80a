/-!
# JSON values

A value is kept as far as its readers need it: a number as it is written, the fields of
an object in their order and with repetitions, and a text as its characters. A text may
also hold a surrogate without its partner; such a text stands for no characters, yet it is
well formed, so it is a value of its own.
-/

namespace NodeScaler.Json

/-- A JSON value. -/
inductive Value where
  /-- The empty value. -/
  | null
  /-- A truth value. -/
  | boolean (value : Bool)
  /-- A number, as it is written. -/
  | number (written : List Char)
  /-- A text, or none when it holds an unpaired surrogate. -/
  | string (value : Option String)
  /-- An array. -/
  | array (elements : List Value)
  /-- An object. -/
  | object (fields : List (Option String × Value))
deriving Repr

namespace Value

/-- The value of a text. -/
def ofText (text : String) : Value := .string (some text)

/-- The value of a natural number. -/
def ofNat (value : Nat) : Value := .number (toString value).toList

/-- The object with the given fields. -/
def ofFields (fields : List (String × Value)) : Value :=
  .object (fields.map fun (name, value) => (some name, value))

/-- The text that a value is. -/
def text? : Value → Option String
  | .string value => value
  | _ => none

/-- The elements of the array that a value is. -/
def elements? : Value → Option (List Value)
  | .array elements => some elements
  | _ => none

/-- The value, unless it is the empty one. -/
def present? : Value → Option Value
  | .null => none
  | value => some value

/-- The values of the fields with the given names, none for one that is absent. An object
may hold other fields, also repeated ones, but each of these once at most, and every name
in it must be a text. An array stands for the values of exactly these fields. -/
def fields? (names : List String) : Value → Option (List (Option Value))
  | .object fields =>
    if fields.all (fun (name, _) => name.isSome) &&
        names.all (fun name => (fields.filter (·.1 == some name)).length ≤ 1) then
      some (names.map fun name => fields.lookup (some name))
    else none
  | .array elements =>
    if elements.length = names.length then some (elements.map some) else none
  | _ => none

end Value

end NodeScaler.Json
