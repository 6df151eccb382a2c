namespace DesktopTags

/-- A JSON value. A string literal whose escapes leave half of a surrogate pair
is grammatical but denotes no text: it is `string none`. A numeral with a sign,
a fraction or an exponent is `signed`; nothing here is stored in one, so its
value is not kept. Objects keep their members in order, repeated names
included. -/
inductive Json where
  | null
  | bool (value : Bool)
  | nat (value : Nat)
  | signed
  | string (text : Option String)
  | array (items : List Json)
  | object (members : List (Option String × Json))

namespace Json

/-- A string that denotes a text. -/
def text (value : String) : Json :=
  .string (some value)

/-- An object whose names all denote texts. -/
def record (members : List (String × Json)) : Json :=
  .object (members.map fun (name, value) => (some name, value))

end Json

end DesktopTags
