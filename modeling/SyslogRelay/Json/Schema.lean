import SyslogRelay.Json.Error

namespace SyslogRelay.Json

variable {α β : Type}

/-- How a value of type `β` is written in JSON. -/
inductive Shape : Type → Type 1
  /-- A string. -/
  | text : Shape String
  /-- A string, or `null` for none. -/
  | optionalText : Shape (Option String)
  /-- `true` or `false`. -/
  | flag : Shape Bool
  /-- An unsigned integer up to `max`, called `name` in errors. -/
  | natural (max : Nat) (name : String) : Shape Nat
  /-- An array of strings. -/
  | texts : Shape (List String)
  /-- One of the named alternatives: the name as a string, or an object with
  the name as its only key and `null` as its value. -/
  | choice {β : Type} (options : List (String × β)) : Shape β

/-- What a shape is called where a value of another kind was found. -/
def Shape.expected : Shape β → String
  | .text => "a string"
  | .optionalText => "a string"
  | .flag => "a boolean"
  | .natural _ name => name
  | .texts => "a sequence"
  | .choice _ => "string or map"

/-- The names of a choice's alternatives, in order. -/
def names (options : List (String × β)) : List String := options.map Prod.fst

/-- The alternative with a given name. -/
def pick? (options : List (String × β)) (name : String) : Option β :=
  (options.find? (fun o => o.1 = name)).map Prod.snd

/-- One named field of a structure `α`. -/
structure Field (α : Type) : Type 1 where
  name : String
  {β : Type}
  shape : Shape β
  store : β → α → α

/-- The fields of a structure `α`, in declaration order, and the name of the
structure in errors (such as `struct Settings`). -/
structure Record (α : Type) : Type 1 where
  title : String
  fields : List (Field α)

/-- A number against a bounded unsigned shape: larger or negative integers are
invalid values; floats have the wrong type. -/
def naturalOf (max : Nat) (name : String) : Number → Except Problem Nat
  | .unsigned n => if n ≤ max then .ok n else .error (.invalidValue (.unsigned n) name)
  | .signed n => .error (.invalidValue (.signed n) name)
  | .float x => .error (.invalidType (.float x) name)

/-- A chosen name against the alternatives. -/
def choose (options : List (String × β)) (name : String) : Except Problem β :=
  match pick? options name with
  | some b => .ok b
  | none => .error (.unknownVariant name (names options))

/-- Members of an object in ascending key order; of two members with one key
the later counts. -/
def Value.members (fields : List (String × Value)) : List (String × Value) :=
  let kept := fields.reverse.foldl
    (fun acc kv => if acc.any (fun e => e.1 = kv.1) then acc else kv :: acc) []
  kept.mergeSort (fun a b => decide (a.1 ≤ b.1))

/-- Decode a value by a shape. -/
def Shape.ofValue : Shape β → Value → Except Problem β
  | .text, .string s => .ok s
  | .optionalText, .null => .ok none
  | .optionalText, .string s => .ok (some s)
  | .flag, .bool b => .ok b
  | .natural max name, .number n => naturalOf max name n
  | .texts, .array xs => xs.mapM (fun
      | .string s => .ok s
      | v => .error (.invalidType v.unexpected "a string"))
  | .choice options, .string s => choose options s
  | .choice options, .object fields =>
    match fields with
    | [(name, v)] => do
      let b ← choose options name
      match v with
      | .null => pure b
      | v => throw (.invalidType v.unexpected "unit")
    | _ => .error (.invalidValue .map "map with a single key")
  | shape, v => .error (.invalidType v.unexpected shape.expected)

/-- Decode one field's value and store it. -/
def Field.ofValue (f : Field α) (v : Value) (a : α) : Except Problem α :=
  (f.shape.ofValue v).map (f.store · a)

/-- The field of a record with a given name. -/
def Record.field? (r : Record α) (name : String) : Option (Field α) :=
  r.fields.find? (fun f => f.name = name)

/-- Fill fields in order from the items of an array; fields past its end keep
their defaults. -/
def fillFields : List (Field α) → List Value → α → Except Problem α
  | [], _, a => .ok a
  | _, [], a => .ok a
  | f :: fs, v :: vs, a => do fillFields fs vs (← f.ofValue v a)

/-- Decode a structure from a value, starting from `default`: an object sets the
fields it names (others are ignored), an array fills fields in order and may not
have more items than there are fields. -/
def Record.ofValue (r : Record α) (default : α) : Value → Except Error α
  | .object fields =>
    let step (acc : Except Problem α) (kv : String × Value) : Except Problem α := do
      let a ← acc
      match r.field? kv.1 with
      | some f => f.ofValue kv.2 a
      | none => pure a
    ((Value.members fields).foldl step (.ok default)).mapError (⟨·, none⟩)
  | .array xs =>
    (do
      let a ← fillFields r.fields xs default
      if xs.length > r.fields.length then
        throw (Problem.invalidLength xs.length "fewer elements in array")
      pure a).mapError (⟨·, none⟩)
  | v => .error ⟨.invalidType v.unexpected r.title, none⟩

/-- Decode a value of a shape, with no position. -/
def Shape.decode (shape : Shape β) (v : Value) : Except Error β :=
  (shape.ofValue v).mapError (⟨·, none⟩)

end SyslogRelay.Json
