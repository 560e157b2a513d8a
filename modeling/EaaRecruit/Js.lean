import Mathlib.Data.List.Basic
import Mathlib.Data.String.Basic

/-!
# JavaScript values

The values both pages read out of response bodies, and the operations of the language
their handlers apply to them: property reads (`data.detail`, `u.role`), `String(v)` as
`'❌ Error: ' + data.detail` and template literals use it, truthiness (`a || b`) and `===`.
A value that may be `undefined` is an `Option Json`.
-/

namespace EaaRecruit

/-- A value `JSON.parse` can return. A number is kept as the text `String(n)` gives for
it: the pages only print numbers and test them for truthiness, and both depend on that
text alone. -/
inductive Json where
  | null
  | bool (b : Bool)
  | number (text : String)
  | string (s : String)
  | array (items : List Json)
  | object (fields : List (String × Json))
  deriving Repr, Inhabited

namespace Json

/-- `v.key` for the keys the pages read, none of which is a built-in property: a missing
key reads as `undefined`, a repeated key as its last occurrence (the one `JSON.parse`
keeps), and reading from `null` throws the engine's `TypeError`. -/
def get (key : String) : Json → Except String (Option Json)
  | .null => .error ("Cannot read properties of null (reading '" ++ key ++ "')")
  | .object fields => .ok (fields.reverse.lookup key)
  | _ => .ok none

mutual
/-- `String(v)`. -/
def toJsString : Json → String
  | .null => "null"
  | .bool b => toString b
  | .number text => text
  | .string s => s
  | .array items => joinItems items
  | .object _ => "[object Object]"
  termination_by structural v => v

/-- `items.join(",")`, which prints a `null` item as nothing. -/
def joinItems : List Json → String
  | [] => ""
  | v :: rest =>
    (match v with
      | .null => ""
      | w => toJsString w) ++
    (match rest with
      | [] => ""
      | _ => "," ++ joinItems rest)
  termination_by structural items => items
end

example : (Json.array [.number "1", .null, .array [.string "a", .bool true]]).toJsString =
    "1,,a,true" := by decide

end Json

/-- `String(v)` for a value that may be `undefined`. -/
def jsString : Option Json → String
  | none => "undefined"
  | some v => v.toJsString

/-- `v.key` where a throw cannot happen or does not matter: the read, or `undefined`. -/
def Json.prop (key : String) (v : Json) : Option Json :=
  match v.get key with
  | .ok value => value
  | .error _ => none

/-- Whether a value counts as true for `||`, `&&` and `if`. A JSON number is falsy only
when it is zero, and `0` and `-0` both print as `0`. -/
def truthy : Option Json → Bool
  | none | some .null => false
  | some (.bool b) => b
  | some (.number text) => text != "0"
  | some (.string s) => !s.isEmpty
  | some (.array _) | some (.object _) => true

/-- `a || b`. -/
def orElse (a b : Option Json) : Option Json := if truthy a then a else b

/-- `a === b`. Two arrays or objects are never the same one here: each value the pages
compare comes out of its own `JSON.parse`. -/
def strictEq : Option Json → Option Json → Bool
  | none, none => true
  | some .null, some .null => true
  | some (.bool a), some (.bool b) => a == b
  | some (.number a), some (.number b) => a == b
  | some (.string a), some (.string b) => a == b
  | _, _ => false

end EaaRecruit
