import Mathlib.Init

/-!
# Json — values, and what a typed reader takes from them

A value keeps the members of an object in their order and with repetitions,
because readers differ in what they make of a repetition:

* `index` and `asStr` look at a value without a type; of a repeated member the
  last one counts;
* `fields` is the start of every typed reader: a record is written as an object,
  in which unknown members are skipped and no known one may be repeated, or as an
  array with the fields in their order;
* `readString`, `readOptString` and `readArray` read one field.

What the typed readers accept is the documented behaviour of the libraries that
stand behind them, which are not part of the sources.
-/

/-- A number is kept as it is written. -/
inductive Json where
  | null
  | bool (value : Bool)
  | num (literal : String)
  | str (value : String)
  | arr (elems : List Json)
  | obj (members : List (String × Json))

namespace Json

/-- The member of an object, `null` where there is none. -/
def index (key : String) : Json → Json
  | obj members =>
      match members.reverse.lookup key with
      | some value => value
      | none => null
  | _ => null

def asStr : Json → Option String
  | str value => some value
  | _ => none

/-- The fields of a record with the given names, as the documentation of `serde`
describes what a derived reader accepts. -/
def fields (names : List String) : Json → Option (String → Option Json)
  | obj members =>
      if names.all fun name => (members.filter (·.1 = name)).length ≤ 1 then
        some fun name => members.lookup name
      else none
  | arr elems =>
      if elems.length = names.length then some fun name => (names.zip elems).lookup name else none
  | _ => none

/-- A field that has to be a string. -/
def readString : Option Json → Option String
  | some (str value) => some value
  | _ => none

/-- A field that may be missing or `null`. -/
def readOptString : Option Json → Option (Option String)
  | none | some null => some none
  | some (str value) => some (some value)
  | _ => none

/-- A field that has to be an array. -/
def readArray {α : Type} (read : Json → Option α) : Option Json → Option (List α)
  | some (arr elems) => elems.mapM read
  | _ => none

end Json
