import HomeConfig.Library.Double

/-! Python values that are read from JSON, and the operations on them that may raise. -/
namespace Python

/-- A `str`, character by character. -/
abbrev Str := List Char

inductive Exception where
  | attributeError
  | typeError
  | keyError
  | indexError
  | valueError
  | overflowError
deriving DecidableEq, Repr

abbrev Result := Except Exception

section Result

variable {α β : Type} {x : Result α} {f : α → Result β} {a b : α}

@[simp] theorem ok_bind : (.ok a : Result α) >>= f = f a := rfl

@[simp] theorem error_bind {e : Exception} : (.error e : Result α) >>= f = .error e := rfl

@[simp] theorem pure_eq : (pure a : Result α) = .ok a := rfl

theorem bind_eq_ok {b : β} : x >>= f = .ok b ↔ ∃ a, x = .ok a ∧ f a = .ok b := by
  cases x <;> simp

end Result

/-- What `json` makes of a text. A key occurs once in a dictionary. -/
inductive Json where
  | null
  | bool (b : Bool)
  | int (n : ℤ)
  | float (x : Double)
  | str (s : Str)
  | list (items : List Json)
  | dict (entries : List (Str × Json))

abbrev Dict := List (Str × Json)

def text (s : String) : Str := s.toList

/-- The tables of the interpreter that the operations below look into: the text of floats
and containers, and the properties of characters beyond the basic ones. -/
structure Runtime where
  repr : Json → Str
  decimal : Char → Option ℕ
  space : Char → Bool
  decimal_digitChar : ∀ n < 10, decimal (Nat.digitChar n) = some n

/-- A runtime that knows the ASCII characters, and no text of a float or a container. -/
def Runtime.ascii : Runtime where
  repr _ := []
  decimal c := if '0' ≤ c ∧ c ≤ '9' then some (c.toNat - '0'.toNat) else none
  space c := c = ' ' ∨ ('\t' ≤ c ∧ c ≤ '\r') ∨ ('\x1c' ≤ c ∧ c ≤ '\x1f')
  decimal_digitChar := by decide

def Dict.get (d : Dict) (key : Str) : Option Json := d.lookup key

namespace Json

/-- `bool(value)`. -/
def truthy : Json → Bool
  | null => false
  | bool b => b
  | int n => n ≠ 0
  | float x => x ≠ .finite 0
  | str s => s ≠ []
  | list items => !items.isEmpty
  | dict entries => !entries.isEmpty

/-- `value.get(key, default)`; only a dictionary has the method. -/
def get (value : Json) (key : Str) (default : Json) : Result Json :=
  match value with
  | dict entries => .ok ((Dict.get entries key).getD default)
  | _ => .error .attributeError

@[simp] theorem get_dict (entries : Dict) (key : Str) (default : Json) :
    (dict entries).get key default = .ok ((Dict.get entries key).getD default) := rfl

/-- `value[key]` with a `str` key. -/
def subscript (key : Str) : Json → Result Json
  | dict entries =>
    match Dict.get entries key with
    | some value => .ok value
    | none => .error .keyError
  | _ => .error .typeError

/-- What a `for` loop takes from a value. -/
def iterate : Json → Result (List Json)
  | list items => .ok items
  | dict entries => .ok (entries.map fun e => .str e.1)
  | str s => .ok (s.map fun c => .str [c])
  | _ => .error .typeError

/-- `value == s` for a `str` `s`. -/
def equalsStr (s : Str) : Json → Bool
  | str t => t = s
  | _ => false

/-- A number; `True` and `False` are the integers one and zero. -/
def number : Json → Option Double
  | int n => some (.finite n)
  | bool b => some (.finite (if b then 1 else 0))
  | float x => some x
  | _ => none

end Json

/-- `str(value)`. -/
def Runtime.str (py : Runtime) : Json → Str
  | .null => text "None"
  | .bool b => if b then text "True" else text "False"
  | .int n => (toString n).toList
  | .str s => s
  | value => py.repr value

def notInfinite : Double → Result Double
  | .infinite _ => .error .overflowError
  | x => .ok x

/-- `value / n` for an integer constant `n`, which is not zero. The quotient of two
integers overflows where a float quotient is infinite. -/
def trueDivide (n : ℤ) : Json → Result Double
  | .int m => notInfinite (.ofRat (m / n))
  | .bool b => notInfinite (.ofRat ((if b then 1 else 0) / n))
  | .float (.finite q) => .ok (.ofRat (q / n))
  | .float (.infinite negative) => .ok (.infinite (negative != decide (n < 0)))
  | .float .nan => .ok .nan
  | _ => .error .typeError

/-- `int(x)` of a float. -/
def intOfFloat : Double → Result ℤ
  | .finite q => .ok (wholePart q)
  | .infinite _ => .error .overflowError
  | .nan => .error .valueError

/-- The digits of `int(s)`: single underscores may stand between them. -/
def Runtime.digits (py : Runtime) (n : ℕ) : Str → Option ℕ
  | [] => some n
  | c :: rest =>
    match py.decimal c with
    | some k => digits py (10 * n + k) rest
    | none =>
      match c, rest with
      | '_', c :: rest => (py.decimal c).bind fun k => digits py (10 * n + k) rest
      | _, _ => none

def Runtime.strip (py : Runtime) (s : Str) : Str :=
  ((s.dropWhile py.space).reverse.dropWhile py.space).reverse

/-- `int(s)` of a `str`: blanks around an optional sign and digits. -/
def Runtime.intOfStr (py : Runtime) (s : Str) : Option ℤ :=
  match py.strip s with
  | '-' :: c :: rest => (digitsFrom c rest).map fun n => -n
  | '+' :: c :: rest => digitsFrom c rest
  | c :: rest => digitsFrom c rest
  | [] => none
where
  digitsFrom (c : Char) (rest : Str) : Option ℤ :=
    ((py.decimal c).bind fun k => py.digits k rest).map fun n => (n : ℤ)

end Python
