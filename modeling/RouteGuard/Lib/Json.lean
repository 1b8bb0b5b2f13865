import RouteGuard.Lib.JsString

/-!
# JSON values

* `Json` : the values, objects as lists of fields in insertion order;
* `beq`, `beq_iff` : equality of values can be decided;
* `quote` : the text of a string as `JSON.stringify` writes it;
* `sortByKey` : fields in the code-unit order of their keys.
-/

open JsString

/-- A JSON value with integer numbers. Every integer is written in decimal; `JSON.stringify` writes those from `1e21`
on with an exponent, and beyond `2 ^ 53` not every integer is a number of the language. -/
inductive Json where
  | null
  | bool (b : Bool)
  | num (n : Int)
  | str (s : JsString)
  | arr (items : List Json)
  | obj (fields : List (JsString × Json))

namespace Json

/-! ## Equality -/

mutual

/-- Whether two values are the same, fields in the same order. -/
def beq : Json → Json → Bool
  | .null, .null => true
  | .bool b, .bool b' => b = b'
  | .num n, .num n' => n = n'
  | .str s, .str s' => s = s'
  | .arr items, .arr items' => beqItems items items'
  | .obj fields, .obj fields' => beqFields fields fields'
  | _, _ => false

def beqItems : List Json → List Json → Bool
  | [], [] => true
  | a :: items, b :: items' => beq a b && beqItems items items'
  | _, _ => false

def beqFields : List (JsString × Json) → List (JsString × Json) → Bool
  | [], [] => true
  | (k, a) :: fields, (l, b) :: fields' => k = l && beq a b && beqFields fields fields'
  | _, _ => false

end

mutual

theorem beq_iff : ∀ a b : Json, beq a b = true ↔ a = b
  | .null, b | .bool _, b | .num _, b | .str _, b => by cases b <;> simp [beq]
  | .arr items, b => by
    cases b with
    | arr items' => simp only [beq, beqItems_iff items items', Json.arr.injEq]
    | _ => simp [beq]
  | .obj fields, b => by
    cases b with
    | obj fields' => simp only [beq, beqFields_iff fields fields', Json.obj.injEq]
    | _ => simp [beq]

theorem beqItems_iff : ∀ items items' : List Json, beqItems items items' = true ↔ items = items'
  | [], items' => by cases items' <;> simp [beqItems]
  | a :: items, [] => by simp [beqItems]
  | a :: items, b :: items' => by
    simp only [beqItems, Bool.and_eq_true, beq_iff a b, beqItems_iff items items', List.cons.injEq]

theorem beqFields_iff : ∀ fields fields' : List (JsString × Json), beqFields fields fields' = true ↔ fields = fields'
  | [], fields' => by cases fields' <;> simp [beqFields]
  | (k, a) :: fields, [] => by simp [beqFields]
  | (k, a) :: fields, (l, b) :: fields' => by
    simp only [beqFields, Bool.and_eq_true, decide_eq_true_eq, beq_iff a b, beqFields_iff fields fields', List.cons.injEq,
      Prod.mk.injEq]

end

instance : DecidableEq Json := fun a b => decidable_of_iff _ (beq_iff a b)

/-! ## Strings -/

def isHighSurrogate (u : UInt16) : Bool := 0xD800 ≤ u && u < 0xDC00

def isLowSurrogate (u : UInt16) : Bool := 0xDC00 ≤ u && u < 0xE000

/-- A lower-case hexadecimal digit. -/
def hexDigit (n : Nat) : UInt16 := UInt16.ofNat (if n < 10 then 0x30 + n else 0x57 + n)

def hex4 (n : Nat) : JsString :=
  [hexDigit (n / 4096 % 16), hexDigit (n / 256 % 16), hexDigit (n / 16 % 16), hexDigit (n % 16)]

/-- A code unit that stands alone: quotes, backslashes and control characters are escaped, and so is a
surrogate without its partner. -/
def quoteUnit (u : UInt16) : JsString :=
  if u = 0x22 then js "\\\""
  else if u = 0x5C then js "\\\\"
  else if u = 0x08 then js "\\b"
  else if u = 0x09 then js "\\t"
  else if u = 0x0A then js "\\n"
  else if u = 0x0C then js "\\f"
  else if u = 0x0D then js "\\r"
  else if u < 0x20 || isHighSurrogate u || isLowSurrogate u then js "\\u" ++ hex4 u.toNat
  else [u]

def quoteUnits : JsString → JsString
  | [] => []
  | [u] => quoteUnit u
  | u :: v :: rest =>
    -- a surrogate pair is written as it is
    if isHighSurrogate u && isLowSurrogate v then u :: v :: quoteUnits rest
    else quoteUnit u ++ quoteUnits (v :: rest)

/-- `JSON.stringify` of a string. -/
def quote (s : JsString) : JsString := js "\"" ++ quoteUnits s ++ js "\""

/-! ## Values -/

/-- The texts of the items or fields, separated by commas. -/
def joinComma : List JsString → JsString
  | [] => []
  | [x] => x
  | x :: y :: rest => x ++ js "," ++ joinComma (y :: rest)

/-- Fields in the code-unit order of their keys. -/
def sortByKey {α : Type} (fields : List (JsString × α)) : List (JsString × α) :=
  fields.insertionSort fun a b => a.1 ≤ b.1

/-- The nullable field of an object type. -/
def ofOption {α : Type} (f : α → Json) : Option α → Json
  | some a => f a
  | none => .null

end Json
