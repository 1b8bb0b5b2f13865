import RouteGuard.Lib.JsonText

/-!
# Reading the fields of an object

A reader asks for one field and its type. Readers see the same in an object whose fields were put in key order.
-/

open JsString

namespace Json

def asStr : Json → Option JsString
  | .str s => some s
  | _ => none

def asNum : Json → Option Int
  | .num n => some n
  | _ => none

def asBool : Json → Option Bool
  | .bool b => some b
  | _ => none

def asArr : Json → Option (List Json)
  | .arr items => some items
  | _ => none

def asObj : Json → Option (List (JsString × Json))
  | .obj fields => some fields
  | _ => none

/-- The own property of a value that is not null. -/
def property (key : JsString) : Json → Option Json
  | .obj fields => fields.lookup key
  | _ => none

/-! ### Conversion to a string -/

mutual

/-- `String(value)`, or nothing where it throws: an object with a field in the place of its `toString`. -/
def toText : Json → Option JsString
  | .null => some (js "null")
  | .bool b => some (if b then js "true" else js "false")
  | .num n => some (decimalInt n)
  | .str s => some s
  | .arr items => (itemTexts items).map joinComma
  | .obj fields => if (fields.lookup (js "toString")).isSome then none else some (js "[object Object]")

/-- The texts that an array joins; a null item counts as the empty text. -/
def itemTexts : List Json → Option (List JsString)
  | [] => some []
  | .null :: rest => (itemTexts rest).map ([] :: ·)
  | v :: rest => do
    let text ← toText v
    let texts ← itemTexts rest
    pure (text :: texts)

end

section Readers
variable (fields : List (JsString × Json)) (key : JsString)

def readStr : Option JsString := (fields.lookup key).bind asStr

def readNum : Option Int := (fields.lookup key).bind asNum

def readBool : Option Bool := (fields.lookup key).bind asBool

def readArr : Option (List Json) := (fields.lookup key).bind asArr

/-- An array of strings. -/
def readStrs : Option (List JsString) := (readArr fields key).bind fun items => items.mapM asStr

def readObj : Option (List (JsString × Json)) := (fields.lookup key).bind asObj

/-- A required constant. -/
def readConstant (text : JsString) : Option Unit := if readStr fields key = some text then some () else none

end Readers

/-- The fields in key order, at every depth. -/
def sorted (fields : List (JsString × Json)) : List (JsString × Json) := sortByKey (normalizeFields fields)

/-- Where no key stands twice, looking a key up is finding its field. -/
theorem lookup_eq_some_iff {α : Type} {l : List (JsString × α)} (hl : (l.map Prod.fst).Nodup) {k : JsString} {a : α} :
    l.lookup k = some a ↔ (k, a) ∈ l := by
  induction l with
  | nil => simp
  | cons f l ih =>
    obtain ⟨k', b⟩ := f
    rw [List.map_cons, List.nodup_cons] at hl
    by_cases hk : k = k'
    · subst hk
      rw [List.lookup_cons_self, Option.some.injEq, List.mem_cons, Prod.mk.injEq]
      constructor
      · rintro rfl
        exact .inl ⟨rfl, rfl⟩
      · rintro (⟨-, rfl⟩ | hin)
        · rfl
        · exact absurd (List.mem_map.mpr ⟨_, hin, rfl⟩) hl.1
    · rw [List.lookup_cons, beq_false_of_ne hk, List.mem_cons, Prod.mk.injEq]
      simp only [ih hl.2, hk, false_and, false_or]

theorem lookup_perm {α : Type} {l l' : List (JsString × α)} (h : l.Perm l') (hl : (l.map Prod.fst).Nodup)
    (k : JsString) : l.lookup k = l'.lookup k := by
  have hl' : (l'.map Prod.fst).Nodup := (h.map Prod.fst).nodup_iff.mp hl
  ext a
  rw [lookup_eq_some_iff hl, lookup_eq_some_iff hl', h.mem_iff]

theorem asStr_normalize (v : Json) : asStr (normalize v) = asStr v := by cases v <;> rfl

theorem asNum_normalize (v : Json) : asNum (normalize v) = asNum v := by cases v <;> rfl

theorem asBool_normalize (v : Json) : asBool (normalize v) = asBool v := by cases v <;> rfl

theorem mapM_asStr_normalizeItems (items : List Json) : (normalizeItems items).mapM asStr = items.mapM asStr := by
  induction items with
  | nil => rfl
  | cons v rest ih => rw [normalizeItems, List.mapM_cons, List.mapM_cons, asStr_normalize, ih]

theorem keys_sorted (fields : List (JsString × Json)) :
    ((sorted fields).map Prod.fst).Perm (fields.map Prod.fst) := by
  have hperm := (perm_sortByKey (normalizeFields fields)).map Prod.fst
  rwa [keys_normalizeFields] at hperm

section Sorted
variable {fields : List (JsString × Json)} (hn : (fields.map Prod.fst).Nodup) (key : JsString)
include hn

theorem lookup_sorted : (sorted fields).lookup key = (fields.lookup key).map normalize := by
  have hkeys : ((normalizeFields fields).map Prod.fst).Nodup := by rwa [keys_normalizeFields]
  have hperm := perm_sortByKey (normalizeFields fields)
  rw [sorted, lookup_perm hperm ((hperm.map Prod.fst).nodup_iff.mpr hkeys), normalizeFields_eq_map]
  clear hn hkeys hperm
  induction fields with
  | nil => rfl
  | cons f rest ih =>
    rw [List.map_cons, List.lookup_cons, List.lookup_cons, ih]
    cases key == f.1 <;> rfl

theorem readStr_sorted : readStr (sorted fields) key = readStr fields key := by
  rw [readStr, lookup_sorted hn, readStr]
  cases fields.lookup key with
  | none => rfl
  | some v => exact asStr_normalize v

theorem readNum_sorted : readNum (sorted fields) key = readNum fields key := by
  rw [readNum, lookup_sorted hn, readNum]
  cases fields.lookup key with
  | none => rfl
  | some v => exact asNum_normalize v

theorem readBool_sorted : readBool (sorted fields) key = readBool fields key := by
  rw [readBool, lookup_sorted hn, readBool]
  cases fields.lookup key with
  | none => rfl
  | some v => exact asBool_normalize v

theorem readStrs_sorted : readStrs (sorted fields) key = readStrs fields key := by
  rw [readStrs, readArr, lookup_sorted hn, readStrs, readArr]
  cases fields.lookup key with
  | none => rfl
  | some v =>
    cases v with
    | arr items => exact mapM_asStr_normalizeItems items
    | null => rfl
    | bool b => rfl
    | num n => rfl
    | str s => rfl
    | obj fields => rfl

theorem readObj_sorted : readObj (sorted fields) key = (readObj fields key).map sorted := by
  rw [readObj, lookup_sorted hn, readObj]
  cases fields.lookup key with
  | none => rfl
  | some v => cases v <;> rfl

theorem readConstant_sorted (text : JsString) : readConstant (sorted fields) key text = readConstant fields key text := by
  rw [readConstant, readConstant, readStr_sorted hn]

end Sorted

end Json
