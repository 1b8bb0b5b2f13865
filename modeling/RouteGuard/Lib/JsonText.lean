import RouteGuard.Lib.Decimal
import RouteGuard.Lib.Json

/-!
# Reading JSON text

* `Json.print` : the text of a value, fields in the order they stand;
* `Json.parse` : what `JSON.parse` reads, for texts whose numbers are integers;
* `Json.Distinct` : no object of the value has two fields with one key;
* `parse_print` : `parse` is the inverse of `print` on such values;
* `Json.normalize` : the fields of every object in key order;
* `Json.Same` : equality up to the order of the fields, `normalize_eq_iff`.
-/

open JsString

namespace Json

/-! ## Printing -/

mutual

def print : Json → JsString
  | .null => js "null"
  | .bool b => if b then js "true" else js "false"
  | .num n => decimalInt n
  | .str s => quote s
  | .arr items => js "[" ++ joinComma (printItems items) ++ js "]"
  | .obj fields => js "\x7b" ++ joinComma (printFields fields) ++ js "\x7d"

def printItems : List Json → List JsString
  | [] => []
  | v :: rest => print v :: printItems rest

def printFields : List (JsString × Json) → List JsString
  | [] => []
  | (k, v) :: rest => (quote k ++ js ":" ++ print v) :: printFields rest

end

/-! ## Parsing -/

def isSpace (u : UInt16) : Bool := u = 0x20 || u = 0x09 || u = 0x0A || u = 0x0D

def skipSpace (s : JsString) : JsString := s.dropWhile isSpace

/-- The code unit of four hexadecimal digits. -/
def hexUnit (a b c d : UInt16) : Option UInt16 :=
  (radixValue 16 [a, b, c, d]).map UInt16.ofNat

/-- The character after a backslash. -/
def escaped (e : UInt16) : Option UInt16 :=
  if e = 0x22 || e = 0x5C || e = 0x2F then some e
  else if e = 0x62 then some 0x08
  else if e = 0x74 then some 0x09
  else if e = 0x6E then some 0x0A
  else if e = 0x66 then some 0x0C
  else if e = 0x72 then some 0x0D
  else none

/-- The characters up to the closing quote, and what follows it. -/
def readChars : JsString → Option (JsString × JsString)
  | [] => none
  | u :: rest =>
    if u = 0x22 then some ([], rest)
    else if u = 0x5C then
      match rest with
      | [] => none
      | e :: rest =>
        if e = 0x75 then
          match rest with
          | a :: b :: c :: d :: rest =>
            (hexUnit a b c d).bind fun v => (readChars rest).map fun r => (v :: r.1, r.2)
          | _ => none
        else (escaped e).bind fun v => (readChars rest).map fun r => (v :: r.1, r.2)
    else if u < 0x20 then none
    else (readChars rest).map fun r => (u :: r.1, r.2)

/-- The digits of an integer; a fraction or an exponent is not read. -/
def readNatural (s : JsString) : Option (Nat × JsString) :=
  let digits := s.takeWhile isDigit
  let rest := s.dropWhile isDigit
  if isDecimal digits && rest.head? ≠ some 0x2E && rest.head? ≠ some 0x65 && rest.head? ≠ some 0x45 then
    some (digitsValue digits, rest)
  else none

def readNumber (s : JsString) : Option (Json × JsString) :=
  match s with
  | [] => none
  | u :: rest =>
    if u = 0x2D then (readNatural rest).map fun r => (.num (-(r.1 : Int)), r.2)
    else (readNatural s).map fun r => (.num r.1, r.2)

/-- What follows the expected text. -/
def readLiteral (text : JsString) (v : Json) (s : JsString) : Option (Json × JsString) :=
  if text.isPrefixOf s then some (v, s.drop text.length) else none

/-- A later field with the same key replaces an earlier one. -/
def addField (k : JsString) (v : Json) (later : List (JsString × Json)) : List (JsString × Json) :=
  if later.any fun f => f.1 = k then later else (k, v) :: later

mutual

def readValue : (fuel : Nat) → JsString → Option (Json × JsString)
  | 0, _ => none
  | fuel + 1, s =>
    match skipSpace s with
    | [] => none
    | u :: rest =>
      if u = 0x22 then (readChars rest).map fun r => (.str r.1, r.2)
      else if u = 0x5B then
        if (skipSpace rest).head? = some 0x5D then some (.arr [], (skipSpace rest).tail)
        else (readItems fuel rest).map fun r => (.arr r.1, r.2)
      else if u = 0x7B then
        if (skipSpace rest).head? = some 0x7D then some (.obj [], (skipSpace rest).tail)
        else (readFields fuel rest).map fun r => (.obj r.1, r.2)
      else if u = 0x6E then readLiteral (js "null") .null (u :: rest)
      else if u = 0x74 then readLiteral (js "true") (.bool true) (u :: rest)
      else if u = 0x66 then readLiteral (js "false") (.bool false) (u :: rest)
      else readNumber (u :: rest)

/-- The items up to the closing bracket. -/
def readItems : (fuel : Nat) → JsString → Option (List Json × JsString)
  | 0, _ => none
  | fuel + 1, s =>
    (readValue fuel s).bind fun r =>
      match skipSpace r.2 with
      | [] => none
      | u :: rest =>
        if u = 0x2C then (readItems fuel rest).map fun q => (r.1 :: q.1, q.2)
        else if u = 0x5D then some ([r.1], rest)
        else none

/-- The fields up to the closing brace. -/
def readFields : (fuel : Nat) → JsString → Option (List (JsString × Json) × JsString)
  | 0, _ => none
  | fuel + 1, s =>
    match skipSpace s with
    | [] => none
    | q :: s =>
      if q = 0x22 then
        (readChars s).bind fun key =>
          match skipSpace key.2 with
          | [] => none
          | colon :: s =>
            if colon = 0x3A then
              (readValue fuel s).bind fun r =>
                match skipSpace r.2 with
                | [] => none
                | u :: rest =>
                  if u = 0x2C then (readFields fuel rest).map fun q => (addField key.1 r.1 q.1, q.2)
                  else if u = 0x7D then some ([(key.1, r.1)], rest)
                  else none
            else none
      else none

end

/-- `JSON.parse(text)`; `none` where it throws. -/
def parse (text : JsString) : Option Json :=
  (readValue (text.length + 1) text).bind fun r => if skipSpace r.2 = [] then some r.1 else none

/-! ## Strings read back -/

theorem radixDigit_hexDigit {n : Nat} (h : n < 16) : radixDigit (hexDigit n) = some n := by
  interval_cases n <;> rfl

theorem hexUnit_hex4 (u : UInt16) :
    hexUnit (hexDigit (u.toNat / 4096 % 16)) (hexDigit (u.toNat / 256 % 16)) (hexDigit (u.toNat / 16 % 16))
      (hexDigit (u.toNat % 16)) = some u := by
  have hlt : u.toNat < 65536 := u.toNat_lt
  have hvalue : 16 * (16 * (16 * (16 * 0 + u.toNat / 4096 % 16) + u.toNat / 256 % 16) + u.toNat / 16 % 16) +
      u.toNat % 16 = u.toNat := by omega
  have hmod (m : Nat) : m % 16 < 16 := Nat.mod_lt _ (by omega)
  simp only [hexUnit, radixValue, List.foldl_cons, List.foldl_nil, Option.bind_some,
    radixDigit_hexDigit (hmod _), if_pos (hmod _), Option.map_some]
  rw [hvalue, UInt16.ofNat_toNat]

/-- An escape of one letter. -/
theorem readChars_escape {e v : UInt16} (he : e ≠ 0x75) (hv : escaped e = some v) (r : JsString) :
    readChars (0x5C :: e :: r) = (readChars r).map fun q => (v :: q.1, q.2) := by
  rw [readChars.eq_def]
  simp [he, hv]

theorem readChars_raw {u : UInt16} (h1 : u ≠ 0x22) (h2 : u ≠ 0x5C) (h3 : ¬ u < 0x20) (r : JsString) :
    readChars (u :: r) = (readChars r).map fun q => (u :: q.1, q.2) := by
  rw [readChars.eq_def]
  simp only [h1, h2, h3, if_false]

/-- A code unit as it is written alone. -/
theorem readChars_quoteUnit (u : UInt16) (r : JsString) :
    readChars (quoteUnit u ++ r) = (readChars r).map fun q => (u :: q.1, q.2) := by
  unfold quoteUnit
  split
  · next h => exact h ▸ readChars_escape (by decide) rfl r
  split
  · next h => exact h ▸ readChars_escape (by decide) rfl r
  split
  · next h => exact h ▸ readChars_escape (by decide) rfl r
  split
  · next h => exact h ▸ readChars_escape (by decide) rfl r
  split
  · next h => exact h ▸ readChars_escape (by decide) rfl r
  split
  · next h => exact h ▸ readChars_escape (by decide) rfl r
  split
  · next h => exact h ▸ readChars_escape (by decide) rfl r
  split
  · show readChars (0x5C :: 0x75 :: (hex4 u.toNat ++ r)) = _
    rw [readChars.eq_def]
    simp [hex4, hexUnit_hex4]
  · next h1 h2 _ _ _ _ _ h3 =>
    refine readChars_raw h1 h2 ?_ r
    intro hlt
    simp [hlt] at h3

theorem surrogate_raw {u : UInt16} (h : isHighSurrogate u ∨ isLowSurrogate u) :
    u ≠ 0x22 ∧ u ≠ 0x5C ∧ ¬ u < 0x20 := by
  have hn : 0xD800 ≤ u.toNat := by
    rcases h with h | h <;>
      simp only [isHighSurrogate, isLowSurrogate, Bool.and_eq_true, decide_eq_true_eq, UInt16.le_iff_toNat_le] at h
    · exact h.1
    · have := h.1
      have h' : (0xDC00 : UInt16).toNat = 0xDC00 := rfl
      omega
  refine ⟨?_, ?_, ?_⟩
  · rintro rfl
    exact absurd hn (by decide)
  · rintro rfl
    exact absurd hn (by decide)
  · intro hlt
    have h' := UInt16.lt_iff_toNat_lt.mp hlt
    have h'' : (0x20 : UInt16).toNat = 0x20 := rfl
    omega

theorem readChars_close (r : JsString) : readChars (0x22 :: r) = some ([], r) := by
  rw [readChars.eq_def]
  rfl

/-- A quoted string reads back, up to its closing quote. -/
theorem readChars_quoteUnits (s r : JsString) : readChars (quoteUnits s ++ 0x22 :: r) = some (s, r) := by
  induction s using quoteUnits.induct with
  | case1 => exact readChars_close r
  | case2 u =>
    rw [quoteUnits, readChars_quoteUnit, readChars_close]
    rfl
  | case3 u v rest hpair ih =>
    simp only [Bool.and_eq_true] at hpair
    obtain ⟨hu1, hu2, hu3⟩ := surrogate_raw (.inl hpair.1)
    obtain ⟨hv1, hv2, hv3⟩ := surrogate_raw (.inr hpair.2)
    rw [quoteUnits, if_pos (by simp [hpair]), List.cons_append, List.cons_append,
      readChars_raw hu1 hu2 hu3, readChars_raw hv1 hv2 hv3, ih]
    rfl
  | case4 u v rest hpair ih =>
    rw [quoteUnits, if_neg hpair, List.append_assoc, readChars_quoteUnit, ih]
    rfl

/-! ## Numbers read back -/

/-- What may follow a value inside a text. -/
def Ends (rest : JsString) : Prop := ∀ u r, rest = u :: r → u = 0x2C ∨ u = 0x5D ∨ u = 0x7D

theorem Ends.nil : Ends [] := by
  intro u r h
  cases h

theorem Ends.cons {u : UInt16} {r : JsString} (h : u = 0x2C ∨ u = 0x5D ∨ u = 0x7D) : Ends (u :: r) := by
  intro u' r' h'
  cases h'
  exact h

theorem Ends.head {rest : JsString} (h : Ends rest) (u : UInt16) (hu : u ≠ 0x2C ∧ u ≠ 0x5D ∧ u ≠ 0x7D) :
    rest.head? ≠ some u := by
  intro hhead
  cases rest with
  | nil => cases hhead
  | cons v r =>
    cases hhead
    rcases h u r rfl with h | h | h
    · exact hu.1 h
    · exact hu.2.1 h
    · exact hu.2.2 h

theorem readNatural_decimal (n : Nat) {rest : JsString} (hrest : Ends rest) :
    readNatural (decimal n ++ rest) = some (n, rest) := by
  have hdigits := List.all_eq_true.mp (all_isDigit_decimal n)
  have hstop : rest.takeWhile isDigit = [] ∧ rest.dropWhile isDigit = rest := by
    cases rest with
    | nil => exact ⟨rfl, rfl⟩
    | cons u r =>
      have hu : isDigit u = false := by rcases hrest u r rfl with rfl | rfl | rfl <;> rfl
      simp [hu]
  have htake : (decimal n ++ rest).takeWhile isDigit = decimal n := by
    rw [List.takeWhile_append_of_pos hdigits, hstop.1, List.append_nil]
  have hdrop : (decimal n ++ rest).dropWhile isDigit = rest := by
    rw [List.dropWhile_append_of_pos hdigits, hstop.2]
  unfold readNatural
  simp only [htake, hdrop]
  rw [if_pos, digitsValue_decimal]
  simp [isDecimal_decimal, hrest.head 0x2E (by decide), hrest.head 0x65 (by decide), hrest.head 0x45 (by decide)]

theorem isDigit_ne {u : UInt16} (h : isDigit u = true) :
    isSpace u = false ∧ u ≠ 0x22 ∧ u ≠ 0x5B ∧ u ≠ 0x7B ∧ u ≠ 0x6E ∧ u ≠ 0x74 ∧ u ≠ 0x66 ∧ u ≠ 0x2D := by
  obtain ⟨hlow, hhigh⟩ := isDigit_iff.mp h
  have hne (v : UInt16) (hv : v.toNat < 0x30 ∨ 0x39 < v.toNat) : u ≠ v := by
    rintro rfl
    omega
  refine ⟨?_, hne _ (by decide), hne _ (by decide), hne _ (by decide), hne _ (by decide), hne _ (by decide),
    hne _ (by decide), hne _ (by decide)⟩
  simp [isSpace, hne 0x20 (by decide), hne 0x09 (by decide), hne 0x0A (by decide), hne 0x0D (by decide)]

/-- A digit starts a number. -/
theorem readValue_digit {u : UInt16} (h : isDigit u = true) (fuel : Nat) (r : JsString) :
    readValue (fuel + 1) (u :: r) = (readNatural (u :: r)).map fun q => (.num q.1, q.2) := by
  obtain ⟨hspace, h1, h2, h3, h4, h5, h6, h7⟩ := isDigit_ne h
  simp [readValue, skipSpace, hspace, h1, h2, h3, h4, h5, h6, h7, readNumber]

theorem readValue_num (n : Int) (fuel : Nat) {rest : JsString} (hrest : Ends rest) :
    readValue (fuel + 1) (decimalInt n ++ rest) = some (.num n, rest) := by
  cases n with
  | ofNat n =>
    show readValue (fuel + 1) (decimal n ++ rest) = _
    have hread := readNatural_decimal n hrest
    have hdigits := all_isDigit_decimal n
    cases hd : decimal n with
    | nil => exact absurd hd (decimal_ne_nil n)
    | cons u r =>
      rw [hd] at hread hdigits
      have hu : isDigit u = true := by
        rw [List.all_cons, Bool.and_eq_true] at hdigits
        exact hdigits.1
      rw [List.cons_append] at hread ⊢
      rw [readValue_digit hu, hread]
      rfl
  | negSucc n =>
    show readValue (fuel + 1) (0x2D :: (decimal (n + 1) ++ rest)) = _
    have hread := readNatural_decimal (n + 1) hrest
    show (readNatural (decimal (n + 1) ++ rest)).map _ = _
    rw [hread]
    rfl

/-! ## Values read back -/

mutual

/-- No object has two fields with one key. -/
def Distinct : Json → Prop
  | .null => True
  | .bool _ => True
  | .num _ => True
  | .str _ => True
  | .arr items => DistinctItems items
  | .obj fields => (fields.map Prod.fst).Nodup ∧ DistinctFields fields

def DistinctItems : List Json → Prop
  | [] => True
  | v :: rest => Distinct v ∧ DistinctItems rest

def DistinctFields : List (JsString × Json) → Prop
  | [] => True
  | (_, v) :: rest => Distinct v ∧ DistinctFields rest

end

theorem addField_of_not_mem {k : JsString} {v : Json} {later : List (JsString × Json)}
    (h : k ∉ later.map Prod.fst) : addField k v later = (k, v) :: later := by
  unfold addField
  rw [if_neg]
  intro hany
  obtain ⟨f, hf, hk⟩ := List.any_eq_true.mp hany
  exact h (List.mem_map.mpr ⟨f, hf, of_decide_eq_true hk⟩)

/-- The first character of a value: no space, and no bracket that closes. -/
theorem print_head (v : Json) : ∃ u r, print v = u :: r ∧ isSpace u = false ∧ u ≠ 0x5D := by
  cases v with
  | null => exact ⟨_, _, rfl, rfl, by decide⟩
  | bool b =>
    cases b with
    | true => exact ⟨_, _, rfl, rfl, by decide⟩
    | false => exact ⟨_, _, rfl, rfl, by decide⟩
  | num n =>
    cases n with
    | ofNat n =>
      have hdigits := all_isDigit_decimal n
      cases hd : decimal n with
      | nil => exact absurd hd (decimal_ne_nil n)
      | cons u r =>
        rw [hd, List.all_cons, Bool.and_eq_true] at hdigits
        refine ⟨u, r, ?_, (isDigit_ne hdigits.1).1, ?_⟩
        · rw [print]
          exact hd
        · rintro rfl
          exact absurd hdigits.1 (by decide)
    | negSucc n => exact ⟨_, _, rfl, rfl, by decide⟩
  | str s => exact ⟨_, _, rfl, rfl, by decide⟩
  | arr items => exact ⟨_, _, rfl, rfl, by decide⟩
  | obj fields => exact ⟨_, _, rfl, rfl, by decide⟩

theorem print_length_pos (v : Json) : 0 < (print v).length := by
  obtain ⟨u, t, hv, -, -⟩ := print_head v
  rw [hv, List.length_cons]
  omega

theorem print_arr (items : List Json) :
    print (.arr items) = 0x5B :: (joinComma (printItems items) ++ [0x5D]) := rfl

theorem print_obj (fields : List (JsString × Json)) :
    print (.obj fields) = 0x7B :: (joinComma (printFields fields) ++ [0x7D]) := rfl

theorem joinComma_cons_cons (x y : JsString) (rest : List JsString) :
    joinComma (x :: y :: rest) = x ++ 0x2C :: joinComma (y :: rest) := by
  rw [joinComma, List.append_assoc]
  rfl

theorem joinComma_head (x : JsString) (rest : List JsString) : ∃ t, joinComma (x :: rest) = x ++ t := by
  cases rest with
  | nil => exact ⟨[], (List.append_nil x).symm⟩
  | cons y rest => exact ⟨_, joinComma_cons_cons x y rest⟩

/-- The text of a field up to its value. -/
theorem printField_eq (k : JsString) (v : Json) :
    quote k ++ js ":" ++ print v = 0x22 :: (quoteUnits k ++ 0x22 :: 0x3A :: print v) := by
  show 0x22 :: (((quoteUnits k ++ [0x22]) ++ [0x3A]) ++ print v) = _
  simp

mutual

theorem readValue_print : ∀ (v : Json) (fuel : Nat) (rest : JsString), Distinct v →
    (print v).length ≤ fuel → Ends rest → readValue fuel (print v ++ rest) = some (v, rest)
  | v, 0, _, _, hfuel, _ => absurd hfuel (by have := print_length_pos v; omega)
  | .null, _ + 1, _, _, _, _ => rfl
  | .bool true, _ + 1, _, _, _, _ => rfl
  | .bool false, _ + 1, _, _, _, _ => rfl
  | .num n, fuel + 1, _, _, _, hrest => readValue_num n fuel hrest
  | .str s, fuel + 1, rest, _, _, _ => by
    show (readChars ((quoteUnits s ++ [0x22]) ++ rest)).map _ = _
    rw [List.append_assoc, List.singleton_append, readChars_quoteUnits]
    rfl
  | .arr [], _ + 1, _, _, _, _ => rfl
  | .arr (v :: items), fuel + 1, rest, hd, hfuel, _ => by
    rw [print_arr, List.length_cons, List.length_append, List.length_singleton] at hfuel
    have hitems := readItems_print v items fuel rest hd (by omega)
    -- the first item is not the closing bracket
    obtain ⟨u, t, hv, hu, hu'⟩ := print_head v
    obtain ⟨t', ht'⟩ := joinComma_head (print v) (printItems items)
    have htext : joinComma (printItems (v :: items)) ++ 0x5D :: rest = u :: (t ++ t' ++ 0x5D :: rest) := by
      rw [printItems, ht', hv]
      simp
    rw [print_arr, List.cons_append, List.append_assoc, List.singleton_append]
    rw [htext] at hitems ⊢
    show (if (skipSpace (u :: _)).head? = some 0x5D then _ else _) = _
    rw [skipSpace, List.dropWhile_cons_of_neg (by simp [hu]), List.head?_cons, if_neg (by simp [hu']), hitems]
    rfl
  | .obj [], _ + 1, _, _, _, _ => rfl
  | .obj ((k, v) :: fields), fuel + 1, rest, hd, hfuel, _ => by
    rw [print_obj, List.length_cons, List.length_append, List.length_singleton] at hfuel
    have hfields := readFields_print k v fields fuel rest hd.1 hd.2 (by omega)
    obtain ⟨t, ht⟩ := joinComma_head (quote k ++ js ":" ++ print v) (printFields fields)
    rw [printFields, ht, printField_eq, List.cons_append, List.cons_append] at hfields
    rw [print_obj, printFields, ht, printField_eq]
    simp only [List.cons_append, List.append_assoc, List.nil_append] at hfields ⊢
    show (readFields fuel _).map _ = _
    rw [hfields]
    rfl

theorem readItems_print : ∀ (v : Json) (items : List Json) (fuel : Nat) (rest : JsString),
    DistinctItems (v :: items) → (joinComma (printItems (v :: items))).length + 1 ≤ fuel →
    readItems fuel (joinComma (printItems (v :: items)) ++ 0x5D :: rest) = some (v :: items, rest)
  | _, _, 0, _, _, hfuel => absurd hfuel (by omega)
  | v, [], fuel + 1, rest, hd, hfuel => by
    have hv := readValue_print v fuel (0x5D :: rest) hd.1 (by simpa [printItems, joinComma] using hfuel)
      (.cons (by decide))
    simp only [printItems, joinComma, readItems, hv]
    rfl
  | v, w :: items, fuel + 1, rest, hd, hfuel => by
    rw [printItems, printItems, joinComma_cons_cons, List.length_append, List.length_cons] at hfuel
    have hv := readValue_print v fuel (0x2C :: (joinComma (printItems (w :: items)) ++ 0x5D :: rest)) hd.1
      (by omega) (.cons (by decide))
    have hitems := readItems_print w items fuel rest hd.2 (by rw [printItems]; omega)
    rw [printItems, printItems, joinComma_cons_cons, ← printItems, List.append_assoc, List.cons_append, readItems,
      hv, Option.bind_some]
    show (readItems fuel _).map _ = _
    rw [hitems]
    rfl

theorem readFields_print : ∀ (k : JsString) (v : Json) (fields : List (JsString × Json)) (fuel : Nat)
    (rest : JsString), (((k, v) :: fields).map Prod.fst).Nodup → DistinctFields ((k, v) :: fields) →
    (joinComma (printFields ((k, v) :: fields))).length + 1 ≤ fuel →
    readFields fuel (joinComma (printFields ((k, v) :: fields)) ++ 0x7D :: rest) = some ((k, v) :: fields, rest)
  | _, _, _, 0, _, _, _, hfuel => absurd hfuel (by omega)
  | k, v, [], fuel + 1, rest, _, hd, hfuel => by
    rw [printFields, printFields, joinComma, printField_eq] at hfuel ⊢
    have hv := readValue_print v fuel (0x7D :: rest) hd.1 (by simp at hfuel; omega) (.cons (by decide))
    rw [List.cons_append, List.append_assoc, List.cons_append, List.cons_append, readFields]
    show (readChars _).bind _ = _
    rw [readChars_quoteUnits, Option.bind_some]
    show (readValue fuel _).bind _ = _
    rw [hv]
    rfl
  | k, v, (k', w) :: fields, fuel + 1, rest, hn, hd, hfuel => by
    rw [List.map_cons, List.nodup_cons] at hn
    rw [printFields, printFields, joinComma_cons_cons, ← printFields, printField_eq] at hfuel ⊢
    simp only [List.length_append, List.length_cons] at hfuel
    have hv := readValue_print v fuel (0x2C :: (joinComma (printFields ((k', w) :: fields)) ++ 0x7D :: rest)) hd.1
      (by omega) (.cons (by decide))
    have hfields := readFields_print k' w fields fuel rest hn.2 hd.2 (by omega)
    rw [List.cons_append, List.cons_append, List.append_assoc, List.append_assoc, List.cons_append, List.cons_append,
      List.cons_append, readFields]
    show (readChars _).bind _ = _
    rw [readChars_quoteUnits, Option.bind_some]
    show (readValue fuel _).bind _ = _
    rw [hv, Option.bind_some]
    show (readFields fuel _).map _ = _
    rw [hfields, Option.map_some, addField_of_not_mem hn.1]

end

/-- Reading inverts printing. -/
theorem parse_print {v : Json} (h : Distinct v) : parse (print v) = some v := by
  have hread := readValue_print v ((print v).length + 1) [] h (by omega) .nil
  rw [List.append_nil] at hread
  rw [parse, hread]
  rfl

theorem print_injective {v w : Json} (hv : Distinct v) (hw : Distinct w) (h : print v = print w) : v = w := by
  have hread := parse_print hv
  rw [h, parse_print hw] at hread
  exact (Option.some.inj hread).symm

/-! ## Fields in key order -/

mutual

def normalize : Json → Json
  | .null => .null
  | .bool b => .bool b
  | .num n => .num n
  | .str s => .str s
  | .arr items => .arr (normalizeItems items)
  | .obj fields => .obj (sortByKey (normalizeFields fields))

def normalizeItems : List Json → List Json
  | [] => []
  | v :: rest => normalize v :: normalizeItems rest

def normalizeFields : List (JsString × Json) → List (JsString × Json)
  | [] => []
  | (k, v) :: rest => (k, normalize v) :: normalizeFields rest

end

theorem normalizeFields_eq_map (fields : List (JsString × Json)) :
    normalizeFields fields = fields.map fun f => (f.1, normalize f.2) := by
  induction fields with
  | nil => rfl
  | cons f rest ih => rw [normalizeFields, ih, List.map_cons]

theorem printFields_eq_map (fields : List (JsString × Json)) :
    printFields fields = fields.map fun f => quote f.1 ++ js ":" ++ print f.2 := by
  induction fields with
  | nil => rfl
  | cons f rest ih => rw [printFields, ih, List.map_cons]

theorem keys_normalizeFields (fields : List (JsString × Json)) :
    (normalizeFields fields).map Prod.fst = fields.map Prod.fst := by
  rw [normalizeFields_eq_map, List.map_map]
  rfl

theorem perm_sortByKey {α : Type} (fields : List (JsString × α)) : (sortByKey fields).Perm fields :=
  List.perm_insertionSort _ _

/-- Sorting looks at the keys only. -/
theorem sortByKey_map {α β : Type} (g : α → β) (fields : List (JsString × α)) :
    sortByKey (fields.map fun f => (f.1, g f.2)) = (sortByKey fields).map fun f => (f.1, g f.2) :=
  (List.map_insertionSort _ _ _ _ (by intros; rfl)).symm

theorem pairwise_sortByKey {α : Type} (fields : List (JsString × α)) :
    (sortByKey fields).Pairwise fun a b => a.1 ≤ b.1 := by
  have _ : Std.Total fun a b : JsString × α => a.1 ≤ b.1 := ⟨fun a b => List.le_total a.1 b.1⟩
  have _ : IsTrans (JsString × α) fun a b => a.1 ≤ b.1 := ⟨fun _ _ _ => List.le_trans⟩
  exact List.pairwise_insertionSort _ _

theorem sortByKey_sortByKey {α : Type} (fields : List (JsString × α)) :
    sortByKey (sortByKey fields) = sortByKey fields :=
  (pairwise_sortByKey fields).insertionSort_eq

/-- One list sorted in two ways, when no key stands twice. -/
theorem sortByKey_congr {α : Type} {fields fields' : List (JsString × α)} (hn : (fields.map Prod.fst).Nodup)
    (h : fields.Perm fields') : sortByKey fields = sortByKey fields' := by
  refine List.Perm.eq_of_pairwise ?_ (pairwise_sortByKey fields) (pairwise_sortByKey fields')
    ((perm_sortByKey fields).trans (h.trans (perm_sortByKey fields').symm))
  intro a b ha hb hab hba
  have ha' : a ∈ fields := (perm_sortByKey fields).mem_iff.mp ha
  have hb' : b ∈ fields := h.mem_iff.mpr ((perm_sortByKey fields').mem_iff.mp hb)
  exact List.inj_on_of_nodup_map hn ha' hb' (List.le_antisymm hab hba)

mutual

theorem normalize_normalize : ∀ v : Json, normalize (normalize v) = normalize v
  | .null => rfl
  | .bool _ => rfl
  | .num _ => rfl
  | .str _ => rfl
  | .arr items => by rw [normalize, normalize, normalizeItems_normalizeItems items]
  | .obj fields => by
    have hfields := normalizeFields_normalizeFields fields
    rw [normalize, normalize, normalizeFields_eq_map (sortByKey _), ← sortByKey_map, ← normalizeFields_eq_map,
      hfields, sortByKey_sortByKey]

theorem normalizeItems_normalizeItems : ∀ items : List Json,
    normalizeItems (normalizeItems items) = normalizeItems items
  | [] => rfl
  | v :: rest => by
    rw [normalizeItems, normalizeItems, normalize_normalize v, normalizeItems_normalizeItems rest]

theorem normalizeFields_normalizeFields : ∀ fields : List (JsString × Json),
    normalizeFields (normalizeFields fields) = normalizeFields fields
  | [] => rfl
  | (k, v) :: rest => by
    rw [normalizeFields, normalizeFields, normalize_normalize v, normalizeFields_normalizeFields rest]

end

theorem distinctFields_iff (fields : List (JsString × Json)) :
    DistinctFields fields ↔ ∀ f ∈ fields, Distinct f.2 := by
  induction fields with
  | nil => simp [DistinctFields]
  | cons f rest ih => simp [DistinctFields, ih]

mutual

theorem Distinct.normalize : ∀ {v : Json}, Distinct v → Distinct (normalize v)
  | .null, _ => trivial
  | .bool _, _ => trivial
  | .num _, _ => trivial
  | .str _, _ => trivial
  | .arr _, h => DistinctItems.normalize h
  | .obj fields, h => by
    have hperm := perm_sortByKey (normalizeFields fields)
    constructor
    · rw [(hperm.map Prod.fst).nodup_iff, keys_normalizeFields]
      exact h.1
    · rw [distinctFields_iff]
      intro f hf
      exact (distinctFields_iff _).mp (DistinctFields.normalize h.2) f (hperm.mem_iff.mp hf)

theorem DistinctItems.normalize : ∀ {items : List Json}, DistinctItems items → DistinctItems (normalizeItems items)
  | [], _ => trivial
  | _ :: _, h => ⟨h.1.normalize, DistinctItems.normalize h.2⟩

theorem DistinctFields.normalize : ∀ {fields : List (JsString × Json)}, DistinctFields fields →
    DistinctFields (normalizeFields fields)
  | [], _ => trivial
  | (_, _) :: _, h => ⟨h.1.normalize, DistinctFields.normalize h.2⟩

end

/-! ## Equality up to the order of the fields -/

mutual

/-- The two values are equal, where the fields of an object may stand in any order: the objects have as many
fields, and each field of the first has one in the second with the same key and the same value. -/
def Same : Json → Json → Prop
  | .null, .null => True
  | .bool a, .bool b => a = b
  | .num m, .num n => m = n
  | .str s, .str t => s = t
  | .arr items, .arr items' => SameItems items items'
  | .obj fields, .obj fields' => fields.length = fields'.length ∧ SameFields fields fields'
  | _, _ => False

def SameItems : List Json → List Json → Prop
  | [], [] => True
  | v :: rest, w :: rest' => Same v w ∧ SameItems rest rest'
  | _, _ => False

def SameFields : List (JsString × Json) → List (JsString × Json) → Prop
  | [], _ => True
  | (k, v) :: rest, fields => (∃ w, (k, w) ∈ fields ∧ Same v w) ∧ SameFields rest fields

end

theorem mem_normalizeFields {k : JsString} {v : Json} {fields : List (JsString × Json)} :
    (k, v) ∈ normalizeFields fields ↔ ∃ w, (k, w) ∈ fields ∧ v = normalize w := by
  rw [normalizeFields_eq_map]
  simp only [List.mem_map, Prod.exists, Prod.mk.injEq]
  constructor
  · rintro ⟨k', w, hmem, rfl, rfl⟩
    exact ⟨w, hmem, rfl⟩
  · rintro ⟨w, hmem, rfl⟩
    exact ⟨k, w, hmem, rfl, rfl⟩

/-- Two field lists sort to one when they have one length and one holds the fields of the other. -/
theorem sortByKey_normalizeFields {fields fields' : List (JsString × Json)} (hn : (fields.map Prod.fst).Nodup) :
    sortByKey (normalizeFields fields) = sortByKey (normalizeFields fields') ↔
      fields.length = fields'.length ∧ normalizeFields fields ⊆ normalizeFields fields' := by
  have hkeys : ((normalizeFields fields).map Prod.fst).Nodup := by
    rw [keys_normalizeFields]
    exact hn
  have hlength (l : List (JsString × Json)) : (normalizeFields l).length = l.length := by
    rw [normalizeFields_eq_map, List.length_map]
  constructor
  · intro h
    have hperm : (normalizeFields fields).Perm (normalizeFields fields') :=
      (perm_sortByKey _).symm.trans (h ▸ perm_sortByKey _)
    refine ⟨?_, hperm.subset⟩
    rw [← hlength fields, ← hlength fields', hperm.length_eq]
  · rintro ⟨hlen, hsub⟩
    have hperm := (List.Nodup.of_map Prod.fst hkeys).subperm hsub
    exact sortByKey_congr hkeys (hperm.perm_of_length_le (by rw [hlength, hlength, hlen]))

mutual

theorem normalize_eq_iff : ∀ {v w : Json}, Distinct v → (normalize v = normalize w ↔ Same v w)
  | .null, w, _ => by cases w <;> simp [normalize, Same]
  | .bool _, w, _ => by cases w <;> simp [normalize, Same]
  | .num _, w, _ => by cases w <;> simp [normalize, Same]
  | .str _, w, _ => by cases w <;> simp [normalize, Same]
  | .arr _, w, h => by cases w <;> simp [normalize, Same, normalizeItems_eq_iff h]
  | .obj _, w, h => by
    cases w <;> simp [normalize, Same, sortByKey_normalizeFields h.1, normalizeFields_subset_iff h.2]

theorem normalizeItems_eq_iff : ∀ {items items' : List Json}, DistinctItems items →
    (normalizeItems items = normalizeItems items' ↔ SameItems items items')
  | [], items', _ => by cases items' <;> simp [normalizeItems, SameItems]
  | _ :: _, items', h => by
    cases items' <;> simp [normalizeItems, SameItems, normalize_eq_iff h.1, normalizeItems_eq_iff h.2]

theorem normalizeFields_subset_iff : ∀ {fields fields' : List (JsString × Json)}, DistinctFields fields →
    (normalizeFields fields ⊆ normalizeFields fields' ↔ SameFields fields fields')
  | [], _, _ => by simp [normalizeFields, SameFields]
  | (_, _) :: _, _, h => by
    simp [normalizeFields, SameFields, mem_normalizeFields, normalize_eq_iff h.1, normalizeFields_subset_iff h.2]

end

end Json
