import RouteGuard.Lib.JsonText

/-!
# Canonical JSON and its hashes

* `Json.canonicalize` : the canonical text of a value, object keys in code-unit order;
* `canonicalSha256` : `sha256:` and the hexadecimal digest of the canonical text. The digest is a parameter:
  nothing here depends on how SHA-256 works;
* `canonicalize_injective_up_to_key_order` : two values have one canonical text exactly when they are equal up
  to the order of their fields.
-/

open JsString

namespace Json

mutual

def canonicalize : Json → JsString
  | .null => js "null"
  | .bool b => if b then js "true" else js "false"
  | .num n => decimalInt n
  | .str s => quote s
  | .arr items => js "[" ++ joinComma (canonicalizeItems items) ++ js "]"
  | .obj fields =>
    js "\x7b" ++
      joinComma ((sortByKey (canonicalizeFields fields)).map fun f => quote f.1 ++ js ":" ++ f.2) ++ js "\x7d"

def canonicalizeItems : List Json → List JsString
  | [] => []
  | v :: rest => canonicalize v :: canonicalizeItems rest

def canonicalizeFields : List (JsString × Json) → List (JsString × JsString)
  | [] => []
  | (k, v) :: rest => (k, canonicalize v) :: canonicalizeFields rest

end

mutual

/-- The canonical text is the text of the value with its fields in key order. -/
theorem canonicalize_eq_print : ∀ v : Json, canonicalize v = print (normalize v)
  | .null => rfl
  | .bool _ => rfl
  | .num _ => rfl
  | .str _ => rfl
  | .arr items => by rw [canonicalize, normalize, print, canonicalizeItems_eq_print items]
  | .obj fields => by
    rw [canonicalize, normalize, print, canonicalizeFields_eq_print fields, sortByKey_map, List.map_map,
      printFields_eq_map]
    rfl

theorem canonicalizeItems_eq_print : ∀ items : List Json, canonicalizeItems items = printItems (normalizeItems items)
  | [] => rfl
  | v :: rest => by
    rw [canonicalizeItems, normalizeItems, printItems, canonicalize_eq_print v, canonicalizeItems_eq_print rest]

theorem canonicalizeFields_eq_print : ∀ fields : List (JsString × Json),
    canonicalizeFields fields = (normalizeFields fields).map fun f => (f.1, print f.2)
  | [] => rfl
  | (k, v) :: rest => by
    rw [canonicalizeFields, normalizeFields, List.map_cons, canonicalize_eq_print v, canonicalizeFields_eq_print rest]

end

theorem canonicalize_eq_iff {v w : Json} (hv : Distinct v) (hw : Distinct w) :
    canonicalize v = canonicalize w ↔ Same v w := by
  rw [canonicalize_eq_print, canonicalize_eq_print, ← normalize_eq_iff hv]
  constructor
  · exact print_injective hv.normalize hw.normalize
  · exact congrArg print

theorem parse_canonicalize {v : Json} (hv : Distinct v) : parse (canonicalize v) = some (normalize v) := by
  rw [canonicalize_eq_print]
  exact parse_print hv.normalize

theorem canonicalize_normalize (v : Json) : canonicalize (normalize v) = canonicalize v := by
  rw [canonicalize_eq_print, normalize_normalize, ← canonicalize_eq_print]

/-! ### Texts of records

The text of an object with fixed keys determines the texts of its values. -/

theorem canonicalize_str_inj {s t : JsString} : canonicalize (.str s) = canonicalize (.str t) ↔ s = t := by
  have hd (u : JsString) : Distinct (.str u) := trivial
  rw [canonicalize_eq_iff (hd s) (hd t)]
  exact Iff.rfl

theorem canonicalize_num_inj {m n : Int} : canonicalize (.num m) = canonicalize (.num n) ↔ m = n := by
  have hd (k : Int) : Distinct (.num k) := trivial
  rw [canonicalize_eq_iff (hd m) (hd n)]
  exact Iff.rfl

theorem canonicalize_bool_inj {b c : Bool} : canonicalize (.bool b) = canonicalize (.bool c) ↔ b = c := by
  have hd (k : Bool) : Distinct (.bool k) := trivial
  rw [canonicalize_eq_iff (hd b) (hd c)]
  exact Iff.rfl

/-- Two lists with the same keys in the same order, each once, where one holds the fields of the other. -/
theorem eq_of_keys_eq {α : Type} {fields fields' : List (JsString × α)}
    (hkeys : fields.map Prod.fst = fields'.map Prod.fst) (hn : (fields.map Prod.fst).Nodup)
    (hsub : fields ⊆ fields') : fields = fields' := by
  induction fields generalizing fields' with
  | nil =>
    cases fields' with
    | nil => rfl
    | cons g gs => cases hkeys
  | cons f fs ih =>
    cases fields' with
    | nil => cases hkeys
    | cons g gs =>
      rw [List.map_cons, List.map_cons] at hkeys
      obtain ⟨-, htail⟩ := List.cons.inj hkeys
      obtain ⟨hf, hn⟩ := List.nodup_cons.mp hn
      have hfg : f = g := by
        rcases List.mem_cons.mp (hsub List.mem_cons_self) with h | h
        · exact h
        · rw [htail] at hf
          exact absurd (List.mem_map_of_mem h) hf
      subst hfg
      rw [ih htail hn]
      intro x hx
      rcases List.mem_cons.mp (hsub (List.mem_cons_of_mem _ hx)) with rfl | h
      · exact absurd (List.mem_map_of_mem hx) hf
      · exact h

theorem canonicalize_obj_values {fields fields' : List (JsString × Json)}
    (hkeys : fields.map Prod.fst = fields'.map Prod.fst) (hd : Distinct (.obj fields)) (hd' : Distinct (.obj fields'))
    (h : canonicalize (.obj fields) = canonicalize (.obj fields')) :
    fields.map (fun f => canonicalize f.2) = fields'.map (fun f => canonicalize f.2) := by
  have hsame := (canonicalize_eq_iff hd hd').mp h
  have hsub := (normalizeFields_subset_iff hd.2).mpr hsame.2
  have heq := eq_of_keys_eq (by rw [keys_normalizeFields, keys_normalizeFields, hkeys])
    (by rw [keys_normalizeFields]; exact hd.1) hsub
  rw [normalizeFields_eq_map, normalizeFields_eq_map] at heq
  have htexts := congrArg (List.map fun f => print f.2) heq
  rw [List.map_map, List.map_map] at htexts
  simp only [canonicalize_eq_print]
  exact htexts

theorem distinctItems_iff (items : List Json) : DistinctItems items ↔ ∀ v ∈ items, Distinct v := by
  induction items with
  | nil => simp [DistinctItems]
  | cons v rest ih => simp [DistinctItems, ih]

/-- Lists of records have one text only if they are equal. -/
theorem canonicalize_arr_inj {α : Type} {f : α → Json} (hd : ∀ a, Distinct (f a))
    (hinj : ∀ a b, canonicalize (f a) = canonicalize (f b) → a = b) {as bs : List α}
    (h : canonicalize (.arr (as.map f)) = canonicalize (.arr (bs.map f))) : as = bs := by
  have hall (l : List α) : Distinct (.arr (l.map f)) := by
    refine (distinctItems_iff _).mpr ?_
    intro v hv
    obtain ⟨a, -, rfl⟩ := List.mem_map.mp hv
    exact hd a
  have hsame : SameItems (as.map f) (bs.map f) := (canonicalize_eq_iff (hall as) (hall bs)).mp h
  clear h
  induction as generalizing bs with
  | nil =>
    cases bs with
    | nil => rfl
    | cons b bs => cases hsame
  | cons a as ih =>
    cases bs with
    | nil => cases hsame
    | cons b bs => rw [hinj a b ((canonicalize_eq_iff (hd a) (hd b)).mpr hsame.1), ih hsame.2]

end Json

namespace RouteGuard
open Json

/-- `canonicalSha256(value)`, given the digest of a text. -/
def canonicalSha256 (sha256Hex : JsString → JsString) (value : Json) : JsString :=
  js "sha256:" ++ sha256Hex value.canonicalize

/-- A value `JSON` can hold: an object has each key once. -/
structure JsonValue where
  json : Json
  distinct : json.Distinct

/-- Canonical texts are equal exactly for values equal up to the order of object keys, and reading a canonical
text and writing it again changes nothing. -/
theorem canonicalize_injective_up_to_key_order (a b : JsonValue) :
    (a.json.canonicalize = b.json.canonicalize ↔ Same a.json b.json) ∧
      (parse a.json.canonicalize).map canonicalize = some a.json.canonicalize := by
  constructor
  · exact canonicalize_eq_iff a.distinct b.distinct
  · rw [parse_canonicalize a.distinct, Option.map_some, canonicalize_normalize]

-- keys in code-unit order, an escaped key, a nested value
example :
    canonicalize (.obj [(js "b", .arr [.num (-7)]), (js "\"", .null)]) = js "\x7b\"\\\"\":null,\"b\":[-7]\x7d" :=
  rfl

end RouteGuard
