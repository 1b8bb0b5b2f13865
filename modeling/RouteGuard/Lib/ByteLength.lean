import RouteGuard.Lib.ObjectFields
import RouteGuard.Lib.PlainText

/-!
# The bytes of a canonical text

The length of a canonical text in UTF-8, exactly: an object and an array add up what they hold, in whatever order
it is written.

* `byteLength`, `quotedLength` : the lengths;
* `byteLength_obj`, `byteLength_arr` : each field and each item adds itself and a separator;
* `byteLength_obj_keys` : the keys and the values of an object, apart;
* `byteLength_obj_le` : the length grows with the values.
-/

open JsString TextCodec

namespace Json

/-- The canonical text in UTF-8. -/
def byteLength (v : Json) : Nat := (Sha256.utf8 v.canonicalize).length

/-- A quoted text in UTF-8. -/
def quotedLength (s : JsString) : Nat := (Sha256.utf8 (quote s)).length

theorem utf8_append {s : JsString} (h : WellFormed s) (t : JsString) :
    Sha256.utf8 (s ++ t) = Sha256.utf8 s ++ Sha256.utf8 t := by
  refine h.rec_on (P := fun s => Sha256.utf8 (s ++ t) = Sha256.utf8 s ++ Sha256.utf8 t) rfl ?_ ?_
  · intro u s hhigh hlow _ ih
    rw [List.cons_append, utf8_cons hhigh hlow, utf8_cons hhigh hlow, ih, List.append_assoc]
  · intro u v s hhigh hlow _ ih
    rw [List.cons_append, List.cons_append, utf8_pair hhigh hlow, utf8_pair hhigh hlow, ih, List.append_assoc]

theorem length_utf8_append {s : JsString} (h : WellFormed s) (t : JsString) :
    (Sha256.utf8 (s ++ t)).length = (Sha256.utf8 s).length + (Sha256.utf8 t).length := by
  rw [utf8_append h, List.length_append]

theorem wellFormed_canonicalize (v : Json) : WellFormed v.canonicalize := by
  rw [canonicalize_eq_print]
  exact wellFormed_print _

theorem wellFormed_fieldText {f : JsString × JsString} (h : WellFormed f.2) : WellFormed (fieldText f) :=
  ((wellFormed_quote f.1).append (wellFormed_ascii (by decide))).append h

/-- One separator between two texts. -/
theorem length_utf8_joinComma {texts : List JsString} (hne : texts ≠ []) (h : ∀ t ∈ texts, WellFormed t) :
    (Sha256.utf8 (joinComma texts)).length + 1 = (texts.map fun t => (Sha256.utf8 t).length + 1).sum := by
  induction texts using joinComma.induct with
  | case1 => exact absurd rfl hne
  | case2 x => simp [joinComma]
  | case3 x y rest ih =>
    have hx := h x List.mem_cons_self
    have hcomma : WellFormed (js ",") := wellFormed_ascii (by decide)
    have hone : (Sha256.utf8 (js ",")).length = 1 := by decide
    have hrest := ih (List.cons_ne_nil _ _) fun t ht => h t (List.mem_cons_of_mem _ ht)
    rw [joinComma, length_utf8_append (hx.append hcomma), length_utf8_append hx, hone, List.map_cons, List.sum_cons,
      ← hrest]
    omega

/-- A list of texts between brackets. -/
theorem length_utf8_bracketed {left right : JsString} {texts : List JsString} (hleft : WellFormed left)
    (hlengths : (Sha256.utf8 left).length = 1 ∧ (Sha256.utf8 right).length = 1) (hne : texts ≠ [])
    (h : ∀ t ∈ texts, WellFormed t) :
    (Sha256.utf8 (left ++ joinComma texts ++ right)).length =
      1 + (texts.map fun t => (Sha256.utf8 t).length + 1).sum := by
  have hjoin := length_utf8_joinComma hne h
  rw [length_utf8_append (hleft.append (wellFormed_joinComma h)), length_utf8_append hleft, hlengths.1, hlengths.2,
    ← hjoin]
  omega

theorem canonicalizeItems_eq_map (items : List Json) : canonicalizeItems items = items.map canonicalize := by
  induction items with
  | nil => rfl
  | cons v rest ih => rw [canonicalizeItems, ih, List.map_cons]

theorem byteLength_arr {items : List Json} (hne : items ≠ []) :
    byteLength (.arr items) = 1 + (items.map fun v => byteLength v + 1).sum := by
  have hwf : ∀ t ∈ items.map canonicalize, WellFormed t := by
    intro t ht
    obtain ⟨v, -, rfl⟩ := List.mem_map.mp ht
    exact wellFormed_canonicalize v
  rw [byteLength, canonicalize, canonicalizeItems_eq_map,
    length_utf8_bracketed (wellFormed_ascii (by decide)) (by decide) (by simpa using hne) hwf, List.map_map]
  rfl

theorem length_utf8_fieldText (k : JsString) (v : Json) :
    (Sha256.utf8 (fieldText (k, v.canonicalize))).length = quotedLength k + 1 + byteLength v := by
  have hcolon : WellFormed (js ":") := wellFormed_ascii (by decide)
  rw [fieldText, length_utf8_append ((wellFormed_quote k).append hcolon), length_utf8_append (wellFormed_quote k)]
  rfl

/-- The order in which the fields are written does not matter. -/
theorem byteLength_obj {fields : List (JsString × Json)} (hne : fields ≠ []) :
    byteLength (.obj fields) = 1 + (fields.map fun f => quotedLength f.1 + 1 + byteLength f.2 + 1).sum := by
  have hperm := perm_sortByKey (canonicalizeFields fields)
  have hwf : ∀ t ∈ (sortByKey (canonicalizeFields fields)).map fieldText, WellFormed t := by
    intro t ht
    obtain ⟨g, hg, rfl⟩ := List.mem_map.mp ht
    rw [hperm.mem_iff, canonicalizeFields_eq_map] at hg
    obtain ⟨f, -, rfl⟩ := List.mem_map.mp hg
    exact wellFormed_fieldText (wellFormed_canonicalize f.2)
  have hne' : (sortByKey (canonicalizeFields fields)).map fieldText ≠ [] := by
    intro h
    rw [List.map_eq_nil_iff] at h
    rw [h, List.nil_perm, canonicalizeFields_eq_map, List.map_eq_nil_iff] at hperm
    exact hne hperm
  have htext : canonicalize (.obj fields) =
      js "\x7b" ++ joinComma ((sortByKey (canonicalizeFields fields)).map fieldText) ++ js "\x7d" := rfl
  rw [byteLength, htext, length_utf8_bracketed (wellFormed_ascii (by decide)) (by decide) hne' hwf, List.map_map,
    (hperm.map _).sum_eq, canonicalizeFields_eq_map, List.map_map]
  congr 2
  apply List.map_congr_left
  intro f _
  show (Sha256.utf8 (fieldText (f.1, f.2.canonicalize))).length + 1 = _
  rw [length_utf8_fieldText]

/-- The keys of an object and its values, apart. -/
theorem byteLength_obj_keys {fields : List (JsString × Json)} (hne : fields ≠ []) :
    byteLength (.obj fields) =
      1 + ((fields.map Prod.fst).map fun k => quotedLength k + 2).sum + ((fields.map Prod.snd).map byteLength).sum := by
  have hsplit : (fields.map fun f => quotedLength f.1 + 1 + byteLength f.2 + 1) =
      fields.map fun f => (quotedLength f.1 + 2) + byteLength f.2 := by
    apply List.map_congr_left
    intro f _
    omega
  rw [byteLength_obj hne, hsplit, List.sum_map_add, List.map_map, List.map_map, Nat.add_assoc]
  rfl

theorem quotedLength_of_plain {s : JsString} (h : Plain s) : quotedLength s = s.length + 2 := by
  have htext : quote s = 0x22 :: (s ++ [0x22]) := by
    rw [quote, quoteUnits_plain h]
    rfl
  have hascii : Ascii (quote s) := by
    rw [htext, Ascii, List.all_cons, List.all_append, Bool.and_eq_true, Bool.and_eq_true]
    exact ⟨rfl, h.ascii, rfl⟩
  rw [quotedLength, length_utf8_of_ascii hascii, htext, List.length_cons, List.length_append, List.length_singleton]

theorem byteLength_str (s : JsString) : byteLength (.str s) = quotedLength s := rfl

theorem byteLength_num {n : Int} (h : 0 ≤ n) : byteLength (.num n) = (decimalInt n).length := by
  rw [byteLength, canonicalize, decimalInt_of_nonneg h]
  exact length_utf8_of_ascii (plain_of_isDigit (all_isDigit_decimal _)).ascii

/-- Texts of one length. -/
theorem byteLength_strs {texts : List JsString} {n : Nat} (hne : texts ≠ [])
    (h : ∀ t ∈ texts, Plain t ∧ t.length = n) :
    byteLength (.arr (texts.map .str)) = 1 + (n + 3) * texts.length := by
  rw [byteLength_arr (by simpa using hne), List.map_map]
  congr 1
  have hall : ∀ t ∈ texts, byteLength (.str t) + 1 = n + 3 := by
    intro t ht
    obtain ⟨hplain, hlength⟩ := h t ht
    rw [byteLength_str, quotedLength_of_plain hplain, hlength]
  have hmap : texts.map ((fun v => byteLength v + 1) ∘ Json.str) = texts.map fun _ => n + 3 := List.map_congr_left hall
  rw [hmap, List.map_const', List.sum_replicate, smul_eq_mul, Nat.mul_comm]

/-- An object with the same keys and values that are no longer is no longer. -/
theorem byteLength_obj_le {fields fields' : List (JsString × Json)} (hne : fields ≠ [])
    (hkeys : fields.map Prod.fst = fields'.map Prod.fst)
    (hvalues : List.Forall₂ (fun v w => byteLength v ≤ byteLength w) (fields.map Prod.snd) (fields'.map Prod.snd)) :
    byteLength (.obj fields) ≤ byteLength (.obj fields') := by
  have hne' : fields' ≠ [] := by
    rintro rfl
    exact hne (List.map_eq_nil_iff.mp hkeys)
  have hsum : ((fields.map Prod.snd).map byteLength).sum ≤ ((fields'.map Prod.snd).map byteLength).sum := by
    refine List.Forall₂.sum_le_sum ?_
    rwa [List.forall₂_map_left_iff, List.forall₂_map_right_iff]
  rw [byteLength_obj_keys hne, byteLength_obj_keys hne', hkeys]
  omega

end Json
