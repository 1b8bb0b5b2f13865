import RouteGuard.Domain.CanonicalHash
import RouteGuard.Lib.JsonObject

/-!
# Objects as sets of fields

* `distinct_of_parse` : what is read from a text has no key twice;
* `readStr_eq_some`, .. : a reader succeeds where the object has the field;
* `perm_of_lookup` : an object with the fields of a record and no others;
* `sorted_eq_of_canonicalize_eq` : what two objects with one canonical text have in common.
-/

open JsString

namespace Json

/-! ## What the parser returns -/

theorem distinct_addField {k : JsString} {v : Json} {later : List (JsString × Json)} (hv : Distinct v)
    (h : Distinct (.obj later)) : Distinct (.obj (addField k v later)) := by
  unfold addField
  split
  next => exact h
  next hnot =>
    have hk : k ∉ later.map Prod.fst := by
      intro hin
      obtain ⟨f, hf, hkey⟩ := List.mem_map.mp hin
      exact hnot (List.any_eq_true.mpr ⟨f, hf, decide_eq_true hkey⟩)
    exact ⟨List.nodup_cons.mpr ⟨hk, h.1⟩, hv, h.2⟩

theorem distinct_readNumber {s rest : JsString} {v : Json} (h : readNumber s = some (v, rest)) : Distinct v := by
  cases s with
  | nil => exact absurd h (by simp [readNumber])
  | cons u s =>
    simp only [readNumber] at h
    split at h
    all_goals
      obtain ⟨r, -, hr⟩ := Option.map_eq_some_iff.mp h
      rw [← (Prod.mk.inj hr).1]
      trivial

theorem eq_of_readLiteral {text s rest : JsString} {v w : Json} (h : readLiteral text w s = some (v, rest)) :
    v = w := by
  unfold readLiteral at h
  split at h
  next => exact (Prod.mk.inj (Option.some.inj h)).1.symm
  next => exact absurd h (by simp)

/-- What the three readers return, by induction on the fuel. -/
theorem distinct_read (fuel : Nat) :
    (∀ s v rest, readValue fuel s = some (v, rest) → Distinct v) ∧
      (∀ s items rest, readItems fuel s = some (items, rest) → DistinctItems items) ∧
      (∀ s fields rest, readFields fuel s = some (fields, rest) → Distinct (.obj fields)) := by
  induction fuel with
  | zero => exact ⟨fun _ _ _ h => absurd h (by simp [readValue]), fun _ _ _ h => absurd h (by simp [readItems]),
      fun _ _ _ h => absurd h (by simp [readFields])⟩
  | succ fuel ih =>
    obtain ⟨ihValue, ihItems, ihFields⟩ := ih
    refine ⟨?_, ?_, ?_⟩
    · intro s v rest h
      rw [readValue] at h
      cases hs : skipSpace s with
      | nil => simp [hs] at h
      | cons u t =>
        simp only [hs] at h
        split at h
        next =>
          obtain ⟨r, -, hr⟩ := Option.map_eq_some_iff.mp h
          rw [← (Prod.mk.inj hr).1]
          trivial
        split at h
        next =>
          split at h
          next =>
            rw [← (Prod.mk.inj (Option.some.inj h)).1]
            trivial
          next =>
            obtain ⟨r, hread, hr⟩ := Option.map_eq_some_iff.mp h
            rw [← (Prod.mk.inj hr).1]
            exact ihItems _ _ _ hread
        split at h
        next =>
          split at h
          next =>
            rw [← (Prod.mk.inj (Option.some.inj h)).1]
            exact ⟨List.nodup_nil, trivial⟩
          next =>
            obtain ⟨r, hread, hr⟩ := Option.map_eq_some_iff.mp h
            rw [← (Prod.mk.inj hr).1]
            exact ihFields _ _ _ hread
        split at h
        next =>
          rw [eq_of_readLiteral h]
          trivial
        split at h
        next =>
          rw [eq_of_readLiteral h]
          trivial
        split at h
        next =>
          rw [eq_of_readLiteral h]
          trivial
        next => exact distinct_readNumber h
    · intro s items rest h
      rw [readItems] at h
      obtain ⟨r, hread, h⟩ := Option.bind_eq_some_iff.mp h
      have hv : Distinct r.1 := ihValue _ _ _ hread
      cases hs : skipSpace r.2 with
      | nil => simp [hs] at h
      | cons u t =>
        simp only [hs] at h
        split at h
        next =>
          obtain ⟨q, hq, heq⟩ := Option.map_eq_some_iff.mp h
          rw [← (Prod.mk.inj heq).1]
          exact ⟨hv, ihItems _ _ _ hq⟩
        split at h
        next =>
          rw [← (Prod.mk.inj (Option.some.inj h)).1]
          exact ⟨hv, trivial⟩
        next => exact absurd h (by simp)
    · intro s fields rest h
      rw [readFields] at h
      cases hs : skipSpace s with
      | nil => simp [hs] at h
      | cons q t =>
        simp only [hs] at h
        split at h
        next =>
          obtain ⟨key, -, h⟩ := Option.bind_eq_some_iff.mp h
          cases hcolon : skipSpace key.2 with
          | nil => simp [hcolon] at h
          | cons colon t' =>
            simp only [hcolon] at h
            split at h
            next =>
              obtain ⟨r, hread, h⟩ := Option.bind_eq_some_iff.mp h
              have hv : Distinct r.1 := ihValue _ _ _ hread
              cases hend : skipSpace r.2 with
              | nil => simp [hend] at h
              | cons u t'' =>
                simp only [hend] at h
                split at h
                next =>
                  obtain ⟨later, hlater, heq⟩ := Option.map_eq_some_iff.mp h
                  rw [← (Prod.mk.inj heq).1]
                  exact distinct_addField hv (ihFields _ _ _ hlater)
                split at h
                next =>
                  rw [← (Prod.mk.inj (Option.some.inj h)).1]
                  exact ⟨List.nodup_singleton _, hv, trivial⟩
                next => exact absurd h (by simp)
            next => exact absurd h (by simp)
        next => exact absurd h (by simp)

theorem distinct_of_parse {text : JsString} {v : Json} (h : parse text = some v) : Distinct v := by
  obtain ⟨r, hread, h⟩ := Option.bind_eq_some_iff.mp h
  split at h
  next => exact Option.some.inj h ▸ (distinct_read _).1 _ _ _ hread
  next => exact absurd h (by simp)

/-! ## Readers -/

section Readers
variable {fields : List (JsString × Json)} {key : JsString}

theorem asStr_eq_some {v : Json} {s : JsString} : asStr v = some s ↔ v = .str s := by
  cases v <;> simp [asStr]

theorem asNum_eq_some {v : Json} {n : Int} : asNum v = some n ↔ v = .num n := by
  cases v <;> simp [asNum]

theorem asArr_eq_some {v : Json} {items : List Json} : asArr v = some items ↔ v = .arr items := by
  cases v <;> simp [asArr]

theorem asObj_eq_some {v : Json} {inner : List (JsString × Json)} : asObj v = some inner ↔ v = .obj inner := by
  cases v <;> simp [asObj]

theorem readStr_eq_some {s : JsString} : readStr fields key = some s ↔ fields.lookup key = some (.str s) := by
  simp only [readStr, Option.bind_eq_some_iff, asStr_eq_some, exists_eq_right]

theorem readNum_eq_some {n : Int} : readNum fields key = some n ↔ fields.lookup key = some (.num n) := by
  simp only [readNum, Option.bind_eq_some_iff, asNum_eq_some, exists_eq_right]

theorem readObj_eq_some {inner : List (JsString × Json)} :
    readObj fields key = some inner ↔ fields.lookup key = some (.obj inner) := by
  simp only [readObj, Option.bind_eq_some_iff, asObj_eq_some, exists_eq_right]

theorem mapM_asStr_eq_some {items : List Json} {texts : List JsString} :
    items.mapM asStr = some texts ↔ items = texts.map .str := by
  induction items generalizing texts with
  | nil =>
    rw [List.mapM_nil]
    cases texts with
    | nil => simp
    | cons t texts => simp
  | cons v items ih =>
    rw [List.mapM_cons]
    simp only [Option.bind_eq_bind, Option.bind_eq_some_iff, asStr_eq_some, ih]
    cases texts with
    | nil => simp
    | cons t texts => simp

theorem readStrs_eq_some {texts : List JsString} :
    readStrs fields key = some texts ↔ fields.lookup key = some (.arr (texts.map .str)) := by
  simp only [readStrs, readArr, Option.bind_eq_some_iff, asArr_eq_some, mapM_asStr_eq_some]
  constructor
  · rintro ⟨items, ⟨v, hv, rfl⟩, rfl⟩
    exact hv
  · intro h
    exact ⟨_, ⟨_, h, rfl⟩, rfl⟩

theorem readConstant_eq_some {text : JsString} {u : Unit} :
    readConstant fields key text = some u ↔ fields.lookup key = some (.str text) := by
  simp only [readConstant, Option.ite_none_right_eq_some, readStr_eq_some, and_true]

end Readers

/-! ## Objects with the same fields -/

/-- An object that has every field of a record, and no key but the record's. -/
theorem perm_of_lookup {α : Type} {fields known : List (JsString × α)} (hn : (fields.map Prod.fst).Nodup)
    (hknown : (known.map Prod.fst).Nodup) (hread : ∀ f ∈ known, fields.lookup f.1 = some f.2)
    (hkeys : ∀ k ∈ fields.map Prod.fst, k ∈ known.map Prod.fst) : fields.Perm known := by
  have hsub {f : JsString × α} (hf : f ∈ known) : f ∈ fields := (lookup_eq_some_iff hn).mp (hread f hf)
  refine (List.perm_ext_iff_of_nodup (hn.of_map _) (hknown.of_map _)).mpr ?_
  intro f
  constructor
  · intro hf
    obtain ⟨g, hg, hkey⟩ := List.mem_map.mp (hkeys f.1 (List.mem_map_of_mem hf))
    rwa [List.inj_on_of_nodup_map hn hf (hsub hg) hkey.symm]
  · exact hsub

theorem canonicalizeFields_eq_map (fields : List (JsString × Json)) :
    canonicalizeFields fields = fields.map fun f => (f.1, canonicalize f.2) := by
  induction fields with
  | nil => rfl
  | cons f rest ih => rw [canonicalizeFields, ih, List.map_cons]

theorem canonicalize_obj_perm {fields fields' : List (JsString × Json)} (hn : (fields.map Prod.fst).Nodup)
    (h : fields.Perm fields') : canonicalize (.obj fields) = canonicalize (.obj fields') := by
  have hkeys : ((canonicalizeFields fields).map Prod.fst).Nodup := by
    rw [canonicalizeFields_eq_map, List.map_map]
    exact hn
  have hperm : (canonicalizeFields fields).Perm (canonicalizeFields fields') := by
    rw [canonicalizeFields_eq_map, canonicalizeFields_eq_map]
    exact h.map _
  rw [canonicalize, canonicalize, sortByKey_congr hkeys hperm]

theorem sorted_eq_of_canonicalize_eq {fields fields' : List (JsString × Json)} (hd : Distinct (.obj fields))
    (hd' : Distinct (.obj fields')) (h : canonicalize (.obj fields) = canonicalize (.obj fields')) :
    sorted fields = sorted fields' := by
  rw [canonicalize_eq_print, canonicalize_eq_print] at h
  exact Json.obj.inj (print_injective hd.normalize hd'.normalize h)

theorem keys_perm_of_sorted_eq {fields fields' : List (JsString × Json)} (h : sorted fields = sorted fields') :
    (fields.map Prod.fst).Perm (fields'.map Prod.fst) := by
  have hperm := keys_sorted fields
  rw [h] at hperm
  exact hperm.symm.trans (keys_sorted fields')

end Json
