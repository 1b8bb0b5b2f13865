import RouteGuard.Lib.JsString

/-!
# Plain objects used as indexes

An object used as an index has own properties, and inherits those of `Object.prototype`: reading a name
that is not an own property may still give a value, and assigning to `__proto__` adds no own property.

* `PlainObject` : the own properties, in no particular order;
* `PlainObject.read` : what `o[name]` gives on an object whose prototype is `Object.prototype`;
* `BuiltObject` : an object built from `{}` by assignments `o[name] = value`;
* `PlainObject.rebuilt` : the copy of an index made by such assignments, which loses an own `__proto__`;
* `PlainObject.addsOne_iff` : what the copy growing by one says about the object itself.
-/

open JsString

/-- The own properties of an object, by name. -/
abbrev PlainObject (α : Type) := AList fun _ : JsString => α

/-- What reading a property gives: a value of the index, something else that is truthy and has none of
the fields of such a value, or `undefined`. -/
inductive Property (α : Type) where
  | value (a : α)
  | inherited
  | undefined
  deriving DecidableEq, Repr

def protoName : JsString := js "__proto__"

/-- The names that `Object.prototype` defines. -/
def objectPrototypeNames : List JsString :=
  [js "constructor", js "__defineGetter__", js "__defineSetter__", js "hasOwnProperty", js "__lookupGetter__",
   js "__lookupSetter__", js "isPrototypeOf", js "propertyIsEnumerable", js "toString", js "valueOf", protoName,
   js "toLocaleString"]

namespace PlainObject
variable {α : Type}

/-- Decided on the entries. -/
instance [DecidableEq α] : DecidableEq (PlainObject α) := fun a b =>
  decidable_of_iff (a.entries = b.entries) AList.ext_iff.symm

/-- `o[name]`. -/
def read (o : PlainObject α) (name : JsString) : Property α :=
  match o.lookup name with
  | some a => .value a
  | none => if name ∈ objectPrototypeNames then .inherited else .undefined

/-- `Object.keys(o)`. -/
def names (o : PlainObject α) : List JsString := o.keys

theorem read_eq_value {o : PlainObject α} {name : JsString} {a : α} :
    o.read name = .value a ↔ o.lookup name = some a := by
  unfold read
  split
  · next b hb => simp [hb]
  · next hb =>
    split <;> simp [hb]

theorem read_eq_inherited {o : PlainObject α} {name : JsString} :
    o.read name = .inherited ↔ o.lookup name = none ∧ name ∈ objectPrototypeNames := by
  unfold read
  split
  · next b hb => simp [hb]
  · next hb =>
    split
    · next hn => simp [hb, hn]
    · next hn => simp [hn]

theorem read_eq_undefined {o : PlainObject α} {name : JsString} :
    o.read name = .undefined ↔ o.lookup name = none ∧ name ∉ objectPrototypeNames := by
  unfold read
  split
  · next b hb => simp [hb]
  · next hb =>
    split
    · next hn => simp [hn]
    · next hn => simp [hb, hn]

end PlainObject

/-- An object built from `{}` by assignments: an assignment to `__proto__` replaces the prototype. -/
structure BuiltObject (α : Type) where
  own : PlainObject α
  proto : Option α
  deriving DecidableEq

namespace BuiltObject
variable {α : Type}

def empty : BuiltObject α := ⟨∅, none⟩

/-- `o[name] = a`. -/
def assign (o : BuiltObject α) (name : JsString) (a : α) : BuiltObject α :=
  if name = protoName then { o with proto := some a } else { o with own := o.own.insert name a }

/-- `o[name]`, where the values of the index have the given fields. -/
def read (fields : List JsString) (o : BuiltObject α) (name : JsString) : Property α :=
  match o.own.lookup name, o.proto with
  | some a, _ => .value a
  | none, none => if name ∈ objectPrototypeNames then .inherited else .undefined
  | none, some a =>
    if name = protoName then .value a
    else if name ∈ fields ∨ name ∈ objectPrototypeNames then .inherited
    else .undefined

theorem assign_own_lookup (o : BuiltObject α) (name k : JsString) (a : α) :
    (o.assign name a).own.lookup k =
      if k = name ∧ name ≠ protoName then some a else o.own.lookup k := by
  unfold assign
  split
  · next hn => simp [hn]
  · next hn =>
    by_cases hk : k = name
    · subst hk
      simp [hn, AList.lookup_insert]
    · simp [hk, AList.lookup_insert_ne]

theorem assign_proto (o : BuiltObject α) (name : JsString) (a : α) :
    (o.assign name a).proto = if name = protoName then some a else o.proto := by
  unfold assign
  split <;> rfl

end BuiltObject

namespace PlainObject
variable {α : Type}

/-- The copy made by assigning every own property to `{}`. -/
def rebuilt (o : PlainObject α) : BuiltObject α := o.entries.foldl (fun b e => b.assign e.1 e.2) .empty

theorem foldl_assign_own_lookup {l : List (Sigma fun _ : JsString => α)} (hl : l.NodupKeys)
    (b : BuiltObject α) (k : JsString) :
    (l.foldl (fun b e => b.assign e.1 e.2) b).own.lookup k =
      if k = protoName then b.own.lookup k else (l.dlookup k).or (b.own.lookup k) := by
  induction l generalizing b with
  | nil => simp
  | cons e l ih =>
    obtain ⟨name, a⟩ := e
    obtain ⟨hmem, hl⟩ := List.nodupKeys_cons.mp hl
    rw [List.foldl_cons, ih hl, BuiltObject.assign_own_lookup]
    by_cases hk : k = name
    · subst hk
      rw [List.dlookup_cons_eq, List.dlookup_eq_none.mpr hmem]
      by_cases hp : k = protoName <;> simp [hp]
    · rw [List.dlookup_cons_ne _ _ hk]
      simp [hk]

theorem foldl_assign_proto {l : List (Sigma fun _ : JsString => α)} (hl : l.NodupKeys)
    (b : BuiltObject α) :
    (l.foldl (fun b e => b.assign e.1 e.2) b).proto = (l.dlookup protoName).or b.proto := by
  induction l generalizing b with
  | nil => simp
  | cons e l ih =>
    obtain ⟨name, a⟩ := e
    obtain ⟨hmem, hl⟩ := List.nodupKeys_cons.mp hl
    rw [List.foldl_cons, ih hl, BuiltObject.assign_proto]
    by_cases hk : protoName = name
    · subst hk
      rw [List.dlookup_cons_eq, List.dlookup_eq_none.mpr hmem]
      simp
    · rw [List.dlookup_cons_ne _ _ hk]
      simp [Ne.symm hk]

/-- The copy has every own property but `__proto__`. -/
theorem rebuilt_own_lookup (o : PlainObject α) (k : JsString) :
    o.rebuilt.own.lookup k = if k = protoName then none else o.lookup k := by
  rw [rebuilt, foldl_assign_own_lookup o.nodupKeys]
  simp [BuiltObject.empty, AList.lookup]

theorem rebuilt_proto (o : PlainObject α) : o.rebuilt.proto = o.lookup protoName := by
  rw [rebuilt, foldl_assign_proto o.nodupKeys]
  simp [BuiltObject.empty, AList.lookup]

theorem mem_rebuilt_keys {o : PlainObject α} {k : JsString} :
    k ∈ o.rebuilt.own.keys ↔ k ≠ protoName ∧ k ∈ o.keys := by
  rw [← AList.mem_keys, ← AList.mem_keys, ← AList.lookup_isSome, ← AList.lookup_isSome, rebuilt_own_lookup]
  by_cases hk : k = protoName <;> simp [hk]

/-- The copy has one property less exactly when `__proto__` is an own property. -/
theorem length_rebuilt_keys (o : PlainObject α) :
    o.rebuilt.own.keys.length + (if protoName ∈ o.keys then 1 else 0) = o.keys.length := by
  have hperm : o.rebuilt.own.keys.Perm (o.keys.erase protoName) := by
    refine (List.perm_ext_iff_of_nodup (AList.keys_nodup _) ((AList.keys_nodup o).erase _)).mpr ?_
    intro k
    rw [mem_rebuilt_keys, (AList.keys_nodup o).mem_erase_iff]
  rw [hperm.length_eq, List.length_erase]
  split
  · next h => exact Nat.sub_add_cancel (List.length_pos_of_mem h)
  · rfl

theorem length_keys_insert (o : PlainObject α) (name : JsString) (a : α) :
    (o.insert name a).keys.length = if name ∈ o.keys then o.keys.length else o.keys.length + 1 := by
  -- `AList` erases with the equality of the names, lists of units with that of lists
  have herase := @List.length_erase _ instBEqOfDecidableEq _ name o.keys
  rw [AList.keys_insert, List.length_cons, herase]
  split
  · next h => exact Nat.sub_add_cancel (List.length_pos_of_mem h)
  · rfl

/-- One own property more. -/
def AddsOne (o o' : PlainObject α) : Prop := ∃ name, name ∉ o ∧ ∀ k, k ∈ o' ↔ k = name ∨ k ∈ o

/-- When the copy grows by one property, the object does too, unless `__proto__` comes with it unseen. -/
theorem addsOne_iff {o o' : PlainObject α} (hsub : ∀ k ∈ o, k ∈ o')
    (hcount : o'.rebuilt.own.keys.length = o.rebuilt.own.keys.length + 1) :
    AddsOne o o' ↔ (protoName ∈ o' → protoName ∈ o) := by
  constructor
  · rintro ⟨name, hname, hadds⟩ hproto
    by_contra hnot
    have hproto' : protoName = name := ((hadds protoName).mp hproto).resolve_right hnot
    -- the copies would have the same keys
    have hperm : o'.rebuilt.own.keys.Perm o.rebuilt.own.keys := by
      refine (List.perm_ext_iff_of_nodup (AList.keys_nodup _) (AList.keys_nodup _)).mpr ?_
      intro k
      rw [mem_rebuilt_keys, mem_rebuilt_keys, ← AList.mem_keys, ← AList.mem_keys, hadds k, ← hproto']
      constructor
      · rintro ⟨hk, rfl | hmem⟩
        · exact absurd rfl hk
        · exact ⟨hk, hmem⟩
      · rintro ⟨hk, hmem⟩
        exact ⟨hk, .inr hmem⟩
    rw [hperm.length_eq] at hcount
    omega
  · intro hproto
    have hcard (b : PlainObject α) : b.keys.toFinset.card = b.keys.length :=
      List.toFinset_card_of_nodup (AList.keys_nodup b)
    have hsub' : o.rebuilt.own.keys.toFinset ⊆ o'.rebuilt.own.keys.toFinset := by
      intro k hk
      rw [List.mem_toFinset, mem_rebuilt_keys] at hk ⊢
      exact ⟨hk.1, AList.mem_keys.mp (hsub k (AList.mem_keys.mpr hk.2))⟩
    obtain ⟨name, hname, hinsert⟩ := Finset.exists_eq_insert_iff.mpr ⟨hsub', by rw [hcard, hcard, hcount]⟩
    have hmem (k : JsString) : k ≠ protoName → (k ∈ o' ↔ k = name ∨ k ∈ o) := by
      intro hk
      have := congrArg (k ∈ ·) hinsert
      simpa [mem_rebuilt_keys, hk, AList.mem_keys] using this.symm
    have hne : name ≠ protoName := by
      have := hinsert ▸ Finset.mem_insert_self name _
      rw [List.mem_toFinset, mem_rebuilt_keys] at this
      exact this.1
    refine ⟨name, ?_, ?_⟩
    · rw [List.mem_toFinset, mem_rebuilt_keys, ← AList.mem_keys] at hname
      exact fun h => hname ⟨hne, h⟩
    · intro k
      by_cases hk : k = protoName
      · subst hk
        constructor
        · exact fun h => .inr (hproto h)
        · exact fun h => hsub _ (h.resolve_left (Ne.symm hne))
      · exact hmem k hk

end PlainObject
