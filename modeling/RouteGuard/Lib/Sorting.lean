import RouteGuard.Lib.Guarded
import RouteGuard.Lib.JsString

/-!
# Sorting by a key

* `sortOn` : a list in the order of a key; elements with one key keep their order;
* `sortOn_congr` : two orders of one list sort alike where no two elements share a key;
* `sortWith` : the sort with a comparison that may throw;
* `forall_append_iff_nodup` : a loop that remembers the keys it has seen;
* `mapM_eq_ok` : a loop that collects results.
-/

namespace JsString

/-- The order of code units. -/
instance instLinearOrder : LinearOrder JsString where
  le a b := a ≤ b
  lt a b := a < b
  le_refl a := List.le_refl a
  le_trans _ _ _ := List.le_trans
  le_antisymm _ _ := List.le_antisymm
  le_total a b := List.le_total a b
  lt_iff_le_not_ge a b := by
    constructor
    · intro h
      exact ⟨List.le_of_lt h, fun hba => absurd h hba⟩
    · rintro ⟨-, h⟩
      exact List.not_le.mp h
  toDecidableLE := inferInstance
  toDecidableEq := inferInstance
  toDecidableLT := inferInstance
  compare a b := compareOfLessAndEq a b

end JsString

namespace Sorting

section SortOn
variable {α κ : Type} [LinearOrder κ] (key : α → κ)

/-- The list in the order of `key`. -/
def sortOn (l : List α) : List α := l.insertionSort fun a b => key a ≤ key b

theorem perm_sortOn (l : List α) : (sortOn key l).Perm l := List.perm_insertionSort _ _

@[simp] theorem mem_sortOn {l : List α} {a : α} : a ∈ sortOn key l ↔ a ∈ l := (perm_sortOn key l).mem_iff

theorem pairwise_sortOn (l : List α) : (sortOn key l).Pairwise fun a b => key a ≤ key b := by
  have _ : Std.Total fun a b : α => key a ≤ key b := ⟨fun a b => le_total (key a) (key b)⟩
  have _ : IsTrans α fun a b => key a ≤ key b := ⟨fun _ _ _ => le_trans⟩
  exact List.pairwise_insertionSort _ _

theorem sortOn_eq_self {l : List α} (h : l.Pairwise fun a b => key a ≤ key b) : sortOn key l = l :=
  h.insertionSort_eq

variable {key}

/-- One list in two orders, when no two of its elements have one key. -/
theorem sortOn_congr {l l' : List α} (h : l.Perm l') (hkey : (l.map key).Nodup) : sortOn key l = sortOn key l' := by
  refine List.Perm.eq_of_pairwise ?_ (pairwise_sortOn key l) (pairwise_sortOn key l')
    ((perm_sortOn key l).trans (h.trans (perm_sortOn key l').symm))
  intro a b ha hb hab hba
  have ha' : a ∈ l := (mem_sortOn key).mp ha
  have hb' : b ∈ l := h.mem_iff.mpr ((mem_sortOn key).mp hb)
  exact List.inj_on_of_nodup_map hkey ha' hb' (le_antisymm hab hba)

/-- The first of the sorted list is a least element. -/
theorem head_sortOn {l : List α} {a : α} (h : (sortOn key l).head? = some a) : a ∈ l ∧ ∀ b ∈ l, key a ≤ key b := by
  obtain ⟨rest, hrest⟩ := List.head?_eq_some_iff.mp h
  have hmem : a ∈ sortOn key l := by rw [hrest]; exact List.mem_cons_self
  refine ⟨(mem_sortOn key).mp hmem, ?_⟩
  intro b hb
  have hpair := pairwise_sortOn key l
  rw [← mem_sortOn key, hrest] at hb
  rw [hrest, List.pairwise_cons] at hpair
  rcases List.mem_cons.mp hb with rfl | hb
  · exact le_refl _
  · exact hpair.1 b hb

theorem head_sortOn_eq_none {l : List α} : (sortOn key l).head? = none ↔ l = [] := by
  rw [List.head?_eq_none_iff, ← List.length_eq_zero_iff, (perm_sortOn key l).length_eq, List.length_eq_zero_iff]

end SortOn

/-! ## A comparison that may throw -/

section SortWith
variable {α ε κ : Type} (compare : α → α → Except ε Int)

def insertWith (a : α) : List α → Except ε (List α)
  | [] => .ok [a]
  | b :: rest => do
    let c ← compare a b
    if c ≤ 0 then pure (a :: b :: rest) else (b :: ·) <$> insertWith a rest

/-- The stable sort with a comparison; it throws where a comparison that is made throws. -/
def sortWith : List α → Except ε (List α)
  | [] => .ok []
  | a :: rest => do
    let sorted ← sortWith rest
    insertWith compare a sorted

variable {compare}

theorem insertWith_eq [LinearOrder κ] {key : α → κ} {a : α} {l : List α}
    (h : ∀ b ∈ l, ∃ c, compare a b = .ok c ∧ (c ≤ 0 ↔ key a ≤ key b)) :
    insertWith compare a l = .ok (l.orderedInsert (fun a b => key a ≤ key b) a) := by
  induction l with
  | nil => rfl
  | cons b rest ih =>
    obtain ⟨c, hc, hle⟩ := h b List.mem_cons_self
    have hrest := ih fun d hd => h d (List.mem_cons_of_mem _ hd)
    rw [insertWith, hc, List.orderedInsert]
    by_cases hab : key a ≤ key b
    · rw [if_pos hab]
      exact if_pos (hle.mpr hab)
    · rw [if_neg hab]
      have hnot : ¬ c ≤ 0 := fun h => hab (hle.mp h)
      show (if c ≤ 0 then pure (a :: b :: rest) else (b :: ·) <$> insertWith compare a rest) = _
      rw [if_neg hnot, hrest]
      rfl

/-- Where the comparison answers and agrees with a key, it sorts by that key. -/
theorem sortWith_eq [LinearOrder κ] {key : α → κ} {l : List α}
    (h : ∀ a ∈ l, ∀ b ∈ l, ∃ c, compare a b = .ok c ∧ (c ≤ 0 ↔ key a ≤ key b)) :
    sortWith compare l = .ok (sortOn key l) := by
  induction l with
  | nil => rfl
  | cons a rest ih =>
    have hrest := ih fun b hb d hd => h b (List.mem_cons_of_mem _ hb) d (List.mem_cons_of_mem _ hd)
    rw [sortWith, hrest]
    refine insertWith_eq fun b hb => h a List.mem_cons_self b ?_
    exact List.mem_cons_of_mem _ ((mem_sortOn key).mp hb)

end SortWith

/-! ## No key twice -/

/-- No element has the key of an earlier one. -/
theorem forall_append_iff_nodup {α κ : Type} {key : α → κ} {l : List α} :
    (∀ before a after, l = before ++ a :: after → key a ∉ before.map key) ↔ (l.map key).Nodup := by
  induction l using List.reverseRecOn with
  | nil => simp
  | append_singleton l a ih =>
    rw [List.map_append, List.map_singleton, List.nodup_append_comm, List.singleton_append, List.nodup_cons, ← ih]
    constructor
    · intro h
      exact ⟨h l a [] rfl, fun before b after heq => h before b (after ++ [a]) (by simp [heq])⟩
    · rintro ⟨ha, hl⟩ before b after heq
      rcases List.eq_nil_or_concat after with rfl | ⟨after, c, rfl⟩
      · obtain ⟨rfl, hb⟩ := List.append_inj' heq rfl
        cases hb
        exact ha
      · rw [List.concat_eq_append, ← List.cons_append, ← List.append_assoc] at heq
        exact hl before b after (List.append_inj' heq rfl).1

/-! ## Results in the order of the list -/

section Collect
variable {α β ε : Type}

theorem mapM_eq_ok {f : α → Except ε β} {l : List α} {l' : List β} :
    l.mapM f = .ok l' ↔ List.Forall₂ (fun a b => f a = .ok b) l l' := by
  induction l generalizing l' with
  | nil => cases l' <;> simp [List.mapM_nil, Guarded.pure_eq_ok]
  | cons a rest ih =>
    simp only [List.mapM_cons, Guarded.bind_eq_ok, Guarded.pure_eq_ok, ih]
    constructor
    · rintro ⟨b, hb, bs, hbs, rfl⟩
      exact .cons hb hbs
    · rintro (_ | ⟨hb, hbs⟩)
      exact ⟨_, hb, _, hbs, rfl⟩

theorem mapM_eq_some {f : α → Option β} {l : List α} {l' : List β} :
    l.mapM f = some l' ↔ List.Forall₂ (fun a b => f a = some b) l l' := by
  induction l generalizing l' with
  | nil => cases l' <;> simp [List.mapM_nil]
  | cons a rest ih =>
    simp only [List.mapM_cons, Option.bind_eq_bind, Option.bind_eq_some_iff, Option.pure_def, Option.some.injEq, ih]
    constructor
    · rintro ⟨b, hb, bs, hbs, rfl⟩
      exact .cons hb hbs
    · rintro (_ | ⟨hb, hbs⟩)
      exact ⟨_, hb, _, hbs, rfl⟩

theorem mapM_congr {f g : α → Except ε β} {l : List α} (h : ∀ a ∈ l, f a = g a) : l.mapM f = l.mapM g := by
  induction l with
  | nil => rfl
  | cons a rest ih =>
    rw [List.forall_mem_cons] at h
    rw [List.mapM_cons, List.mapM_cons, h.1, ih h.2]

theorem exists_mapM_eq_ok {f : α → Except ε β} {l : List α} :
    (∃ l', l.mapM f = .ok l') ↔ ∀ a ∈ l, ∃ b, f a = .ok b := by
  induction l with
  | nil => simp [List.mapM_nil, Guarded.pure_eq_ok]
  | cons a rest ih =>
    simp only [List.mapM_cons, Guarded.bind_eq_ok, Guarded.pure_eq_ok, List.forall_mem_cons, ← ih]
    constructor
    · rintro ⟨_, b, hb, bs, hbs, rfl⟩
      exact ⟨⟨b, hb⟩, bs, hbs⟩
    · rintro ⟨⟨b, hb⟩, bs, hbs⟩
      exact ⟨_, b, hb, bs, hbs, rfl⟩

theorem map_eq_of_forall₂ {γ : Type} {R : α → β → Prop} {f : α → γ} {g : β → γ} {l : List α} {l' : List β}
    (h : List.Forall₂ R l l') (heq : ∀ a b, R a b → g b = f a) : l'.map g = l.map f := by
  induction h with
  | nil => rfl
  | cons hab _ ih => rw [List.map_cons, List.map_cons, heq _ _ hab, ih]

theorem exists_of_mem_left {R : α → β → Prop} {l : List α} {l' : List β} (h : List.Forall₂ R l l') {a : α} (ha : a ∈ l) :
    ∃ b ∈ l', R a b := by
  induction h with
  | nil => exact absurd ha List.not_mem_nil
  | cons hab _ ih =>
    rcases List.mem_cons.mp ha with rfl | ha
    · exact ⟨_, List.mem_cons_self, hab⟩
    · obtain ⟨b, hb, hr⟩ := ih ha
      exact ⟨b, List.mem_cons_of_mem _ hb, hr⟩

theorem exists_of_mem_right {R : α → β → Prop} {l : List α} {l' : List β} (h : List.Forall₂ R l l') {b : β} (hb : b ∈ l') :
    ∃ a ∈ l, R a b := exists_of_mem_left h.flip hb

end Collect

end Sorting
