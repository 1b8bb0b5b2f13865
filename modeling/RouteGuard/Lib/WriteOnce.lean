import Mathlib

/-!
# Write-once stores under a naming

A store keeps the first value put under a name. The same calls are answered by stores with different namings of the
ids; where the namings tell the same ids apart, the answers agree.

* `Answers` : how a store answers a put of a fresh name, a put of a taken one, and a get;
* `answers` : the answers to a sequence of calls;
* `Unambiguous` : no call comes to a name that an earlier put of another id has taken;
* `answers_eq_iff` : against a naming that tells all ids apart, the answers are the same exactly for unambiguous
  calls.
-/

namespace WriteOnce

variable {ι κ κ' β α : Type}

inductive Call (ι β : Type) where
  | put (i : ι) (value : β)
  | get (i : ι)
  deriving DecidableEq, Repr

def Call.id : Call ι β → ι
  | .put i _ | .get i => i

def Call.isPut : Call ι β → Bool
  | .put .. => true
  | .get _ => false

/-- How a store answers. -/
structure Answers (β α : Type) where
  created : β → α
  existing : (old value : β) → α
  found : Option β → α

section Step
variable [DecidableEq κ] (A : Answers β α) (name : ι → κ)

def step (m : κ → Option β) : Call ι β → α × (κ → Option β)
  | .put i value =>
    match m (name i) with
    | some old => (A.existing old value, m)
    | none => (A.created value, Function.update m (name i) (some value))
  | .get i => (A.found (m (name i)), m)

/-- The answers to the calls, in order. -/
def answers : (κ → Option β) → List (Call ι β) → List α
  | _, [] => []
  | m, c :: cs => (step A name m c).1 :: answers (step A name m c).2 cs

end Step

/-- No call comes to a name that an earlier put of another id has taken. -/
def Unambiguous (name : ι → κ) (cs : List (Call ι β)) : Prop :=
  cs.Pairwise fun c d => c.isPut = true → name c.id = name d.id → c.id = d.id

/-- Namings that tell the same ids of the calls apart. -/
theorem unambiguous_congr {name : ι → κ} {name' : ι → κ'} {cs : List (Call ι β)}
    (h : ∀ c ∈ cs, ∀ d ∈ cs, name c.id = name d.id ↔ name' c.id = name' d.id) :
    Unambiguous name cs ↔ Unambiguous name' cs := by
  constructor
  · exact fun hcs => hcs.imp_of_mem fun hc hd hclear hput heq => hclear hput ((h _ hc _ hd).mpr heq)
  · exact fun hcs => hcs.imp_of_mem fun hc hd hclear hput heq => hclear hput ((h _ hc _ hd).mp heq)

section Compare
variable {A : Answers β α} {idOf : β → ι} {U : ι → Prop} {name : ι → κ}
  {name' : ι → κ'} {m : κ → Option β} {m' : κ' → Option β} {taken : List ι}

/-- Both stores hold the values of the ids put so far, each under its own naming. -/
structure Corresponds (idOf : β → ι) (U : ι → Prop) (name : ι → κ) (name' : ι → κ') (taken : List ι)
    (m : κ → Option β) (m' : κ' → Option β) : Prop where
  present : ∀ i ∈ taken, ∃ b, m (name i) = some b
  own : ∀ i b, U i → m (name i) = some b → idOf b = i ∧ m' (name' i) = some b
  other : ∀ n b, m' n = some b → idOf b ∈ taken ∧ U (idOf b) ∧ name' (idOf b) = n ∧ m (name (idOf b)) = some b

/-- The name of the id is free, or its own. -/
def Clear (name' : ι → κ') (taken : List ι) (i : ι) : Prop := ∀ t ∈ taken, name' t = name' i → t = i

theorem Corresponds.eq_of_clear (h : Corresponds idOf U name name' taken m m') {i : ι} (hi : U i)
    (hclear : Clear name' taken i) : m (name i) = m' (name' i) := by
  cases hm' : m' (name' i) with
  | none =>
    cases hm : m (name i) with
    | none => rfl
    | some b =>
      have := (h.own i b hi hm).2
      rw [hm'] at this
      cases this
  | some b =>
    obtain ⟨hmem, -, hname, hm⟩ := h.other _ _ hm'
    rwa [hclear _ hmem hname] at hm

/-- The first answers differ at a name taken by another id. -/
theorem Corresponds.ne_of_not_clear (h : Corresponds idOf U name name' taken m m') (htaken : ∀ i ∈ taken, U i) {i : ι}
    (hi : U i) (hclear : ¬ Clear name' taken i) : m (name i) = none ∧ ∃ b, m' (name' i) = some b ∧ idOf b ≠ i := by
  unfold Clear at hclear
  push Not at hclear
  obtain ⟨t, ht, hname, hne⟩ := hclear
  obtain ⟨b, hb⟩ := h.present t ht
  obtain ⟨hid, hb'⟩ := h.own t b (htaken t ht) hb
  rw [hname] at hb'
  refine ⟨?_, b, hb', hid ▸ hne⟩
  cases hm : m (name i) with
  | none => rfl
  | some b' =>
    obtain ⟨hid', hb''⟩ := h.own i b' hi hm
    rw [hb'] at hb''
    cases hb''
    exact absurd (hid.symm.trans hid') hne

/-- An id that is taken already may be listed again. -/
theorem Corresponds.again (h : Corresponds idOf U name name' taken m m') {i : ι} {b : β} (hb : m (name i) = some b) :
    Corresponds idOf U name name' (i :: taken) m m' := by
  refine ⟨fun t ht => ?_, h.own, fun n c hc => ?_⟩
  · rcases List.mem_cons.mp ht with rfl | ht
    · exact ⟨b, hb⟩
    · exact h.present t ht
  · obtain ⟨hmem, hrest⟩ := h.other n c hc
    exact ⟨List.mem_cons_of_mem _ hmem, hrest⟩

variable [DecidableEq κ] [DecidableEq κ']

/-- A value put under a clear name. -/
theorem Corresponds.put (h : Corresponds idOf U name name' taken m m')
    (hinj : ∀ i j, U i → U j → name i = name j → i = j) {i : ι} {b : β} (hi : U i)
    (hb : idOf b = i) (hm : m (name i) = none) (hm' : m' (name' i) = none) :
    Corresponds idOf U name name' (i :: taken) (Function.update m (name i) (some b))
      (Function.update m' (name' i) (some b)) := by
  refine ⟨fun t ht => ?_, fun j c hj hc => ?_, fun n c hc => ?_⟩
  · by_cases hname : name t = name i
    · exact ⟨b, by rw [hname, Function.update_self]⟩
    · rw [Function.update_of_ne hname]
      rcases List.mem_cons.mp ht with rfl | ht
      · exact absurd rfl hname
      · exact h.present t ht
  · by_cases hname : name j = name i
    · obtain rfl := hinj j i hj hi hname
      rw [Function.update_self] at hc
      cases hc
      exact ⟨hb, Function.update_self ..⟩
    · rw [Function.update_of_ne hname] at hc
      obtain ⟨hid, hc'⟩ := h.own j c hj hc
      have hname' : name' j ≠ name' i := by
        intro heq
        rw [heq, hm'] at hc'
        cases hc'
      exact ⟨hid, by rw [Function.update_of_ne hname', hc']⟩
  · by_cases hn : n = name' i
    · subst hn
      rw [Function.update_self] at hc
      cases hc
      exact ⟨hb ▸ List.mem_cons_self, hb ▸ hi, congrArg name' hb, by rw [hb, Function.update_self]⟩
    · rw [Function.update_of_ne hn] at hc
      obtain ⟨hmem, hU, hname, hc'⟩ := h.other n c hc
      have hne : name (idOf c) ≠ name i := by
        intro heq
        rw [heq, hm] at hc'
        cases hc'
      exact ⟨List.mem_cons_of_mem _ hmem, hU, hname, by rw [Function.update_of_ne hne, hc']⟩

/-- The ids taken after one more call. -/
def Call.takes : Call ι β → List ι → List ι
  | .put i _, taken => i :: taken
  | .get _, taken => taken

theorem Corresponds.step (h : Corresponds idOf U name name' taken m m')
    (hinj : ∀ i j, U i → U j → name i = name j → i = j) {c : Call ι β} (hc : U c.id)
    (hown : ∀ i b, c = .put i b → idOf b = i) (hclear : Clear name' taken c.id) :
    (step A name m c).1 = (step A name' m' c).1 ∧
      Corresponds idOf U name name' (c.takes taken) (step A name m c).2 (step A name' m' c).2 := by
  have heq := h.eq_of_clear hc hclear
  cases c with
  | get i =>
    have heq' : m (name i) = m' (name' i) := heq
    exact ⟨congrArg A.found heq', h⟩
  | put i b =>
    have heq' : m (name i) = m' (name' i) := heq
    simp only [WriteOnce.step, Call.takes]
    cases hm : m (name i) with
    | none =>
      rw [← heq', hm]
      exact ⟨rfl, h.put hinj hc (hown i b rfl) hm (heq' ▸ hm)⟩
    | some old =>
      rw [← heq', hm]
      exact ⟨rfl, h.again hm⟩

theorem answers_eq_iff_aux (hput : ∀ old b, idOf old ≠ idOf b → A.existing old b ≠ A.created b)
    (hget : ∀ b, A.found none ≠ A.found (some b)) (hinj : ∀ i j, U i → U j → name i = name j → i = j)
    (h : Corresponds idOf U name name' taken m m') (htaken : ∀ i ∈ taken, U i) {cs : List (Call ι β)}
    (hcs : ∀ c ∈ cs, U c.id) (hown : ∀ i b, .put i b ∈ cs → idOf b = i) :
    answers A name m cs = answers A name' m' cs ↔ (∀ c ∈ cs, Clear name' taken c.id) ∧ Unambiguous name' cs := by
  induction cs generalizing m m' taken with
  | nil => simp [answers, Unambiguous]
  | cons c cs ih =>
    have hc := hcs c List.mem_cons_self
    by_cases hclear : Clear name' taken c.id
    · obtain ⟨heq, hnext⟩ := h.step (A := A) hinj hc
        (fun i b hb => hown i b (hb ▸ List.mem_cons_self)) hclear
      have htaken' : ∀ i ∈ c.takes taken, U i := by
        intro i hi
        cases c with
        | get j => exact htaken i hi
        | put j b =>
          rcases List.mem_cons.mp hi with rfl | hi
          · exact hc
          · exact htaken i hi
      rw [answers, answers, List.cons.injEq, and_iff_right heq,
        ih hnext htaken' (fun d hd => hcs d (List.mem_cons_of_mem _ hd))
          (fun i b hb => hown i b (List.mem_cons_of_mem _ hb))]
      -- the ids taken so far and the one of the call
      have htakes : ∀ d : Call ι β, Clear name' (c.takes taken) d.id ↔
          (c.isPut = true → name' c.id = name' d.id → c.id = d.id) ∧ Clear name' taken d.id := by
        intro d
        cases c with
        | get j => simp [Call.takes, Call.isPut, Clear]
        | put j b => simp [Call.takes, Call.isPut, Call.id, Clear]
      simp only [htakes, Unambiguous, List.pairwise_cons, List.forall_mem_cons]
      constructor
      · rintro ⟨hall, hpair⟩
        exact ⟨⟨hclear, fun d hd => (hall d hd).2⟩, fun d hd => (hall d hd).1, hpair⟩
      · rintro ⟨⟨-, hall⟩, hhead, hpair⟩
        exact ⟨fun d hd => ⟨hhead d hd, hall d hd⟩, hpair⟩
    · refine iff_of_false (fun heq => ?_) fun hall => hclear (hall.1 c List.mem_cons_self)
      obtain ⟨hnone, old, hold, hne⟩ := h.ne_of_not_clear htaken hc hclear
      have hhead := (List.cons.inj heq).1
      cases c with
      | get i =>
        have hnone' : m (name i) = none := hnone
        have hold' : m' (name' i) = some old := hold
        simp only [WriteOnce.step, hnone', hold'] at hhead
        exact hget old hhead
      | put i b =>
        have hnone' : m (name i) = none := hnone
        have hold' : m' (name' i) = some old := hold
        simp only [WriteOnce.step, hnone', hold'] at hhead
        have hid : idOf b = i := hown i b List.mem_cons_self
        exact hput old b (hid ▸ hne) hhead.symm

/-- **When two namings answer alike.** From empty stores, against a naming that tells the ids of the calls apart. -/
theorem answers_eq_iff (hput : ∀ old b, idOf old ≠ idOf b → A.existing old b ≠ A.created b)
    (hget : ∀ b, A.found none ≠ A.found (some b)) (hinj : ∀ i j, U i → U j → name i = name j → i = j)
    {cs : List (Call ι β)} (hcs : ∀ c ∈ cs, U c.id) (hown : ∀ i b, .put i b ∈ cs → idOf b = i) :
    answers A name (fun _ => none) cs = answers A name' (fun _ => none) cs ↔ Unambiguous name' cs := by
  have hempty : Corresponds idOf U name name' [] (fun _ => none) (fun _ => none) := by
    refine ⟨?_, ?_, ?_⟩ <;> simp
  rw [answers_eq_iff_aux hput hget hinj hempty (by simp) hcs hown]
  simp [Clear]

end Compare

end WriteOnce
