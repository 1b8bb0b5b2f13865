import RouteGuard.Hcs.Reconciliation

/-!
# Sequence numbers that may be any numbers

What a caller lists as sequence numbers need not be integers: it may hold fractions, infinities and NaN, as often as the
caller likes. `Set` and `Map` tell them apart by `SameValueZero`.

* `Number` : the values that `Set` and `Map` tell apart;
* `Number.isSequenceRangeComplete`, `Number.computeCompleteness` : the two functions on lists of numbers;
* `isSequenceRangeComplete_ofInt`, `complete_ofInt` : on integers they are the functions of the reconciliation;
* `computeCompleteness_exact` : what they report.
-/

namespace RouteGuard.Auction

/-! ## Permutations of a list without repetitions -/

/-- A list is a permutation of one without repetitions when it is as long, has as many values, and has all of them. -/
theorem perm_iff_of_nodup {α : Type*} [DecidableEq α] {range observed : List α} (hnodup : range.Nodup) :
    observed.Perm range ↔
      observed.length = range.length ∧ observed.dedup.length = range.length ∧ ∀ a ∈ range, a ∈ observed := by
  constructor
  · intro hperm
    have hdistinct : observed.Nodup := hperm.nodup_iff.mpr hnodup
    exact ⟨hperm.length_eq, hdistinct.dedup.symm ▸ hperm.length_eq, fun a ha => hperm.mem_iff.mpr ha⟩
  · rintro ⟨hlength, -, hall⟩
    exact ((hnodup.subperm fun a ha => hall a ha).perm_of_length_le hlength.le).symm

/-! ## Numbers -/

/-- A number up to `SameValueZero`: there is one NaN, and the two zeros are one value. -/
inductive Number where
  | finite (value : ℚ)
  | nan
  | infinite (negative : Bool)
  deriving DecidableEq, Repr

namespace Number

def ofInt (n : Int) : Number := .finite n

theorem ofInt_injective : Function.Injective ofInt := by
  intro a b h
  simpa [ofInt] using h

/-- The numbers from `start` to `stop`. -/
def range (start stop : Int) : List Number := (sequenceRange start stop).map ofInt

theorem nodup_range (start stop : Int) : (range start stop).Nodup :=
  (nodup_sequenceRange start stop).map ofInt_injective

theorem length_range (start stop : Int) : (range start stop).length = (stop - start + 1).toNat := by
  simp [range, sequenceRange]

/-- Length, size of the set, and a loop over the range. -/
def isSequenceRangeComplete (start stop : Int) (observedSequences : List Number) : Bool :=
  (isSafeInteger start && isSafeInteger stop && 1 ≤ start && start ≤ stop) &&
    ((observedSequences.length : Int) = stop - start + 1 && (observedSequences.dedup.length : Int) = stop - start + 1) &&
    (range start stop).all fun s => s ∈ observedSequences

structure CompletenessResult where
  complete : Bool
  startSequence : Int
  endSequence : Int
  observedSequences : List Number
  missingSequences : List Number
  duplicateSequences : List Number
  deriving DecidableEq, Repr

/-- The keys of a `Map`, in the order in which they were first set. -/
def distinct (l : List Number) : List Number := l.reverse.dedup.reverse

/-- `sort` is `Array.prototype.sort` with the comparator `a - b`, whose order the language leaves open when a NaN is among
the numbers. -/
def computeCompleteness (sort : List Number → List Number) (start stop : Int) (sequences : List Number) :
    CompletenessResult :=
  let observedSequences := sort sequences
  let duplicateSequences := (distinct observedSequences).filter fun s => 1 < observedSequences.count s
  { complete := isSequenceRangeComplete start stop observedSequences && duplicateSequences.isEmpty
    startSequence := start
    endSequence := stop
    observedSequences := observedSequences
    missingSequences :=
      if isSafeInteger start && isSafeInteger stop && start ≤ stop then
        (range start stop).filter fun s => s ∉ observedSequences
      else []
    duplicateSequences := duplicateSequences }

/-! ## What they report -/

section Report
variable {sort : List Number → List Number} {start stop : Int} {xs ys : List Number}

/-- A complete range is a permutation of the range. -/
theorem isSequenceRangeComplete_iff (hstart : isSafeInteger start) (hstop : isSafeInteger stop) :
    isSequenceRangeComplete start stop xs = true ↔ (1 ≤ start ∧ start ≤ stop) ∧ xs.Perm (range start stop) := by
  have hlength := length_range start stop
  simp only [isSequenceRangeComplete, hstart, hstop, Bool.true_and, Bool.and_eq_true, decide_eq_true_eq, List.all_eq_true,
    perm_iff_of_nodup (nodup_range start stop), hlength, and_assoc]
  refine and_congr_right fun h1 => and_congr_right fun h2 => ?_
  have hcast (n : Nat) : (n : Int) = stop - start + 1 ↔ n = (stop - start + 1).toNat := by omega
  rw [hcast, hcast]

theorem isSequenceRangeComplete_perm (hstart : isSafeInteger start) (hstop : isSafeInteger stop) (h : xs.Perm ys) :
    isSequenceRangeComplete start stop xs = isSequenceRangeComplete start stop ys := by
  rw [Bool.eq_iff_iff, isSequenceRangeComplete_iff hstart hstop, isSequenceRangeComplete_iff hstart hstop]
  exact and_congr_right fun _ => ⟨h.symm.trans, h.trans⟩

theorem mem_distinct {s : Number} : s ∈ distinct xs ↔ s ∈ xs := by simp [distinct]

theorem nodup_distinct (xs : List Number) : (distinct xs).Nodup := by
  rw [distinct, List.nodup_reverse]
  exact List.nodup_dedup _

/-- The values that occur more than once. -/
theorem mem_duplicateSequences (hsort : ∀ l, (sort l).Perm l) {s : Number} :
    s ∈ (computeCompleteness sort start stop xs).duplicateSequences ↔ 1 < xs.count s := by
  have hcount : (sort xs).count s = xs.count s := (hsort xs).count_eq s
  simp only [computeCompleteness, List.mem_filter, mem_distinct, hcount, decide_eq_true_eq, and_iff_right_iff_imp]
  intro h
  exact (hsort xs).mem_iff.mpr (List.count_pos_iff.mp (by omega))

theorem nodup_duplicateSequences : (computeCompleteness sort start stop xs).duplicateSequences.Nodup :=
  (nodup_distinct _).filter _

/-- The verdict of the report is that of the range. -/
theorem complete_eq (hsort : ∀ l, (sort l).Perm l) (hstart : isSafeInteger start) (hstop : isSafeInteger stop) :
    (computeCompleteness sort start stop xs).complete = isSequenceRangeComplete start stop xs := by
  have hperm := isSequenceRangeComplete_perm hstart hstop (hsort xs)
  cases hcomplete : isSequenceRangeComplete start stop xs with
  | false => simp only [computeCompleteness, hperm, hcomplete, Bool.false_and]
  | true =>
    -- a permutation of the range repeats nothing
    have hnodup : xs.Nodup :=
      ((isSequenceRangeComplete_iff hstart hstop).mp hcomplete).2.nodup_iff.mpr (nodup_range start stop)
    have hempty : (computeCompleteness sort start stop xs).duplicateSequences = [] := by
      refine List.eq_nil_iff_forall_not_mem.mpr fun s hs => ?_
      have hcount := List.nodup_iff_count_le_one.mp hnodup s
      have htwice := (mem_duplicateSequences hsort).mp hs
      omega
    show (isSequenceRangeComplete start stop (sort xs) &&
      (computeCompleteness sort start stop xs).duplicateSequences.isEmpty) = true
    rw [hperm, hcomplete, hempty]
    rfl

/-- The numbers of the range that are not in the list, in their order. -/
theorem missingSequences_eq (hsort : ∀ l, (sort l).Perm l) (hstart : isSafeInteger start) (hstop : isSafeInteger stop) :
    (computeCompleteness sort start stop xs).missingSequences =
      ((sequenceRange start stop).filter fun s => ofInt s ∉ xs).map ofInt := by
  have hmem (s : Number) : s ∈ sort xs ↔ s ∈ xs := (hsort xs).mem_iff
  simp only [computeCompleteness, hstart, hstop, Bool.true_and, decide_eq_true_eq, hmem, range, List.filter_map]
  split
  · rfl
  · next hle =>
    have hempty : sequenceRange start stop = [] := by
      rw [sequenceRange, show (stop - start + 1).toNat = 0 by omega]
      rfl
    rw [hempty]
    rfl

end Report

/-! ## Integers -/

section Integers
variable {start stop : Int}

theorem dedup_map_ofInt (xs : List Int) : (xs.map ofInt).dedup = xs.dedup.map ofInt :=
  List.dedup_map_of_injective ofInt_injective xs

theorem isSequenceRangeComplete_ofInt (xs : List Int) :
    isSequenceRangeComplete start stop (xs.map ofInt) = Auction.isSequenceRangeComplete start stop xs := by
  have hmem (s : Int) : ofInt s ∈ xs.map ofInt ↔ s ∈ xs := List.mem_map_of_injective ofInt_injective
  simp only [isSequenceRangeComplete, Auction.isSequenceRangeComplete, List.length_map, dedup_map_ofInt, range,
    List.all_map, Function.comp_def, hmem]

/-- The report on integers is that of the reconciliation. -/
theorem complete_ofInt {sort : List Number → List Number} (hsort : ∀ l, (sort l).Perm l) (hstart : isSafeInteger start)
    (hstop : isSafeInteger stop) (xs : List Int) :
    (computeCompleteness sort start stop (xs.map ofInt)).complete = (Hcs.computeCompleteness start stop xs).complete := by
  rw [complete_eq hsort hstart hstop, isSequenceRangeComplete_ofInt, Bool.eq_iff_iff]
  constructor
  · intro h
    obtain ⟨hrange, hnodup, hmem⟩ := Auction.isSequenceRangeComplete_iff.mp h
    have hsorted := Sorting.perm_sortOn id xs
    have hcomplete : Auction.isSequenceRangeComplete start stop (Sorting.sortOn id xs) = true :=
      Auction.isSequenceRangeComplete_iff.mpr
        ⟨hrange, hsorted.nodup_iff.mpr hnodup, fun s => hsorted.mem_iff.trans (hmem s)⟩
    have hempty : (Hcs.computeCompleteness start stop xs).duplicateSequences = [] := by
      refine List.filter_eq_nil_iff.mpr fun s _ => ?_
      have hcount := List.nodup_iff_count_le_one.mp (hsorted.nodup_iff.mpr hnodup) s
      rw [decide_eq_true_eq]
      omega
    show (Auction.isSequenceRangeComplete start stop (Sorting.sortOn id xs) &&
      (Hcs.computeCompleteness start stop xs).duplicateSequences.isEmpty) = true
    rw [hcomplete, hempty]
    rfl
  · intro h
    have hcomplete : Auction.isSequenceRangeComplete start stop (Sorting.sortOn id xs) = true :=
      (Bool.and_eq_true_iff.mp h).1
    obtain ⟨hrange, hnodup, hmem⟩ := Auction.isSequenceRangeComplete_iff.mp hcomplete
    have hsorted := Sorting.perm_sortOn id xs
    exact Auction.isSequenceRangeComplete_iff.mpr
      ⟨hrange, hsorted.nodup_iff.mp hnodup, fun s => hsorted.mem_iff.symm.trans (hmem s)⟩

end Integers

end Number

/-! ## The result -/

/-- **The reports on a range are exact.** For safe integers and any list of numbers, whatever permutation the sort makes of
it: both functions find the range complete exactly when it starts at 1 or later, does not end before it starts, and the
list is a permutation of it; the missing numbers are those of the range that the list lacks, in increasing order; the
duplicates are the values that occur more than once, each once. -/
theorem computeCompleteness_exact {sort : List Number → List Number} (hsort : ∀ l, (sort l).Perm l) {start stop : Int}
    (hstart : isSafeInteger start) (hstop : isSafeInteger stop) (xs : List Number) :
    (Number.isSequenceRangeComplete start stop xs = true ↔
      (1 ≤ start ∧ start ≤ stop) ∧ xs.Perm (Number.range start stop)) ∧
    ((Number.computeCompleteness sort start stop xs).complete = true ↔
      (1 ≤ start ∧ start ≤ stop) ∧ xs.Perm (Number.range start stop)) ∧
    (∃ missing : List Int, (Number.computeCompleteness sort start stop xs).missingSequences = missing.map Number.ofInt ∧
      missing.Pairwise (· < ·) ∧ ∀ s, s ∈ missing ↔ (start ≤ s ∧ s ≤ stop) ∧ Number.ofInt s ∉ xs) ∧
    (Number.computeCompleteness sort start stop xs).duplicateSequences.Nodup ∧
    ∀ s, s ∈ (Number.computeCompleteness sort start stop xs).duplicateSequences ↔ 1 < xs.count s := by
  have hcomplete : Number.isSequenceRangeComplete start stop xs = true ↔ _ :=
    Number.isSequenceRangeComplete_iff hstart hstop
  refine ⟨hcomplete, ?_, ⟨_, Number.missingSequences_eq hsort hstart hstop, ?_, ?_⟩, Number.nodup_duplicateSequences,
    fun s => Number.mem_duplicateSequences hsort⟩
  · rw [Number.complete_eq hsort hstart hstop, hcomplete]
  · refine List.Pairwise.filter _ (List.pairwise_map.mpr ?_)
    exact List.pairwise_lt_range.imp fun h => by omega
  · intro s
    rw [List.mem_filter, mem_sequenceRange, decide_eq_true_eq]

namespace Number

/-- The comparator `a - b` is not positive. -/
def notAfter : Number → Number → Bool
  | .finite a, .finite b => a ≤ b
  | .infinite false, .finite _ => false
  | .finite _, .infinite true => false
  | .infinite false, .infinite true => false
  | _, _ => true

/-- A stable sort by the comparator. -/
def sorted (l : List Number) : List Number := l.mergeSort notAfter

end Number

/-- The numbers 3, 1 and 2 complete the range from 1 to 3. -/
theorem computeCompleteness_exact_three :
    (Number.computeCompleteness Number.sorted 1 3 [.ofInt 3, .ofInt 1, .ofInt 2]).complete = true := by
  have hperm : [Number.ofInt 3, .ofInt 1, .ofInt 2].Perm (Number.range 1 3) := by
    show [Number.ofInt 3, .ofInt 1, .ofInt 2].Perm [Number.ofInt 1, .ofInt 2, .ofInt 3]
    exact (List.Perm.swap _ _ _).trans ((List.Perm.swap _ _ _).cons _)
  exact (computeCompleteness_exact (fun l => List.mergeSort_perm l Number.notAfter) rfl rfl _).2.1.mpr
    ⟨by decide, hperm⟩

end RouteGuard.Auction
