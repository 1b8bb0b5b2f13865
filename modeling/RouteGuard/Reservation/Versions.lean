import RouteGuard.Reservation.Changes

/-!
# The versions of a record

In a lawful trace the records stored under an id are numbered from one, each is valid, and each comes from the one
before it by a change.

* `Lawful.versions_invariant` : what a new record has and every change keeps, every stored record has;
* `Lawful.later_invariant` : what every change keeps of the record before it, every later version keeps of an earlier
  one;
* `Lawful.eq_of_version` : a version number names one record.
-/

namespace RouteGuard.Reservation
open JsString Guarded ReservationState

/-! ## Traces -/

theorem versions_append (w w' : Trace) (id : JsString) : versions (w ++ w') id = versions w id ++ versions w' id :=
  List.filterMap_append

theorem versions_snoc (w : Trace) (e : CallRecord) (id : JsString) :
    versions (w ++ [e]) id = versions w id ++ (e.written id).toList := by
  rw [versions_append]
  cases h : e.written id <;> simp [versions, h]

theorem mem_versions_later {w w' : Trace} {id : JsString} {r : ReservationRecord} (h : w <+: w')
    (hr : r ∈ versions w id) : r ∈ versions w' id := by
  obtain ⟨v, rfl⟩ := h
  rw [versions_append]
  exact List.mem_append_left _ hr

theorem mem_versions_of_stored {w : Trace} {id : JsString} {r : ReservationRecord} (h : stored w id = some r) :
    r ∈ versions w id := List.mem_of_getLast? h

theorem stored_isSome_of_mem {w : Trace} {id : JsString} {r : ReservationRecord} (h : r ∈ versions w id) :
    ∃ last, stored w id = some last := by
  unfold stored
  exact Option.ne_none_iff_exists'.mp fun hn => List.ne_nil_of_mem h (List.getLast?_eq_none_iff.mp hn)

/-- A call writes nothing, a new record where there was none, or the next version of the stored record. -/
inductive Written (deps : ServiceDeps) (auction : Auction) (w : Trace) (id : JsString) :
    CallRecord → Option ReservationRecord → Prop
  | nothing {e : CallRecord} : Written deps auction w id e none
  | created {e : CallRecord} {input : CreateReservationInput} {tender : FreightTender} {record : ReservationRecord}
      (hrecord : reservationOf deps.crypto auction input tender = .ok record) (hid : record.reservationId = id)
      (hnone : stored w id = none) (hvalid : Valid deps.crypto { record with recordVersion := 1 }) :
      Written deps auction w id e (some { record with recordVersion := 1 })
  | changed {site : CommitSite} {cur next : ReservationRecord} (hcur : stored w id = some cur)
      (hid : next.reservationId = id) (hchange : Change deps w site cur next)
      (hvalid : Valid deps.crypto { next with recordVersion := cur.recordVersion + 1 }) :
      Written deps auction w id
        ⟨.compareAndSet site id cur.recordVersion next, .ok { next with recordVersion := cur.recordVersion + 1 }⟩
        (some { next with recordVersion := cur.recordVersion + 1 })

section Versions
variable {deps : ServiceDeps} {auction : Auction}

/-- The versions are numbered from one. -/
def Numbered (w : Trace) (id : JsString) : Prop :=
  (versions w id).map ReservationRecord.recordVersion = List.range' 1 (versions w id).length

theorem Numbered.eq_of_version {w : Trace} {id : JsString} (h : Numbered w id) {r r' : ReservationRecord}
    (hr : r ∈ versions w id) (hr' : r' ∈ versions w id) (hv : r.recordVersion = r'.recordVersion) : r = r' := by
  have hnodup : ((versions w id).map ReservationRecord.recordVersion).Nodup := by
    rw [h]
    exact List.nodup_range'
  exact List.inj_on_of_nodup_map hnodup hr hr' hv

theorem written_of_call {w : Trace} {call : Call} {answer : call.Answer} (hnumbered : ∀ id, Numbered w id)
    (hallowed : Allowed deps auction w call) (hanswer : Answered deps.crypto w call answer) (id : JsString) :
    Written deps auction w id ⟨call, answer⟩ (CallRecord.written id ⟨call, answer⟩) := by
  cases call with
  | create record =>
    cases answer with
    | error e => exact .nothing
    | ok r =>
      obtain ⟨hnone, rfl, hvalid⟩ := hanswer
      obtain ⟨input, tender, hrecord⟩ := hallowed
      simp only [CallRecord.written]
      split
      · next h =>
        rw [h] at hnone
        exact .created hrecord h hnone hvalid
      · exact .nothing
  | compareAndSet site key version next =>
    cases answer with
    | error e => exact .nothing
    | ok r =>
      obtain ⟨cur, hcur, hversion, rfl, hvalid⟩ := hanswer
      obtain ⟨hkey, cur', hcur', hversion', hchange⟩ := hallowed
      have heq := (hnumbered key).eq_of_version hcur' (mem_versions_of_stored hcur) (hversion'.trans hversion.symm)
      subst heq
      subst hkey
      subst hversion
      simp only [CallRecord.written]
      split
      · next h =>
        subst h
        exact .changed hcur rfl hchange hvalid
      · exact .nothing
  | _ => exact .nothing

/-! ## Induction over the versions -/

theorem Lawful.numbered {w : Trace} (hw : Lawful deps auction w) (id : JsString) : Numbered w id := by
  induction hw generalizing id with
  | nil => rfl
  | @snoc w call answer hw hallowed hanswer ih =>
    have hwritten := written_of_call ih hallowed hanswer id
    have ih := ih id
    unfold Numbered at ih ⊢
    rw [versions_snoc]
    generalize CallRecord.written id ⟨call, answer⟩ = new at hwritten ⊢
    cases hwritten with
    | nothing => simpa using ih
    | created hrecord hid hnone hvalid =>
      have hempty : versions w id = [] := List.getLast?_eq_none_iff.mp hnone
      simp [hempty]
    | @changed site cur next hcur hid hchange hvalid =>
      have hlast : cur.recordVersion = (versions w id).length := by
        obtain ⟨before, hb⟩ := List.getLast?_eq_some_iff.mp hcur
        rw [hb] at ih ⊢
        simp only [List.map_append, List.map_cons, List.map_nil, List.length_append, List.length_singleton] at ih ⊢
        rw [List.range'_concat] at ih
        have := (List.append_inj' ih rfl).2
        simp only [List.cons.injEq, and_true] at this
        omega
      simp only [Option.toList_some, List.map_append, ih, List.map_cons, List.map_nil, List.length_append,
        List.length_singleton, List.range'_concat, hlast]
      congr 2
      omega

/-- What a new record has, and a change has wherever all records before it have it, every stored record has. It may
speak of what has happened so far. -/
theorem Lawful.versions_strong {P : Trace → ReservationRecord → Prop} {id : JsString}
    (hmono : ∀ {w w' r}, w <+: w' → P w r → P w' r)
    (hcreate : ∀ {w input tender record}, reservationOf deps.crypto auction input tender = .ok record →
      record.reservationId = id → Valid deps.crypto { record with recordVersion := 1 } →
      P w { record with recordVersion := 1 })
    (hchange : ∀ {w site cur next}, Lawful deps auction w → stored w id = some cur → (∀ r ∈ versions w id, P w r) →
      Change deps w site cur next → next.reservationId = id →
      Valid deps.crypto { next with recordVersion := cur.recordVersion + 1 } →
      P (w ++ [⟨.compareAndSet site id cur.recordVersion next, .ok { next with recordVersion := cur.recordVersion + 1 }⟩])
        { next with recordVersion := cur.recordVersion + 1 })
    {w : Trace} (hw : Lawful deps auction w) : ∀ r ∈ versions w id, P w r := by
  induction hw with
  | nil =>
    intro r hr
    cases hr
  | @snoc w call answer hw hallowed hanswer ih =>
    intro r hr
    rw [versions_snoc, List.mem_append] at hr
    rcases hr with hr | hr
    · exact hmono (List.prefix_append _ _) (ih r hr)
    · have hwritten := written_of_call hw.numbered hallowed hanswer id
      rw [Option.mem_toList.mp hr] at hwritten
      cases hwritten with
      | created hrecord hid hnone hvalid => exact hcreate hrecord hid hvalid
      | changed hcur hid hchanged hvalid => exact hchange hw hcur ih hchanged hid hvalid

/-- What a new record has and every change keeps of the record before it, every stored record has. -/
theorem Lawful.versions_invariant {P : Trace → ReservationRecord → Prop} {id : JsString}
    (hmono : ∀ {w w' r}, w <+: w' → P w r → P w' r)
    (hcreate : ∀ {w input tender record}, reservationOf deps.crypto auction input tender = .ok record →
      record.reservationId = id → Valid deps.crypto { record with recordVersion := 1 } →
      P w { record with recordVersion := 1 })
    (hchange : ∀ {w site cur next}, Lawful deps auction w → stored w id = some cur → P w cur →
      Change deps w site cur next → next.reservationId = id →
      Valid deps.crypto { next with recordVersion := cur.recordVersion + 1 } →
      P (w ++ [⟨.compareAndSet site id cur.recordVersion next, .ok { next with recordVersion := cur.recordVersion + 1 }⟩])
        { next with recordVersion := cur.recordVersion + 1 })
    {w : Trace} (hw : Lawful deps auction w) : ∀ r ∈ versions w id, P w r := by
  refine Lawful.versions_strong (P := P) hmono hcreate ?_ hw
  intro w site cur next hw hcur ih
  exact hchange hw hcur (ih cur (mem_versions_of_stored hcur))

/-- The same for what only speaks of the record. -/
theorem Lawful.versions_induction {P : ReservationRecord → Prop} {id : JsString}
    (hcreate : ∀ {input tender record}, reservationOf deps.crypto auction input tender = .ok record →
      record.reservationId = id → Valid deps.crypto { record with recordVersion := 1 } →
      P { record with recordVersion := 1 })
    (hchange : ∀ {w site cur next}, Lawful deps auction w → stored w id = some cur → P cur → Change deps w site cur next →
      next.reservationId = id → Valid deps.crypto { next with recordVersion := cur.recordVersion + 1 } →
      P { next with recordVersion := cur.recordVersion + 1 })
    {w : Trace} (hw : Lawful deps auction w) : ∀ r ∈ versions w id, P r :=
  Lawful.versions_invariant (P := fun _ r => P r) (fun _ h => h) hcreate hchange hw

theorem Lawful.reservationId_eq {w : Trace} {id : JsString} (hw : Lawful deps auction w) {r : ReservationRecord}
    (hr : r ∈ versions w id) : r.reservationId = id := by
  refine Lawful.versions_induction (P := fun r => r.reservationId = id) ?_ ?_ hw r hr
  · intro _ _ _ _ hid _
    exact hid
  · intro _ _ _ _ _ _ _ _ hid _
    exact hid

theorem Lawful.valid {w : Trace} {id : JsString} (hw : Lawful deps auction w) {r : ReservationRecord}
    (hr : r ∈ versions w id) : Valid deps.crypto r := by
  refine Lawful.versions_induction (P := fun r => Valid deps.crypto r) ?_ ?_ hw r hr
  · intro _ _ _ _ _ hvalid
    exact hvalid
  · intro _ _ _ _ _ _ _ _ _ hvalid
    exact hvalid

theorem Lawful.version_pairwise {w : Trace} (hw : Lawful deps auction w) (id : JsString) :
    (versions w id).Pairwise fun r r' => r.recordVersion < r'.recordVersion := by
  have h : ((versions w id).map ReservationRecord.recordVersion).Pairwise (· < ·) := by
    rw [hw.numbered id]
    exact List.pairwise_lt_range'
  exact List.pairwise_map.mp h

/-- A version number names one record. -/
theorem Lawful.eq_of_version {w : Trace} {id : JsString} (hw : Lawful deps auction w) {r r' : ReservationRecord}
    (hr : r ∈ versions w id) (hr' : r' ∈ versions w id) (h : r.recordVersion = r'.recordVersion) : r = r' :=
  (hw.numbered id).eq_of_version hr hr' h

/-- The stored record has the highest version. -/
theorem Lawful.le_stored {w : Trace} {id : JsString} (hw : Lawful deps auction w) {r last : ReservationRecord}
    (hr : r ∈ versions w id) (hlast : stored w id = some last) : r.recordVersion ≤ last.recordVersion := by
  obtain ⟨before, hb⟩ := List.getLast?_eq_some_iff.mp hlast
  have hpairs := hw.version_pairwise id
  rw [hb] at hr hpairs
  rcases List.mem_append.mp hr with h | h
  · exact le_of_lt ((List.pairwise_append.mp hpairs).2.2 r h last List.mem_cons_self)
  · rw [List.mem_singleton.mp h]

/-- What every change keeps of the records before it, every later version keeps of an earlier one. It may speak of what
has happened so far. -/
theorem Lawful.later_invariant {R : Trace → ReservationRecord → ReservationRecord → Prop} {id : JsString}
    (hmono : ∀ {w w' r r'}, w <+: w' → R w r r' → R w' r r') (hrefl : ∀ w r, R w r r)
    (hchange : ∀ {w site r cur next}, Lawful deps auction w → r ∈ versions w id → stored w id = some cur → R w r cur →
      Change deps w site cur next → next.reservationId = id →
      Valid deps.crypto { next with recordVersion := cur.recordVersion + 1 } →
      R (w ++ [⟨.compareAndSet site id cur.recordVersion next, .ok { next with recordVersion := cur.recordVersion + 1 }⟩])
        r { next with recordVersion := cur.recordVersion + 1 })
    {w : Trace} (hw : Lawful deps auction w) :
    ∀ r ∈ versions w id, ∀ r' ∈ versions w id, r.recordVersion ≤ r'.recordVersion → R w r r' := by
  induction hw with
  | nil =>
    intro r hr
    cases hr
  | @snoc w call answer hw hallowed hanswer ih =>
    have hwritten := written_of_call hw.numbered hallowed hanswer id
    intro r hr r' hr' hle
    rw [versions_snoc] at hr hr'
    have hlater {r r' : ReservationRecord} (h : R w r r') : R (w ++ [⟨call, answer⟩]) r r' :=
      hmono (List.prefix_append _ _) h
    cases hnew : CallRecord.written id ⟨call, answer⟩ with
    | none =>
      rw [hnew] at hr hr'
      simp only [Option.toList_none, List.append_nil] at hr hr'
      exact hlater (ih r hr r' hr' hle)
    | some new =>
      rw [hnew] at hr hr' hwritten
      rw [Option.toList_some, List.mem_append, List.mem_singleton] at hr hr'
      cases hwritten with
      | created hrecord hid hnone hvalid =>
        have hempty : versions w id = [] := List.getLast?_eq_none_iff.mp hnone
        rw [hempty] at hr hr'
        rcases hr with hr | rfl
        · cases hr
        · rcases hr' with hr' | rfl
          · cases hr'
          · exact hrefl _ _
      | @changed site cur next hcur hid hchanged hvalid =>
        rcases hr with hr | rfl
        · rcases hr' with hr' | rfl
          · exact hlater (ih r hr r' hr' hle)
          · exact hchange hw hr hcur (ih r hr cur (mem_versions_of_stored hcur) (hw.le_stored hr hcur)) hchanged hid
              hvalid
        · rcases hr' with hr' | rfl
          · have := hw.le_stored hr' hcur
            simp only at hle
            omega
          · exact hrefl _ _

/-- The same for what only speaks of the two records. -/
theorem Lawful.later_induction {R : ReservationRecord → ReservationRecord → Prop} {id : JsString}
    (hrefl : ∀ r, R r r)
    (hchange : ∀ {w site r cur next}, Lawful deps auction w → r ∈ versions w id → stored w id = some cur → R r cur →
      Change deps w site cur next → next.reservationId = id →
      Valid deps.crypto { next with recordVersion := cur.recordVersion + 1 } →
      R r { next with recordVersion := cur.recordVersion + 1 })
    {w : Trace} (hw : Lawful deps auction w) :
    ∀ r ∈ versions w id, ∀ r' ∈ versions w id, r.recordVersion ≤ r'.recordVersion → R r r' :=
  Lawful.later_invariant (R := fun _ => R) (fun _ h => h) (fun _ => hrefl) hchange hw

/-- A prefix of a lawful trace is lawful. -/
theorem Lawful.of_prefix {w w' : Trace} (hw : Lawful deps auction w') (h : w <+: w') : Lawful deps auction w := by
  induction hw with
  | nil =>
    rw [List.prefix_nil.mp h]
    exact .nil
  | snoc hw hallowed hanswer ih =>
    rcases List.prefix_concat_iff.mp h with heq | hpre
    · rw [heq]
      exact .snoc hw hallowed hanswer
    · exact ih hpre

/-- What every call of a lawful trace met when it was made. -/
theorem Lawful.call_at {w rest : Trace} {call : Call} {answer : call.Answer}
    (hw : Lawful deps auction (w ++ ⟨call, answer⟩ :: rest)) :
    Lawful deps auction w ∧ Allowed deps auction w call ∧ Answered deps.crypto w call answer := by
  have hprefix : w ++ [⟨call, answer⟩] <+: w ++ ⟨call, answer⟩ :: rest := ⟨rest, by simp⟩
  have hsnoc := hw.of_prefix hprefix
  generalize hv : w ++ [⟨call, answer⟩] = v at hsnoc
  cases hsnoc with
  | nil => exact absurd hv (by simp)
  | snoc hlawful hallowed hanswer =>
    obtain ⟨rfl, heq⟩ := List.append_inj' hv rfl
    cases heq
    exact ⟨hlawful, hallowed, hanswer⟩

theorem Lawful.allowed_of_mem {w : Trace} (hw : Lawful deps auction w) {e : CallRecord} (he : e ∈ w) :
    ∃ v, v <+: w ∧ Allowed deps auction v e.1 := by
  obtain ⟨v, rest, rfl⟩ := List.append_of_mem he
  exact ⟨v, List.prefix_append _ _, hw.call_at.2.1⟩

end Versions

end RouteGuard.Reservation
