import RouteGuard.Reservation.Frames

/-!
# Rules for the programs of the service

The contract of all requests: calls are allowed, traces only grow, and an attempt id is drawn once and spent at most
once, on a settlement or on a publication.

* `serviceContract` : the contract;
* `Since`, `Ahead` : what a program knows of the time since an earlier point of it, `Unkept` among it: a publication
  this program made that is neither recorded nor lost to another writer;
* `Runs` : the program makes allowed calls only, and its result meets a postcondition;
* the rules for single calls and for commits.
-/

namespace RouteGuard.Reservation
open JsString Guarded ReservationState ServiceM

/-! ## The contract -/

/-- An attempt id is drawn from the random source. -/
def CallRecord.gained : (call : Call) → call.Answer → Option JsString
  | .randomUUID, uuid => some uuid
  | _, _ => none

/-- An attempt id is spent on the one external call it stands for. -/
def Call.spent : Call → Option JsString
  | .settle claim _ _ _ => some claim.settleAttemptId
  | .publish claim _ => some claim.publishAttemptId
  | _ => none

section Contract
variable (deps : ServiceDeps) (auction : Auction)

def serviceContract : Contract Trace JsString Call Call.Answer where
  effect := Performed deps.crypto
  inv := Lawful deps auction
  grows w w' := w <+: w'
  allowed := Allowed deps auction
  refl w := List.prefix_refl w
  trans := List.IsPrefix.trans
  keeps := by
    rintro w w' call answer hw hallowed ⟨hanswer, rfl⟩
    exact ⟨.snoc hw hallowed hanswer, List.prefix_append _ _⟩
  gain := CallRecord.gained
  use := Call.spent
  issued w := w.filterMap fun e => CallRecord.gained e.1 e.2
  used w := w.filterMap fun e => e.1.spent
  fresh := by
    rintro w w' call answer uuid ⟨hanswer, -⟩ hgain
    cases call with
    | randomUUID =>
      cases hgain
      intro hmem
      obtain ⟨⟨call, answer'⟩, he, hgained⟩ := List.mem_filterMap.mp hmem
      cases call with
      | randomUUID =>
        cases hgained
        exact hanswer he
      | _ => cases hgained
    | _ => cases hgain
  issued_effect := by
    rintro w w' call answer ⟨-, rfl⟩
    rw [List.filterMap_append]
    cases h : CallRecord.gained call answer <;> simp [h]
  used_effect := by
    rintro w w' call answer ⟨-, rfl⟩
    rw [List.filterMap_append]
    cases h : call.spent <;> simp [h]

/-- What one program sees. -/
abbrev View := Local Trace JsString Call Call.Answer

end Contract

/-! ## What a program knows -/

/-- The result of the publication is recorded in the trace. -/
def Recorded (w : Trace) (claim : HcsPublicationClaim) (result : HcsPublicationResult) : Prop :=
  ∃ r ∈ versions w claim.reservationId, r.hcsPublicationClaim = some (publishedClaim claim result)

/-- The commit of a publication met the version of another writer. -/
def RecordConflicted (own : Trace) (claim : HcsPublicationClaim) : Prop :=
  ∃ version next e, ⟨.compareAndSet .hcsPublished claim.reservationId version next, .error e⟩ ∈ own ∧
    e.isVersionConflict

/-- A publication this program made was accepted, and is neither recorded nor lost to another writer. -/
structure Unkept (ℓ : View) (claim : HcsPublicationClaim) (result : HcsPublicationResult) : Prop where
  published : ∃ envelope, ⟨.publish claim envelope, .ok result⟩ ∈ ℓ.own
  accepted : assertValidHcsPublicationResult result claim.expectedTopicId none false = .ok result
  unrecorded : ¬ Recorded ℓ.world claim result
  unopposed : ¬ RecordConflicted ℓ.own claim

/-- What a program knows of the time since an earlier point of it. -/
structure Since (deps : ServiceDeps) (auction : Auction) (ℓ₀ ℓ : View) : Prop where
  grows : ℓ₀.world <+: ℓ.world
  lawful : Lawful deps auction ℓ.world
  kept : ∀ claim result, Unkept ℓ claim result → Unkept ℓ₀ claim result

/-- The same, and no attempt was spent. -/
structure Ahead (deps : ServiceDeps) (auction : Auction) (ℓ₀ ℓ : View) : Prop extends Since deps auction ℓ₀ ℓ where
  held : ℓ₀.held ⊆ ℓ.held

section Rules
variable {deps : ServiceDeps} {auction : Auction} {ℓ₀ ℓ : View} {α β : Type}

theorem Recorded.mono {w w' : Trace} {claim : HcsPublicationClaim} {result : HcsPublicationResult}
    (h : Recorded w claim result) (hw : w <+: w') : Recorded w' claim result := by
  obtain ⟨r, hr, hclaim⟩ := h
  exact ⟨r, mem_versions_later hw hr, hclaim⟩

theorem Ahead.refl (hlawful : Lawful deps auction ℓ.world) : Ahead deps auction ℓ ℓ :=
  ⟨⟨List.prefix_refl _, hlawful, fun _ _ h => h⟩, List.Subset.refl _⟩

theorem Since.here (h : Since deps auction ℓ₀ ℓ) : Ahead deps auction ℓ ℓ := .refl h.lawful

theorem Since.trans {ℓ₁ : View} (h : Since deps auction ℓ₀ ℓ₁) (h' : Since deps auction ℓ₁ ℓ) :
    Since deps auction ℓ₀ ℓ :=
  ⟨h.grows.trans h'.grows, h'.lawful, fun claim result hu => h.kept claim result (h'.kept claim result hu)⟩

theorem Ahead.trans {ℓ₁ : View} (h : Ahead deps auction ℓ₀ ℓ₁) (h' : Ahead deps auction ℓ₁ ℓ) :
    Ahead deps auction ℓ₀ ℓ := ⟨h.toSince.trans h'.toSince, List.Subset.trans h.held h'.held⟩

theorem Since.known {id : JsString} {r : ReservationRecord} (h : Since deps auction ℓ₀ ℓ)
    (hr : r ∈ versions ℓ₀.world id) : r ∈ versions ℓ.world id := mem_versions_later h.grows hr

theorem Since.made {e : CallRecord} (h : Since deps auction ℓ₀ ℓ) (he : e ∈ ℓ₀.world) : e ∈ ℓ.world :=
  h.grows.subset he

variable (deps auction) in
/-- The program makes allowed calls only; a result meets `Q`, an error meets `E`. -/
abbrev Runs (Q : View → α → Prop) (E : View → ServiceError → Prop) (m : ServiceM α) (ℓ : View) : Prop :=
  Prog.SafeM (serviceContract deps auction) Q E m ℓ

variable {Q : View → α → Prop} {R : View → β → Prop} {E : View → ServiceError → Prop}

/-- Sequencing: what the first program leaves is where the second starts. -/
theorem Runs.andThen {m : ServiceM α} {f : α → ServiceM β} (hm : Runs deps auction Q E m ℓ)
    (hlawful : Lawful deps auction ℓ.world)
    (hf : ∀ ℓ' a, ℓ.world <+: ℓ'.world → Lawful deps auction ℓ'.world → Q ℓ' a → Runs deps auction R E (f a) ℓ') :
    Runs deps auction R E (m >>= f) ℓ :=
  Prog.SafeM.bind (Prog.SafeM.mono hm hlawful hf fun _ _ _ _ h => h)

theorem Runs.bind {m : ServiceM α} {f : α → ServiceM β}
    (h : Runs deps auction (fun ℓ a => Runs deps auction R E (f a) ℓ) E m ℓ) : Runs deps auction R E (m >>= f) ℓ :=
  Prog.SafeM.bind h

theorem Runs.check {x : Except ServiceError α} (hQ : ∀ a, x = .ok a → Q ℓ a) (hE : ∀ e, x = .error e → E ℓ e) :
    Runs deps auction Q E (check x) ℓ := Prog.SafeM.ofExcept hQ hE

theorem Runs.outcome {m : ServiceM α} {Q : View → Except ServiceError α → Prop}
    (h : Runs deps auction (fun ℓ a => Q ℓ (.ok a)) (fun ℓ e => Q ℓ (.error e)) m ℓ) :
    Runs deps auction Q E m.outcome ℓ := Prog.SafeM.outcome h

theorem Runs.orElse {m : ServiceM α} {handler : ServiceError → ServiceM β} {k : α → ServiceM β}
    (h : Runs deps auction (fun ℓ a => Runs deps auction R E (k a) ℓ) (fun ℓ e => Runs deps auction R E (handler e) ℓ)
      m ℓ) : Runs deps auction R E (m.orElse handler k) ℓ := by
  refine Runs.bind (Runs.outcome ?_)
  exact h

/-! ## Single calls -/

/-- A call that is no publication leaves no publication behind. -/
theorem Unkept.of_call {call : Call} {answer : call.Answer} {w : Trace} {held : List JsString}
    {claim : HcsPublicationClaim} {result : HcsPublicationResult}
    (h : Unkept ⟨w, held, ℓ.own ++ [⟨call, answer⟩]⟩ claim result) (hw : ℓ.world <+: w)
    (hcall : ∀ claim envelope, call ≠ .publish claim envelope) : Unkept ℓ claim result := by
  obtain ⟨⟨envelope, hmem⟩, haccepted, hunrecorded, hunopposed⟩ := h
  refine ⟨⟨envelope, ?_⟩, haccepted, fun hr => hunrecorded (hr.mono hw), ?_⟩
  · rcases List.mem_append.mp hmem with hmem | hmem
    · exact hmem
    · cases List.mem_singleton.mp hmem
      exact absurd rfl (hcall claim envelope)
  · rintro ⟨version, next, e, he, hconflict⟩
    exact hunopposed ⟨version, next, e, List.mem_append_left _ he, hconflict⟩

/-- A call that spends no attempt. -/
theorem Runs.perform {o : Call} {Q : View → o.Answer → Prop} (h : Ahead deps auction ℓ₀ ℓ)
    (hspent : o.spent = none)
    (hallowed : ∀ w, ℓ.world <+: w → Lawful deps auction w → Allowed deps auction w o)
    (hQ : ∀ ℓ' w answer, Ahead deps auction ℓ₀ ℓ' → ℓ.world <+: w → Lawful deps auction w →
      Answered deps.crypto w o answer → ℓ'.world = w ++ [⟨o, answer⟩] → ℓ'.own = ℓ.own ++ [⟨o, answer⟩] →
      (∀ t, CallRecord.gained o answer = some t → t ∈ ℓ'.held) → Q ℓ' answer) :
    (Prog.perform o : Prog Call Call.Answer o.Answer).Safe (serviceContract deps auction) Q ℓ := by
  refine Prog.Safe.perform hspent hallowed ?_
  intro w answer w' hgrows hlawful heffect hgrows' hlawful'
  refine hQ _ w answer ⟨⟨h.grows.trans hgrows', hlawful', ?_⟩, ?_⟩ hgrows hlawful heffect.1 heffect.2 rfl ?_
  · intro claim result hu
    refine h.kept claim result (hu.of_call hgrows' ?_)
    rintro claim envelope rfl
    cases hspent
  · exact List.subset_append_of_subset_right _ h.held
  · intro t ht
    refine List.mem_append_left _ ?_
    rw [show (serviceContract deps auction).gain o answer = some t from ht]
    exact List.mem_cons_self

/-- A call that is always allowed and always answers. -/
theorem Runs.read {call : Call} {Q : View → call.Answer → Prop} (h : Ahead deps auction ℓ₀ ℓ)
    (hspent : call.spent = none) (hallowed : ∀ w, Allowed deps auction w call)
    (hQ : ∀ ℓ' answer, Ahead deps auction ℓ₀ ℓ' → ⟨call, answer⟩ ∈ ℓ'.world →
      (∀ t, CallRecord.gained call answer = some t → t ∈ ℓ'.held) → Q ℓ' answer) :
    Runs deps auction Q E (read call) ℓ := by
  refine Prog.SafeM.lift (Runs.perform h hspent (fun w _ _ => hallowed w) ?_)
  intro ℓ' w answer hahead _ _ _ hworld _ hgained
  refine hQ ℓ' answer hahead ?_ hgained
  rw [hworld]
  exact List.mem_append_right _ List.mem_cons_self

theorem Runs.nowIso {Q : View → JsString → Prop} (h : Ahead deps auction ℓ₀ ℓ)
    (hQ : ∀ ℓ' t, Ahead deps auction ℓ₀ ℓ' → Clocked ℓ'.world t → Q ℓ' t)
    (hE : ∀ ℓ' n e, Ahead deps auction ℓ₀ ℓ' → ⟨.now, n⟩ ∈ ℓ'.world → ¬ isUtcIsoTimestamp n → E ℓ' e) :
    Runs deps auction Q E nowIso ℓ := by
  refine Runs.bind (Runs.read h rfl (fun _ => trivial) ?_)
  intro ℓ' n hahead hmem _
  refine Runs.bind (Runs.check ?_ ?_)
  · intro _ hutc
    exact hQ ℓ' n hahead ⟨hmem, require_eq_ok.mp hutc⟩
  · intro e he
    exact hE ℓ' n e hahead hmem (require_eq_error.mp he).1

/-- The stored record, which is at least as recent as every version seen before. -/
theorem Runs.storeGet {Q : View → Option ReservationRecord → Prop} {id : JsString} (h : Ahead deps auction ℓ₀ ℓ)
    (hsome : ∀ ℓ' r, Ahead deps auction ℓ₀ ℓ' → r ∈ versions ℓ'.world id →
      (∀ r₀ ∈ versions ℓ.world id, r₀.recordVersion ≤ r.recordVersion) → Q ℓ' (some r))
    (hnone : ∀ ℓ', Ahead deps auction ℓ₀ ℓ' → versions ℓ.world id = [] → Q ℓ' none)
    (hE : ∀ ℓ' e, Ahead deps auction ℓ₀ ℓ' → E ℓ' e) : Runs deps auction Q E (storeGet id) ℓ := by
  refine Runs.perform (o := .get id) h rfl (fun _ _ _ => trivial) ?_
  intro ℓ' w answer hahead hgrows hlawful hanswer hworld _ _
  cases answer with
  | error e => exact hE ℓ' e hahead
  | ok r =>
    have hr : r = stored w id := hanswer
    cases hs : stored w id with
    | none =>
      rw [hr, hs]
      refine hnone ℓ' hahead ?_
      have hempty : versions w id = [] := List.getLast?_eq_none_iff.mp hs
      obtain ⟨v, rfl⟩ := hgrows
      rw [versions_append] at hempty
      exact (List.append_eq_nil_iff.mp hempty).1
    | some r' =>
      rw [hr, hs]
      refine hsome ℓ' r' hahead ?_ ?_
      · rw [hworld, versions_append]
        exact List.mem_append_left _ (mem_versions_of_stored hs)
      · intro r₀ hr₀
        exact hlawful.le_stored (mem_versions_later hgrows hr₀) hs

theorem Runs.requireRecord {Q : View → ReservationRecord → Prop} {id : JsString} (h : Ahead deps auction ℓ₀ ℓ)
    (hQ : ∀ ℓ' r, Ahead deps auction ℓ₀ ℓ' → r ∈ versions ℓ'.world id → r.reservationId = id →
      (∀ r₀ ∈ versions ℓ.world id, r₀.recordVersion ≤ r.recordVersion) → Q ℓ' r)
    (hE : ∀ ℓ' e, Ahead deps auction ℓ₀ ℓ' → E ℓ' e) : Runs deps auction Q E (requireRecord id) ℓ := by
  refine Runs.bind (Runs.storeGet h ?_ ?_ hE)
  · intro ℓ' r hahead hr hlatest
    exact hQ ℓ' r hahead hr (hahead.lawful.reservationId_eq hr) hlatest
  · intro ℓ' hahead _
    exact hE ℓ' _ hahead

/-- A lookup at Mirror. -/
theorem Runs.getTransaction {Q : View → MirrorConfirmation → Prop} {txId : JsString} (h : Ahead deps auction ℓ₀ ℓ)
    (hQ : ∀ ℓ' start mirror, Ahead deps auction ℓ₀ ℓ' → Looked ℓ'.world start txId (.ok mirror) → Q ℓ' mirror)
    (hE : ∀ ℓ' start e, Ahead deps auction ℓ₀ ℓ' → Looked ℓ'.world start txId (.error e) → E ℓ' e) :
    Runs deps auction Q E (getTransaction txId) ℓ := by
  refine Runs.bind (Runs.read h rfl (fun _ => trivial) ?_)
  intro ℓ' start hahead _ _
  refine Runs.perform (o := .getTransaction start txId) hahead rfl (fun _ _ _ => trivial) ?_
  intro ℓ'' w answer hahead' _ _ _ hworld _ _
  have hmem : ⟨.getTransaction start txId, answer⟩ ∈ ℓ''.world := by
    rw [hworld]
    exact List.mem_append_right _ List.mem_cons_self
  cases answer with
  | ok mirror => exact hQ ℓ'' start mirror hahead' hmem
  | error e => exact hE ℓ'' start e hahead' hmem

theorem Runs.isPastDeadline {Q : View → Bool → Prop} {deadline : JsString} (h : Ahead deps auction ℓ₀ ℓ)
    (hQ : ∀ ℓ' b, Ahead deps auction ℓ₀ ℓ' → Q ℓ' b) : Runs deps auction Q E (isPastDeadline deadline) ℓ := by
  refine Runs.bind (Runs.read h rfl (fun _ => trivial) ?_)
  intro ℓ' n hahead _ _
  show Runs deps auction Q E _ ℓ'
  split
  · exact hQ ℓ' _ hahead
  · refine Runs.bind (Runs.read hahead rfl (fun _ => trivial) ?_)
    intro ℓ'' ms hahead' _ _
    exact hQ ℓ'' _ hahead'

/-! ## Commits -/

/-- A commit of a record that was read is a change of that record. -/
theorem Runs.commit {Q : View → ReservationRecord → Prop} {site : CommitSite} {current next : ReservationRecord}
    (h : Ahead deps auction ℓ₀ ℓ) (hcurrent : current ∈ versions ℓ.world current.reservationId)
    (hid : next.reservationId = current.reservationId)
    (hchange : ∀ w, ℓ.world <+: w → Change deps w site current next)
    (hQ : ∀ ℓ' r, Ahead deps auction ℓ₀ ℓ' → r = { next with recordVersion := current.recordVersion + 1 } →
      r ∈ versions ℓ'.world current.reservationId → Valid deps.crypto r → Q ℓ' r)
    (hE : ∀ ℓ' e, Ahead deps auction ℓ₀ ℓ' →
      ⟨.compareAndSet site current.reservationId current.recordVersion next, .error e⟩ ∈ ℓ'.world →
      ⟨.compareAndSet site current.reservationId current.recordVersion next, .error e⟩ ∈ ℓ'.own →
      (e.isVersionConflict → ∃ r ∈ versions ℓ'.world current.reservationId, current.recordVersion < r.recordVersion) →
      E ℓ' e) : Runs deps auction Q E (commit site current next) ℓ := by
  unfold Reservation.commit
  rw [hid]
  refine Runs.perform (o := .compareAndSet site current.reservationId current.recordVersion next) h rfl ?_ ?_
  · intro w hgrows _
    exact ⟨hid, current, mem_versions_later hgrows hcurrent, rfl, hchange w hgrows⟩
  · intro ℓ' w answer hahead hgrows hlawful hanswer hworld hown _
    have hknown := mem_versions_later hgrows hcurrent
    cases answer with
    | ok r =>
      obtain ⟨cur, hcur, hversion, hr, hvalid⟩ := hanswer
      have heq : r = { next with recordVersion := current.recordVersion + 1 } := by
        rw [hr, ReservationRecord.persisted, ← hid]
      refine hQ ℓ' r hahead heq ?_ ?_
      · rw [hworld, versions_snoc]
        simp [CallRecord.written]
      · rw [Valid, show r.reservationId = current.reservationId by rw [heq]; exact hid]
        exact hvalid
    | error e =>
      have hmem : ⟨.compareAndSet site current.reservationId current.recordVersion next, .error e⟩ ∈ ℓ'.world := by
        rw [hworld]
        exact List.mem_append_right _ List.mem_cons_self
      refine hE ℓ' e hahead hmem ?_ ?_
      · rw [hown]
        exact List.mem_append_right _ List.mem_cons_self
      · intro hconflict
        cases e with
        | versionConflict id expected actual =>
          obtain ⟨cur, hcur, hactual, hne⟩ := hanswer
          refine ⟨cur, ?_, ?_⟩
          · rw [hworld, versions_append]
            exact List.mem_append_left _ (mem_versions_of_stored hcur)
          · have := hlawful.le_stored hknown hcur
            omega
        | _ => cases hconflict

/-- The same, where the record of another writer takes the place of a conflict. -/
theorem Runs.commitOrConflict {Q : View → CommitResult → Prop} {site : CommitSite} {current next : ReservationRecord}
    (h : Ahead deps auction ℓ₀ ℓ) (hcurrent : current ∈ versions ℓ.world current.reservationId)
    (hid : next.reservationId = current.reservationId)
    (hchange : ∀ w, ℓ.world <+: w → Change deps w site current next)
    (hok : ∀ ℓ' r, Ahead deps auction ℓ₀ ℓ' → r = { next with recordVersion := current.recordVersion + 1 } →
      r ∈ versions ℓ'.world current.reservationId → Valid deps.crypto r → Q ℓ' ⟨r, false⟩)
    (hconflict : ∀ ℓ' r, Ahead deps auction ℓ₀ ℓ' → r ∈ versions ℓ'.world current.reservationId →
      current.recordVersion < r.recordVersion →
      (∃ e, ⟨.compareAndSet site current.reservationId current.recordVersion next, .error e⟩ ∈ ℓ'.own ∧
        e.isVersionConflict) → Q ℓ' ⟨r, true⟩)
    (hE : ∀ ℓ' e, Ahead deps auction ℓ₀ ℓ' → E ℓ' e) :
    Runs deps auction Q E (commitOrConflict site current next) ℓ := by
  unfold Reservation.commitOrConflict
  refine Runs.bind (Runs.outcome (Runs.commit h.here hcurrent hid hchange ?_ ?_))
  · intro ℓ' r hahead hr hmem hvalid
    exact hok ℓ' r (h.trans hahead) hr hmem hvalid
  · intro ℓ' e hahead _ hown hstale
    show Runs deps auction Q E (if e.isVersionConflict then _ else _) ℓ'
    split
    · next hc =>
      obtain ⟨newer, hnewer, hlt⟩ := hstale hc
      refine Runs.bind (Runs.perform (o := .get current.reservationId) hahead.here rfl (fun _ _ _ => trivial) ?_)
      intro ℓ'' w answer hahead' hgrows hlawful hanswer hworld hown' _
      cases answer with
      | error e' => exact hE ℓ'' e' ((h.trans hahead).trans hahead')
      | ok r =>
        have hr : r = stored w current.reservationId := hanswer
        obtain ⟨last, hlast⟩ := stored_isSome_of_mem (mem_versions_later hgrows hnewer)
        rw [hr, hlast]
        have hle := hlawful.le_stored (mem_versions_later hgrows hnewer) hlast
        refine hconflict ℓ'' last ((h.trans hahead).trans hahead') ?_ (by omega) ⟨e, ?_, hc⟩
        · rw [hworld, versions_append]
          exact List.mem_append_left _ (mem_versions_of_stored hlast)
        · rw [hown']
          exact List.mem_append_left _ hown
    · exact hE ℓ' e (h.trans hahead)

end Rules

end RouteGuard.Reservation
