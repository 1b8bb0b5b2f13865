import RouteGuard.Reservation.OutboxSafety

/-!
# The confirmation keeps the contract

A confirmation is about a payment that is settled: from then on its selection and its transaction stay, whichever
record another writer leaves between two polls.

* `Paying` : the payment a confirmation is about;
* `confirmReservation_runs` : a reported success, with the cause of every failure;
* `runMirrorConfirmation_runs` : the whole confirmation.
-/

namespace RouteGuard.Reservation
open JsString Guarded ReservationState ServiceM

section Confirmation
variable {deps : ServiceDeps} {auction : Auction} {ℓ₀ ℓ : View} {record : ReservationRecord}
  {selected : SelectedPaymentOption} {txId deadline : JsString}

/-- A settled version that is not newer than the record has the selection. -/
structure Paying (w : Trace) (record : ReservationRecord) (selected : SelectedPaymentOption) : Prop where
  settled : ∃ r ∈ versions w record.reservationId, r.state ∈ SETTLED_STATES ∧ r.selected = some selected ∧
    r.recordVersion ≤ record.recordVersion

theorem Paying.mono {w w' : Trace} (h : Paying w record selected) (hw : w <+: w') : Paying w' record selected := by
  obtain ⟨r, hr, hs, hselected, hle⟩ := h
  exact ⟨r, mem_versions_later hw hr, hs, hselected, hle⟩

theorem Paying.later {w : Trace} {r : ReservationRecord} (h : Paying w record selected)
    (hid : r.reservationId = record.reservationId) (hle : record.recordVersion ≤ r.recordVersion) :
    Paying w r selected := by
  obtain ⟨r₀, hr₀, hs, hselected, hle₀⟩ := h
  rw [← hid] at hr₀
  exact ⟨r₀, hr₀, hs, hselected, hle₀.trans hle⟩

theorem Paying.selected_eq {w : Trace} (h : Paying w record selected) (hlawful : Lawful deps auction w)
    (hrecord : record ∈ versions w record.reservationId) : record.selected = some selected := by
  obtain ⟨r, hr, hs, hselected, hle⟩ := h
  rw [(hlawful.settled_later hr hrecord hle hs).payment.selected]
  exact hselected

/-! ## The deadline -/

theorem establishDeadline_runs (hlawful : Lawful deps auction ℓ.world)
    (hrecord : record ∈ versions ℓ.world record.reservationId)
    (htx : requireTransactionIdForSettlement record.transactionId = .ok txId) :
    Completes deps auction (Returned deps auction record ℓ) (establishDeadline deps record txId) ℓ := by
  have h := Ahead.refl hlawful
  unfold establishDeadline
  split
  · next hs =>
    refine Runs.bind (Runs.nowIso h ?_ fun _ _ _ _ _ _ => trivial)
    intro ℓ₁ startedAt h₁ hnow
    refine Runs.bind (Runs.read h₁.here rfl (fun _ => trivial) ?_)
    intro ℓ₂ ms h₁₂ _ _
    have h₂ := h₁.trans h₁₂
    refine Runs.bind (Runs.check ?_ fun _ _ => trivial)
    intro _ _
    refine Runs.bind (Runs.check ?_ fun _ _ => trivial)
    intro deadline hdeadline
    refine Runs.bind (Runs.check ?_ fun _ _ => trivial)
    intro next hnext
    have hchange (w : Trace) (hgrows : ℓ₂.world <+: w) : next.reservationId = record.reservationId ∧
        Change deps w .beginConfirmation record next := by
      have hnow := hnow.mono (h₁₂.grows.trans hgrows)
      rcases hs with hs | ⟨hs, hmissing⟩
      · rw [if_pos hs] at hnext
        obtain ⟨-, -, rfl⟩ := transition_from (r := confirmingRecord record txId startedAt deadline) hs (by decide)
          hnext
        exact ⟨rfl, .confirmation (.beginConfirmation hs htx hnow hdeadline)⟩
      · rw [if_neg (by rw [hs]; decide), pure_eq_ok] at hnext
        subst hnext
        exact ⟨rfl, .confirmation (.renewDeadline hs hmissing htx hnow)⟩
    refine Runs.andThen (commitOrConflict_returns h₂ (h₂.known hrecord) (hchange _ (List.prefix_refl _)).1 ?_) h₂.lawful ?_
    · intro w hgrows
      exact (hchange w hgrows).2
    · intro ℓ₃ r _ _ hr
      exact hr
  · split
    · next hs =>
      have hrebuild (startedAt : JsString) {ℓ₁ : View} (h₁ : Ahead deps auction ℓ ℓ₁) :
          Completes deps auction (Returned deps auction record ℓ)
            (do
              let updatedAt ← nowIso
              commit .rebuildPoll record
                { record with
                  mirrorPoll := some (newPoll txId startedAt (record.confirmationDeadline.getD []))
                  updatedAt := updatedAt }) ℓ₁ := by
        refine Runs.bind (Runs.nowIso h₁ ?_ fun _ _ _ _ _ _ => trivial)
        intro ℓ₂ updatedAt h₂ hnow
        refine Runs.commit h₂ (h₂.known hrecord) rfl ?_ ?_ fun _ _ _ _ _ _ => trivial
        · intro w hgrows
          exact .confirmation (.rebuildPoll hs.1 hs.2 htx (hnow.mono hgrows))
        · intro ℓ₃ r h₃ hr hmem _
          exact ⟨h₃.toSince, hmem, by rw [hr]; exact Nat.le_succ _⟩
      show Completes deps auction _ (if record.updatedAt = [] then _ else _) ℓ
      split
      · exact Runs.bind (Runs.nowIso h (fun _ startedAt h₁ _ => hrebuild startedAt h₁) fun _ _ _ _ _ _ => trivial)
      · exact hrebuild record.updatedAt h
    · exact .self h.toSince hrecord

/-! ## A reported success -/

theorem Polled.mono {w w' : Trace} {cur before : ReservationRecord} {pollAt : JsString}
    {answer : Except ServiceError MirrorConfirmation} (h : Polled w cur before txId deadline pollAt answer)
    (hw : w <+: w') : Polled w' cur before txId deadline pollAt answer := by
  obtain ⟨r, hr, hdurable⟩ := h.durable
  obtain ⟨start, hlooked⟩ := h.looked
  exact ⟨mem_versions_later hw h.loaded, h.confirming, h.loaded_tx, h.tx, ⟨r, mem_versions_later hw hr, hdurable⟩,
    h.time.mono hw, start, hw.subset hlooked⟩

theorem ConfirmationCause.mono {w w' : Trace} {mirror : MirrorConfirmation} {e : ServiceError}
    (h : ConfirmationCause w record selected mirror txId e) (hw : w <+: w') :
    ConfirmationCause w' record selected mirror txId e := by
  cases h with
  | ledger h => exact .ledger h
  | store hverified h =>
    obtain ⟨next, hmem, he⟩ := h
    exact .store hverified ⟨next, hw.subset hmem, he⟩
  | clock n h hn => exact .clock n (hw.subset h) hn
  | repeated h => exact .repeated h
  | stale h =>
    obtain ⟨r, hr, hlt⟩ := h
    exact .stale ⟨r, mem_versions_later hw hr, hlt⟩

/-- What stands behind an error of the confirmation: its cause, or a state that cannot be confirmed. -/
inductive Unconfirmed (w : Trace) (record : ReservationRecord) (selected : SelectedPaymentOption)
    (mirror : MirrorConfirmation) (txId : JsString) (e : ServiceError) : Prop
  | cause (h : ConfirmationCause w record selected mirror txId e)
  | elsewhere (h : record.state ≠ mirrorConfirmationPending)

/-- The record of a confirmed payment. -/
structure PaymentConfirmed (record : ReservationRecord) (selected : SelectedPaymentOption) (txId : JsString)
    (mirror : MirrorConfirmation) (c : Confirmed) : Prop where
  state : c.record.state = paymentConfirmed
  id : c.record.reservationId = record.reservationId
  verified : verifySuccess selected mirror txId = .ok c.verified
  selected : c.record.selected = some selected
  tx : c.record.transactionId = some txId
  mirror : c.record.mirrorConfirmation = some mirror
  later : record.recordVersion ≤ c.record.recordVersion

section Success
variable {before : ReservationRecord} {pollAt : JsString} {mirror : MirrorConfirmation}

theorem confirmPayment_runs (hlawful : Lawful deps auction ℓ.world)
    (hrecord : record ∈ versions ℓ.world record.reservationId)
    (hpolled : Polled ℓ.world record before txId deadline pollAt (.ok mirror))
    (hselected : record.selected = some selected) :
    Runs deps auction
      (fun ℓ' c => Ahead deps auction ℓ ℓ' ∧ c.record ∈ versions ℓ'.world record.reservationId ∧
        PaymentConfirmed record selected txId mirror c)
      (fun ℓ' e => Ahead deps auction ℓ ℓ' ∧ Unconfirmed ℓ'.world record selected mirror txId e)
      (confirmPayment record selected txId mirror (pollOf before txId deadline pollAt (.ok mirror))) ℓ := by
  have h := Ahead.refl hlawful
  refine Runs.bind (Runs.check ?_ fun e he => ⟨h, .cause (.ledger he)⟩)
  intro verified hverified
  refine Runs.bind (Runs.nowIso h ?_ fun ℓ' n e h' hmem hn => ⟨h', .cause (.clock n hmem hn)⟩)
  intro ℓ₁ updatedAt h₁ hupdated
  refine Runs.bind (Runs.nowIso h₁.here ?_ fun ℓ' n e h' hmem hn => ⟨h₁.trans h', .cause (.clock n hmem hn)⟩)
  intro ℓ₂ now h₁₂ hnow
  have h₂ := h₁.trans h₁₂
  refine Runs.bind (Runs.check ?_ ?_)
  · intro next hnext
    have hmoved := moved_of_transition hnext hnow
    obtain ⟨htarget, hrest⟩ := hmoved.rest
    have hid : next.reservationId = record.reservationId := by rw [hrest]
    refine Runs.bind (Runs.commit h₂ (h₂.known hrecord) hid ?_ ?_ ?_)
    · intro w hgrows
      exact .confirmation (.confirm (hmoved.mono hgrows) (hpolled.mono (h₂.grows.trans hgrows)) hselected hverified
        (hupdated.mono (h₁₂.grows.trans hgrows)))
    · intro ℓ₃ r h₃ hr hmem _
      refine ⟨h₃, hmem, ?_⟩
      rw [hr]
      refine ⟨htarget, hid, hverified, ?_, ?_, ?_, Nat.le_succ _⟩
      · rw [hrest]
        exact hselected
      · rw [hrest]
        exact hpolled.tx
      · rw [hrest]
    · intro ℓ₃ e h₃ hmem _ hstale
      refine ⟨h₃, ?_⟩
      by_cases hconflict : e.isVersionConflict
      · exact .cause (.stale (hstale hconflict))
      · exact .cause (.store ⟨verified, hverified⟩ ⟨next, hmem, hconflict⟩)
  · -- the transition is legal from the one state whose confirmation can fail
    intro e he
    refine ⟨h₂, .elsewhere ?_⟩
    intro hpending
    have hok := (@transition_eq_ok { record with
      mirrorConfirmation := some mirror
      mirrorPoll := some (successPoll (pollOf before txId deadline pollAt (.ok mirror)) verified)
      updatedAt := updatedAt } _ paymentConfirmed (js "mirror SUCCESS verified") now).mpr (.inr ⟨by rw [hpending]; decide, by rw [hpending]; decide, hnow.utc, rfl⟩)
    rw [hok] at he
    cases he

theorem failConfirmation_runs {e : ServiceError} (h : Since deps auction ℓ₀ ℓ)
    (hrecord : record ∈ versions ℓ.world record.reservationId)
    (hpolled : Polled ℓ.world record before txId deadline pollAt (.ok mirror))
    (hselected : record.selected = some selected) (hsuccess : mirror.status = .success)
    (hcause : Unconfirmed ℓ.world record selected mirror txId e) :
    Completes deps auction (Returned deps auction record ℓ₀)
      (failConfirmation mirror (pollOf before txId deadline pollAt (.ok mirror)) record e) ℓ := by
  unfold failConfirmation
  split
  · trivial
  · refine Runs.bind (Runs.nowIso h.here ?_ fun _ _ _ _ _ _ => trivial)
    intro ℓ₁ now h₁ hnow
    refine Runs.bind (Runs.check ?_ fun _ _ => trivial)
    intro next hnext
    have hmoved := moved_of_transition hnext hnow
    have hid : next.reservationId = record.reservationId := by rw [hmoved.rest.2]
    refine Runs.commit h₁ (h₁.known hrecord) hid ?_ ?_ fun _ _ _ _ _ _ => trivial
    · intro w hgrows
      have hw := h₁.grows.trans hgrows
      refine .confirmation (.failConfirmation (hmoved.mono hgrows) (hpolled.mono hw) hselected hsuccess
        ?_)
      cases hcause with
      | cause hcause => exact hcause.mono hw
      | elsewhere hne =>
        rcases hmoved.source (by decide) with hs | hs
        · exact .repeated hs
        · exact absurd hs hne
    · intro ℓ₂ r h₂ hr hmem _
      exact ⟨h.trans h₂.toSince, hmem, by rw [hr]; exact Nat.le_succ _⟩

/-- A record that cannot fail any more passes the error on. -/
theorem failConfirmation_reserved {poll : MirrorPollRecord} {e : ServiceError} {Q : View → ReservationRecord → Prop}
    (hstate : record.routeReserved.isSome ∨ record.state = paymentConfirmed) (hlawful : Lawful deps auction ℓ.world) :
    Completes deps auction Q (failConfirmation mirror poll record e) ℓ := by
  unfold failConfirmation
  split
  · trivial
  · next hnone =>
    have hs := hstate.resolve_left hnone
    refine Runs.bind (Runs.nowIso (Ahead.refl hlawful) ?_ fun _ _ _ _ _ _ => trivial)
    intro ℓ₁ now _ hnow
    refine Runs.bind (Runs.check ?_ fun _ _ => trivial)
    intro next hnext
    rcases (moved_of_transition hnext hnow).source (by decide) with hs' | hs' <;> rw [hs] at hs' <;>
      cases hs'

theorem reserveRoute_runs {c : Confirmed} (hlawful : Lawful deps auction ℓ.world)
    (hknown : c.record ∈ versions ℓ.world c.record.reservationId)
    (hconfirmed : PaymentConfirmed record selected txId mirror c) :
    Completes deps auction (fun ℓ' r => Returned deps auction c.record ℓ ℓ' r ∧ r.routeReserved.isSome)
      (reserveRoute deps c.record selected txId mirror c.verified) ℓ := by
  have h := Ahead.refl hlawful
  refine Runs.bind (Runs.check ?_ fun _ _ => trivial)
  intro _ _
  refine Runs.bind (Runs.check ?_ fun _ _ => trivial)
  intro rr hrr
  refine Runs.bind (Runs.nowIso h ?_ fun _ _ _ _ _ _ => trivial)
  intro ℓ₁ now h₁ hnow
  refine Runs.bind (Runs.check ?_ fun _ _ => trivial)
  intro next hnext
  obtain ⟨-, -, rfl⟩ := transition_from hconfirmed.state (by decide) hnext
  refine Runs.commit h₁ (h₁.known hknown) rfl ?_ ?_ fun _ _ _ _ _ _ => trivial
  · intro w hgrows
    exact .confirmation (.reserve hconfirmed.state hconfirmed.tx hconfirmed.selected hconfirmed.mirror
      hconfirmed.verified hrr (hnow.mono hgrows))
  · intro ℓ₂ r h₂ hr hmem _
    refine ⟨⟨h₂.toSince, hmem, by rw [hr]; exact Nat.le_succ _⟩, ?_⟩
    rw [hr]
    rfl

theorem completeReservation_runs (hlawful : Lawful deps auction ℓ.world)
    (hrecord : record ∈ versions ℓ.world record.reservationId) :
    Completes deps auction (Returned deps auction record ℓ) (completeReservation record) ℓ := by
  have h := Ahead.refl hlawful
  unfold completeReservation
  split
  · next hs =>
    refine Runs.bind (Runs.nowIso h ?_ fun _ _ _ _ _ _ => trivial)
    intro ℓ₁ now h₁ hnow
    refine Runs.bind (Runs.check ?_ fun _ _ => trivial)
    intro next hnext
    have hne : record.state ≠ completed := by
      intro heq
      rw [heq] at hs
      exact absurd hs (by decide)
    obtain ⟨-, -, rfl⟩ := transition_from rfl hne hnext
    refine Runs.commit h₁ (h₁.known hrecord) rfl ?_ ?_ fun _ _ _ _ _ _ => trivial
    · intro w hgrows
      exact .outbox (.complete hs (hnow.mono hgrows))
    · intro ℓ₂ r h₂ hr hmem _
      exact ⟨h₂.toSince, hmem, by rw [hr]; exact Nat.le_succ _⟩
  · exact .self h.toSince hrecord

/-- A reserved route stays reserved in the record that is given out. -/
theorem Returned.reserved {r : ReservationRecord} (h : Returned deps auction record ℓ₀ ℓ r)
    (hrecord : record ∈ versions ℓ₀.world record.reservationId) (hreserved : record.routeReserved.isSome) :
    r.routeReserved.isSome := by
  have hknown := h.since.known hrecord
  have hs := (h.since.lawful.valid hknown).reserved_iff.mp hreserved
  rw [(h.since.lawful.reserved_later hknown h.known h.later hs).2.1]
  exact hreserved

/-- One step after the reservation: its error is passed on. -/
theorem afterReserved_runs {m : ServiceM ReservationRecord} {k : ReservationRecord → ServiceM ReservationRecord}
    {reserved : ReservationRecord} {poll : MirrorPollRecord} (hreturned : Returned deps auction record ℓ₀ ℓ reserved)
    (hreserved : reserved.routeReserved.isSome)
    (hm : Completes deps auction (Returned deps auction reserved ℓ) m ℓ)
    (hk : ∀ ℓ' r, Returned deps auction record ℓ₀ ℓ' r → r.routeReserved.isSome →
      Completes deps auction (Returned deps auction record ℓ₀) (k r) ℓ') :
    Completes deps auction (Returned deps auction record ℓ₀) (m.orElse (failConfirmation mirror poll reserved) k) ℓ := by
  refine Runs.orElse (Prog.SafeM.mono hm hreturned.since.lawful ?_ ?_)
  · intro ℓ' r _ _ hr
    exact hk ℓ' r (hreturned.trans hr) (hr.reserved hreturned.known_self hreserved)
  · intro ℓ' e _ hlawful _
    exact failConfirmation_reserved (.inl hreserved) hlawful

theorem confirmReservation_runs (hlawful : Lawful deps auction ℓ.world)
    (hrecord : record ∈ versions ℓ.world record.reservationId)
    (hpolled : Polled ℓ.world record before txId deadline pollAt (.ok mirror))
    (hselected : record.selected = some selected) (hsuccess : mirror.status = .success) :
    Completes deps auction (Returned deps auction record ℓ)
      (confirmReservation deps record selected txId mirror (pollOf before txId deadline pollAt (.ok mirror))) ℓ := by
  refine Runs.orElse (Prog.SafeM.mono (confirmPayment_runs hlawful hrecord hpolled hselected) hlawful ?_ ?_)
  · rintro ℓ₁ c _ hlawful₁ ⟨h₁, hmem, hconfirmed⟩
    have hreturned : Returned deps auction record ℓ ℓ₁ c.record := ⟨h₁.toSince, hmem, hconfirmed.later⟩
    refine Runs.orElse (Prog.SafeM.mono (reserveRoute_runs hlawful₁ hreturned.known_self hconfirmed) hlawful₁ ?_ ?_)
    · rintro ℓ₂ reserved _ hlawful₂ ⟨hr, hreserved⟩
      have hreturned₂ := hreturned.trans hr
      refine afterReserved_runs hreturned₂ hreserved (dispatchWebhooks_runs hlawful₂ hreturned₂.known_self) ?_
      intro ℓ₃ dispatched hreturned₃ hreserved₃
      refine afterReserved_runs hreturned₃ hreserved₃
        (publishHcsEvidence_runs deps.depth ℓ₃ dispatched hreturned₃.since.lawful hreturned₃.known_self) ?_
      intro ℓ₄ published hreturned₄ hreserved₄
      refine afterReserved_runs hreturned₄ hreserved₄
        (completeReservation_runs hreturned₄.since.lawful hreturned₄.known_self) ?_
      intro ℓ₅ completed hreturned₅ _
      exact hreturned₅
    · intro ℓ₂ e _ hlawful₂ _
      exact failConfirmation_reserved (.inr hconfirmed.state) hlawful₂
  · rintro ℓ₁ e _ _ ⟨h₁, hcause⟩
    exact failConfirmation_runs h₁.toSince (h₁.known hrecord) (hpolled.mono h₁.grows) hselected hsuccess hcause

end Success

/-! ## The loop -/

/-- A commit that brings the record to a state and replaces what its end is made of. -/
theorem endConfirmation_runs {site : CommitSite} {target : ReservationState} {reason : JsString}
    {f : ReservationRecord → ReservationRecord} (hlawful : Lawful deps auction ℓ.world)
    (hrecord : record ∈ versions ℓ.world record.reservationId)
    (hid : ∀ mid, (f mid).reservationId = mid.reservationId)
    (hchange : ∀ w mid, ℓ.world <+: w → Moved w record target mid → Change deps w site record (f mid)) :
    Completes deps auction (Returned deps auction record ℓ)
      (do
        let now ← nowIso
        let next ← check (transition record target reason now)
        commit site record (f next)) ℓ := by
  refine Runs.bind (Runs.nowIso (Ahead.refl hlawful) ?_ fun _ _ _ _ _ _ => trivial)
  intro ℓ₁ now h₁ hnow
  refine Runs.bind (Runs.check ?_ fun _ _ => trivial)
  intro next hnext
  have hmoved := moved_of_transition hnext hnow
  refine Runs.commit h₁ (h₁.known hrecord) (by rw [hid, hmoved.rest.2]) ?_ ?_ fun _ _ _ _ _ _ => trivial
  · intro w hgrows
    exact hchange w next (h₁.grows.trans hgrows) (hmoved.mono hgrows)
  · intro ℓ₂ r h₂ hr hmem _
    exact ⟨h₂.toSince, hmem, by rw [hr]; exact Nat.le_succ _⟩

theorem pollBoundExhausted_runs (hlawful : Lawful deps auction ℓ.world)
    (hrecord : record ∈ versions ℓ.world record.reservationId) :
    Completes deps auction (Returned deps auction record ℓ) (pollBoundExhausted record) ℓ :=
  endConfirmation_runs hlawful hrecord (fun _ => rfl) fun _ _ _ hmoved => .confirmation (.pollBound hmoved)

theorem afterPoll_runs {again : ReservationRecord → ServiceM ReservationRecord} {before : ReservationRecord}
    {pollAt : JsString} {answer : Except ServiceError MirrorConfirmation} (hlawful : Lawful deps auction ℓ.world)
    (hrecord : record ∈ versions ℓ.world record.reservationId)
    (hpolled : Polled ℓ.world record before txId deadline pollAt answer) (hselected : record.selected = some selected)
    (hagain : ∀ ℓ', Since deps auction ℓ ℓ' → Completes deps auction (Returned deps auction record ℓ') (again record) ℓ') :
    Completes deps auction (Returned deps auction record ℓ)
      (afterPoll deps again record selected txId deadline answer (pollOf before txId deadline pollAt answer)) ℓ := by
  have hinconclusive : Completes deps auction (Returned deps auction record ℓ)
      (do
        if ← isPastDeadline deadline then timeOut record answer (pollOf before txId deadline pollAt answer)
        else
          let _ ← read (Call.sleep deps.mirrorPollIntervalMs)
          again record) ℓ := by
    refine Runs.bind (Runs.isPastDeadline (.refl hlawful) ?_)
    intro ℓ₁ past h₁
    have hself : Returned deps auction record ℓ ℓ₁ record := .self h₁.toSince (h₁.known hrecord)
    show Completes deps auction _ (if past then _ else _) ℓ₁
    split
    · refine Prog.SafeM.mono (endConfirmation_runs h₁.lawful (h₁.known hrecord) (fun _ => rfl) ?_) h₁.lawful ?_
        fun _ _ _ _ _ => trivial
      · intro w mid hw hmoved
        exact .confirmation (.timeOut hmoved (hpolled.mono (h₁.grows.trans hw)))
      · intro ℓ₂ r _ _ hr
        exact hself.trans hr
    · refine Runs.bind (Runs.read h₁ rfl (fun _ => trivial) ?_)
      intro ℓ₂ _ h₂ _ _
      refine Prog.SafeM.mono (hagain ℓ₂ h₂.toSince) h₂.lawful ?_ fun _ _ _ _ _ => trivial
      intro ℓ₃ r _ _ hr
      exact (Returned.self h₂.toSince (h₂.known hrecord)).trans hr
  cases answer with
  | error e => exact hinconclusive
  | ok mirror =>
    cases hstatus : mirror.status with
    | failed =>
      simp only [afterPoll, hstatus]
      refine endConfirmation_runs (f := fun mid => { mid with
        failureCode := some (js "MIRROR_FAILED")
        failureReason := some (js "Mirror Node reported FAILED")
        mirrorConfirmation := some mirror
        mirrorPoll := some (pollOf before txId deadline pollAt (.ok mirror)) }) hlawful hrecord (fun _ => rfl) ?_
      intro w mid hw hmoved
      exact .confirmation (.mirrorFailed hmoved (hpolled.mono hw) hstatus)
    | success =>
      simp only [afterPoll, hstatus]
      exact confirmReservation_runs hlawful hrecord hpolled hselected hstatus
    | pending =>
      simp only [afterPoll, hstatus]
      exact hinconclusive
    | notFound =>
      simp only [afterPoll, hstatus]
      exact hinconclusive

theorem pollLoop_runs (n : Nat) (hlawful : Lawful deps auction ℓ.world)
    (hrecord : record ∈ versions ℓ.world record.reservationId) (hpaying : Paying ℓ.world record selected)
    (hdurable : ∃ r ∈ versions ℓ.world record.reservationId,
      r.recordVersion ≤ record.recordVersion ∧ durableDeadline r = .ok deadline) :
    Completes deps auction (Returned deps auction record ℓ) (pollLoop deps selected txId deadline n record) ℓ := by
  induction n generalizing ℓ record with
  | zero => exact pollBoundExhausted_runs hlawful hrecord
  | succ n ih =>
    refine Runs.bind (Runs.requireRecord (.refl hlawful) ?_ fun _ _ _ => trivial)
    intro ℓ₁ loaded h₁ hloaded hid hlatest
    have hreturned : Returned deps auction record ℓ ℓ₁ loaded := ⟨h₁.toSince, hloaded, hlatest record hrecord⟩
    refine Runs.bind (Runs.check ?_ fun _ _ => trivial)
    intro _ hfixed
    show Completes deps auction _ (if loaded.state ∈ _ then _ else _) ℓ₁
    split
    · next hstate =>
      have htx : loaded.transactionId = some txId := by
        unfold checkFixed at hfixed
        split at hfixed
        · cases hfixed
        · simp only [check_eq_ok, require_eq_ok] at hfixed
          exact hfixed.2
      have hconfirming : loaded.state = mirrorConfirmationPending ∨ loaded.state = facilitatorSettled := by
        simpa using hstate
      have hsettled : loaded.state ∈ SETTLED_STATES := by
        rcases hconfirming with hs | hs <;> rw [hs] <;> decide
      refine Runs.bind (Runs.nowIso h₁.here ?_ fun _ _ _ _ _ _ => trivial)
      intro ℓ₂ pollAt h₂ htime
      refine Runs.andThen (Q := fun ℓ' answer => Ahead deps auction ℓ₁ ℓ' ∧ ∃ start, Looked ℓ'.world start txId answer)
        (Runs.outcome (Runs.getTransaction h₂ ?_ ?_)) h₂.lawful ?_
      · intro ℓ' start mirror h' hlooked
        exact ⟨h', start, hlooked⟩
      · intro ℓ' start e h' hlooked
        exact ⟨h', start, hlooked⟩
      rintro ℓ₃ answer hgrows₃ _ ⟨h₃, start, hlooked⟩
      have htime := htime.mono hgrows₃
      obtain ⟨durable, hdurable, hearlier, hdeadline⟩ := hdurable
      have hearlier := hearlier.trans hreturned.later
      have hknown : loaded ∈ versions ℓ₃.world loaded.reservationId := h₃.known hreturned.known_self
      have hdurable₃ : durable ∈ versions ℓ₃.world loaded.reservationId := by
        rw [hid]
        exact h₃.known (h₁.known hdurable)
      refine Runs.andThen (commitOrConflict_returns h₃ hknown rfl ?_) h₃.lawful ?_
      · intro w hgrows
        have hpolled : Polled ℓ₃.world loaded loaded txId deadline pollAt answer :=
          ⟨hknown, hconfirming, htx, htx, ⟨durable, hdurable₃, hearlier, hdeadline⟩, htime, start, hlooked⟩
        exact .confirmation (.poll (hpolled.mono hgrows))
      rintro ℓ₄ ⟨cur, conflicted⟩ hgrows₄ hlawful₄ hcur
      -- whoever was first, the payment is the one that was loaded
      have hcurId : cur.reservationId = loaded.reservationId := hlawful₄.reservationId_eq hcur.known
      have hsame := hlawful₄.settled_later (hcur.since.known hreturned.known_self) hcur.known hcur.later hsettled
      have hpayingCur : Paying ℓ₄.world cur selected := by
        refine (hpaying.mono (h₁.grows.trans hcur.since.grows)).later (hcurId.trans hid) ?_
        exact hreturned.later.trans hcur.later
      have hpolled : Polled ℓ₄.world cur loaded txId deadline pollAt answer := by
        refine ⟨?_, hconfirming, htx, hsame.payment.transactionId.trans htx, ⟨durable, ?_, hearlier, hdeadline⟩,
          htime.mono hgrows₄, start, hgrows₄.subset hlooked⟩
        · rw [hcurId]
          exact hcur.since.known hreturned.known_self
        · rw [hcurId]
          exact mem_versions_later hgrows₄ hdurable₃
      refine Prog.SafeM.mono (afterPoll_runs hlawful₄ hcur.known_self hpolled
        (hpayingCur.selected_eq hlawful₄ hcur.known_self) ?_) hlawful₄ ?_ fun _ _ _ _ _ => trivial
      · intro ℓ₅ h₅
        refine ih h₅.lawful (h₅.known hcur.known_self) (hpayingCur.mono h₅.grows)
          ⟨durable, ?_, hearlier.trans hcur.later, hdeadline⟩
        rw [hcurId]
        exact h₅.known (mem_versions_later hgrows₄ hdurable₃)
      · intro ℓ₅ r _ _ hr
        exact (hreturned.trans hcur).trans hr
    · exact hreturned

theorem runMirrorConfirmation_runs (hlawful : Lawful deps auction ℓ.world)
    (hrecord : record ∈ versions ℓ.world record.reservationId) (hsettled : record.state ∈ SETTLED_STATES)
    (hselected : record.selected = some selected) :
    Completes deps auction (Returned deps auction record ℓ) (runMirrorConfirmation deps record selected) ℓ := by
  refine Runs.bind (Runs.check ?_ fun _ _ => trivial)
  intro txId htx
  refine Runs.andThen (establishDeadline_runs hlawful hrecord htx) hlawful ?_
  intro ℓ₁ started _ hlawful₁ hstarted
  refine Runs.bind (Runs.check ?_ fun _ _ => trivial)
  intro deadline hdeadline
  have hpaying : Paying ℓ.world record selected := ⟨record, hrecord, hsettled, hselected, le_refl _⟩
  have hid := hlawful₁.reservationId_eq hstarted.known
  refine Prog.SafeM.mono (pollLoop_runs _ hlawful₁ hstarted.known_self
    ((hpaying.mono hstarted.since.grows).later hid hstarted.later) ⟨started, hstarted.known_self, le_refl _, hdeadline⟩) hlawful₁ ?_
    fun _ _ _ _ _ => trivial
  intro ℓ₂ r _ _ hr
  exact hstarted.trans hr

end Confirmation

end RouteGuard.Reservation
