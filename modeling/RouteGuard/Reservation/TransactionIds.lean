import RouteGuard.Lib.Separated
import RouteGuard.Reservation.PaymentVerifier
import RouteGuard.Reservation.RecordSchema

/-!
# Ids of one transaction

An id is written in SDK form or in Mirror form, with or without zeros before its numbers. Three comparisons are applied
to ids on the way of one payment.

* `TxIdMatch.WellFormed`, `Spells` : the two forms of an id;
* `TxIdMatch.transaction` : the account, the second and the nanosecond it denotes;
* `VerifierAccepts` : the comparison of the payment verifier;
* `transaction_ids_agree_iff` : when the comparisons agree with each other and with the transactions.
-/

namespace RouteGuard.Reservation
open JsString Guarded Separated

/-! ## Parts -/

theorem splitOn_of_not_mem {sep : UInt16} {s : JsString} (h : sep ∉ s) : splitOn sep s = [s] := by
  induction s with
  | nil => rfl
  | cons u s ih =>
    rw [List.mem_cons, not_or] at h
    rw [splitOn, if_neg (Ne.symm h.1), ih h.2]

theorem splitOn_append {sep : UInt16} {s : JsString} (t : JsString) (h : sep ∉ s) :
    splitOn sep (s ++ sep :: t) = s :: splitOn sep t := by
  induction s with
  | nil => rw [List.nil_append, splitOn, if_pos rfl]
  | cons u s ih =>
    rw [List.mem_cons, not_or] at h
    rw [List.cons_append, splitOn, if_neg (Ne.symm h.1), ih h.2]

theorem splitOn_ne_nil (sep : UInt16) (s : JsString) : splitOn sep s ≠ [] := by
  cases s with
  | nil => exact List.cons_ne_nil _ _
  | cons u s =>
    rw [splitOn]
    split
    · exact List.cons_ne_nil _ _
    · split <;> exact List.cons_ne_nil _ _

/-- The parts, joined again. -/
theorem intercalate_splitOn (sep : UInt16) (s : JsString) : [sep].intercalate (splitOn sep s) = s := by
  induction s with
  | nil => rfl
  | cons u s ih =>
    rw [splitOn]
    cases hparts : splitOn sep s with
    | nil => exact absurd hparts (splitOn_ne_nil sep s)
    | cons part parts =>
      rw [hparts] at ih
      split
      · next hsep =>
        rw [List.intercalate_cons_cons, ih, hsep]
        rfl
      · cases parts with
        | nil =>
          simp only [List.intercalate_singleton] at ih ⊢
          rw [ih]
        | cons next parts =>
          rw [List.intercalate_cons_cons] at ih ⊢
          rw [List.cons_append, List.cons_append, ih]

/-- What is no separator lies in a part. -/
theorem mem_part_of_mem (sep : UInt16) {u : UInt16} {s : JsString} (h : u ∈ s) : u = sep ∨ ∃ part ∈ splitOn sep s, u ∈ part := by
  induction s with
  | nil => cases h
  | cons v s ih =>
    rw [splitOn]
    split
    · next hsep =>
      rcases List.mem_cons.mp h with rfl | h
      · exact .inl hsep
      · exact (ih h).imp_right fun ⟨part, hpart, hu⟩ => ⟨part, List.mem_cons_of_mem _ hpart, hu⟩
    · next hsep =>
      cases hparts : splitOn sep s with
      | nil =>
        rcases List.mem_cons.mp h with rfl | h
        · exact .inr ⟨[u], List.mem_singleton_self _, List.mem_singleton_self _⟩
        · rw [hparts] at ih
          exact (ih h).imp_right fun ⟨part, hpart, _⟩ => absurd hpart List.not_mem_nil
      | cons first rest =>
        rcases List.mem_cons.mp h with rfl | h
        · exact .inr ⟨u :: first, List.mem_cons_self, List.mem_cons_self⟩
        · rw [hparts] at ih
          refine (ih h).imp_right fun ⟨part, hpart, hu⟩ => ?_
          rcases List.mem_cons.mp hpart with rfl | hpart
          · exact ⟨v :: part, List.mem_cons_self, List.mem_cons_of_mem _ hu⟩
          · exact ⟨part, List.mem_cons_of_mem _ hpart, hu⟩

/-! ## The two forms -/

/-- The groups are what the patterns match. -/
structure TxIdMatch.WellFormed (m : TxIdMatch) : Prop where
  account : isDottedAccount m.account
  seconds : isDigits m.seconds
  nanos : isDigits m.nanos

def TxIdMatch.sdkForm (m : TxIdMatch) : JsString := m.account ++ js "@" ++ m.seconds ++ js "." ++ m.nanos

/-- An id in one of its two forms. -/
inductive Spells (m : TxIdMatch) : JsString → Prop
  | sdk : Spells m m.sdkForm
  | mirror : Spells m m.mirrorForm

/-- A transaction: the numbers of its account, its second and its nanosecond. -/
structure Transaction where
  account : List Nat
  seconds : Nat
  nanos : Nat
  deriving DecidableEq, Repr

/-- What an id denotes; zeros before a number do not count. -/
def TxIdMatch.transaction (m : TxIdMatch) : Transaction where
  account := (splitOn 0x2E m.account).map digitsValue
  seconds := digitsValue m.seconds
  nanos := digitsValue m.nanos

theorem mem_isDigits {s : JsString} (h : isDigits s) {u : UInt16} (hu : u ∈ s) : isDigit u := by
  rw [isDigits, Bool.and_eq_true] at h
  exact List.all_eq_true.mp h.2 u hu

theorem not_mem_isDigits {s : JsString} (h : isDigits s) {u : UInt16} (hu : isDigit u = false) : u ∉ s := fun hmem => by
  rw [mem_isDigits h hmem] at hu
  cases hu

/-- An account has digits and points only. -/
theorem mem_account {s : JsString} (h : isDottedAccount s) {u : UInt16} (hu : u ∈ s) : isDigit u ∨ u = 0x2E := by
  rw [isDottedAccount, Bool.and_eq_true] at h
  rcases mem_part_of_mem 0x2E hu with rfl | ⟨part, hpart, hmem⟩
  · exact .inr rfl
  · exact .inl (mem_isDigits (List.all_eq_true.mp h.2 part hpart) hmem)

theorem not_mem_account {s : JsString} (h : isDottedAccount s) {u : UInt16} (hu : isDigit u = false) (hpoint : u ≠ 0x2E) :
    u ∉ s := fun hmem => (mem_account h hmem).elim (fun hd => by rw [hu] at hd; cases hd) hpoint

section Forms
variable {m n : TxIdMatch} {a b : JsString}

theorem TxIdMatch.sdkForm_eq (m : TxIdMatch) : m.sdkForm = m.account ++ 0x40 :: (m.seconds ++ 0x2E :: m.nanos) := by
  simp only [sdkForm, List.append_assoc]
  rfl

theorem TxIdMatch.mirrorForm_eq (m : TxIdMatch) : m.mirrorForm = m.account ++ 0x2D :: (m.seconds ++ 0x2D :: m.nanos) := by
  simp only [mirrorForm, List.append_assoc]
  rfl

theorem TxIdMatch.WellFormed.matchSdkTxId (h : m.WellFormed) : matchSdkTxId m.sdkForm = some m := by
  have haccount : splitOn 0x40 m.sdkForm = [m.account, m.seconds ++ 0x2E :: m.nanos] := by
    rw [m.sdkForm_eq, splitOn_append _ (not_mem_account h.account (by decide) (by decide)), splitOn_of_not_mem]
    rw [List.mem_append, List.mem_cons]
    rintro (hu | hu | hu)
    · exact not_mem_isDigits h.seconds (by decide) hu
    · exact absurd hu (by decide)
    · exact not_mem_isDigits h.nanos (by decide) hu
  have hstamp : splitOn 0x2E (m.seconds ++ 0x2E :: m.nanos) = [m.seconds, m.nanos] := by
    rw [splitOn_append _ (not_mem_isDigits h.seconds (by decide)), splitOn_of_not_mem (not_mem_isDigits h.nanos (by decide))]
  rw [Reservation.matchSdkTxId, haccount]
  simp only [hstamp, h.account, h.seconds, h.nanos, Bool.and_self, if_true]

/-- An id in Mirror form has no `@`. -/
theorem TxIdMatch.WellFormed.matchSdkTxId_mirrorForm (h : m.WellFormed) : Reservation.matchSdkTxId m.mirrorForm = none := by
  have hat : (0x40 : UInt16) ∉ m.mirrorForm := by
    rw [m.mirrorForm_eq]
    simp only [List.mem_append, List.mem_cons, not_or]
    exact ⟨not_mem_account h.account (by decide) (by decide), by decide, not_mem_isDigits h.seconds (by decide), by decide,
      not_mem_isDigits h.nanos (by decide)⟩
  rw [Reservation.matchSdkTxId, splitOn_of_not_mem hat]

theorem TxIdMatch.WellFormed.isMirrorTxId (h : m.WellFormed) : isMirrorTxId m.mirrorForm = true := by
  have hsplit : splitOn 0x2D m.mirrorForm = [m.account, m.seconds, m.nanos] := by
    rw [m.mirrorForm_eq, splitOn_append _ (not_mem_account h.account (by decide) (by decide)),
      splitOn_append _ (not_mem_isDigits h.seconds (by decide)), splitOn_of_not_mem (not_mem_isDigits h.nanos (by decide))]
  rw [Reservation.isMirrorTxId, hsplit]
  simp only [h.account, h.seconds, h.nanos, Bool.and_self]

theorem Spells.mem (h : Spells m a) (hm : m.WellFormed) {u : UInt16} (hu : u ∈ a) :
    isDigit u ∨ u = 0x2E ∨ u = 0x40 ∨ u = 0x2D := by
  have hseconds (hmem : u ∈ m.seconds) := mem_isDigits hm.seconds hmem
  have hnanos (hmem : u ∈ m.nanos) := mem_isDigits hm.nanos hmem
  have haccount (hmem : u ∈ m.account) := mem_account hm.account hmem
  cases h with
  | sdk =>
    rw [m.sdkForm_eq] at hu
    simp only [List.mem_append, List.mem_cons] at hu
    tauto
  | mirror =>
    rw [m.mirrorForm_eq] at hu
    simp only [List.mem_append, List.mem_cons] at hu
    tauto

theorem Spells.trim_eq (h : Spells m a) (hm : m.WellFormed) : trim a = a := by
  refine trim_of_not_whitespace fun u hu => ?_
  rcases h.mem hm hu with hd | rfl | rfl | rfl
  · exact not_isWhitespace_of_isDigit hd
  all_goals decide

theorem Spells.ne_nil (h : Spells m a) : a ≠ [] := by
  cases h with
  | sdk => simp [m.sdkForm_eq]
  | mirror => simp [m.mirrorForm_eq]

/-- Both normalizations give the Mirror form. -/
theorem Spells.normalizeTransactionId (h : Spells m a) (hm : m.WellFormed) :
    normalizeTransactionId a = .ok m.mirrorForm := by
  rw [Reservation.normalizeTransactionId, h.trim_eq hm]
  cases h with
  | sdk => rw [hm.matchSdkTxId]
  | mirror => rw [hm.matchSdkTxId_mirrorForm, hm.isMirrorTxId, if_pos rfl]

theorem Spells.normalizeTxIdForm (h : Spells m a) (hm : m.WellFormed) : normalizeTxIdForm a = m.mirrorForm := by
  rw [Reservation.normalizeTxIdForm, h.trim_eq hm]
  cases h with
  | sdk => rw [hm.matchSdkTxId]
  | mirror => rw [hm.matchSdkTxId_mirrorForm]

/-- The Mirror form keeps the groups apart. -/
theorem TxIdMatch.WellFormed.mirrorForm_inj (hm : m.WellFormed) (hn : n.WellFormed) (h : m.mirrorForm = n.mirrorForm) :
    m = n := by
  rw [m.mirrorForm_eq, n.mirrorForm_eq,
    append_cons_inj (not_mem_account hm.account (by decide) (by decide)) (not_mem_account hn.account (by decide) (by decide)),
    append_cons_inj (not_mem_isDigits hm.seconds (by decide)) (not_mem_isDigits hn.seconds (by decide))] at h
  obtain ⟨haccount, hseconds, hnanos⟩ := h
  cases m
  cases n
  simp_all

theorem Spells.transactionIdsEqual (ha : Spells m a) (hb : Spells n b) (hm : m.WellFormed) (hn : n.WellFormed) :
    transactionIdsEqual a b = .ok (decide (m = n)) := by
  rw [Reservation.transactionIdsEqual, ha.normalizeTransactionId hm, hb.normalizeTransactionId hn]
  show Except.ok (decide (m.mirrorForm = n.mirrorForm)) = _
  rw [decide_eq_decide.mpr ⟨hm.mirrorForm_inj hn, fun h => by rw [h]⟩]

end Forms

/-! ## The payment verifier -/

/-- Some confirmation of the one id is accepted where the other is expected. -/
def VerifierAccepts (reported expected : JsString) : Prop :=
  ∃ selected confirmation v, confirmation.transactionId = reported ∧
    verifyMirrorPayment selected confirmation expected = .ok v

/-- An HBAR payment of one account to another. -/
def plainPayment : SelectedPaymentOption where
  reservationId := js "r-1"
  offerHash := []
  offerVersion := 1
  optionId := .hbar
  payerAccount := js "0.0.1"
  payTo := js "0.0.2"
  asset := HBAR_ASSET
  amountAtomic := HBAR_RESERVATION_OPTION.amountAtomic
  scheme := []
  network := []
  selectedAt := []
  resourcePath := []

/-- Its confirmation under an id. -/
def plainConfirmation (id : JsString) : MirrorConfirmation where
  status := .success
  transactionId := id
  consensusTimestamp := some (js "2026-07-15T12:00:00Z")
  result := some (js "SUCCESS")
  hbarTransfers := [⟨js "0.0.1", js "-1000000", none⟩, ⟨js "0.0.2", js "1000000", none⟩]
  tokenTransfers := []

/-- The verifier compares ids unit by unit. -/
theorem verifierAccepts_iff {a b : JsString} (h : a ≠ []) : VerifierAccepts a b ↔ a = b := by
  constructor
  · rintro ⟨selected, confirmation, v, rfl, hv⟩
    exact (verifyMirrorPayment_spec hv).2.1
  · rintro rfl
    have hconsensus : consensusOf (plainConfirmation a) "Consensus timestamp required" =
        .ok (js "2026-07-15T12:00:00Z") := by
      show consensusOf (plainConfirmation []) _ = _
      decide
    have htransfers : verifyTransfers plainPayment (plainConfirmation a) = .ok () := by
      show verifyTransfers plainPayment (plainConfirmation []) = _
      decide
    refine ⟨plainPayment, plainConfirmation a, verifiedResult plainPayment (plainConfirmation a) a
      (js "2026-07-15T12:00:00Z"), rfl, ?_⟩
    simp only [verifyMirrorPayment, bind_eq_ok, require_eq_ok, exists_const, pure_eq_ok]
    exact ⟨rfl, fun _ => rfl, ⟨h, h⟩, rfl, _, hconsensus, by decide, (), htransfers, rfl⟩

/-! ## Agreement -/

/-- The three comparisons agree with each other and with the transactions exactly where two ids of one transaction are
one text. -/
theorem transaction_ids_agree_iff {m n : TxIdMatch} {a b : JsString} (hm : m.WellFormed) (hn : n.WellFormed)
    (ha : Spells m a) (hb : Spells n b) :
    ((transactionIdsEqual a b = .ok true ↔ m.transaction = n.transaction) ∧
      (normalizeTxIdForm a = normalizeTxIdForm b ↔ transactionIdsEqual a b = .ok true) ∧
      (VerifierAccepts a b ↔ transactionIdsEqual a b = .ok true)) ↔
    (m.transaction = n.transaction → a = b) := by
  have hequal : transactionIdsEqual a b = .ok true ↔ m = n := by
    rw [ha.transactionIdsEqual hb hm hn, Except.ok.injEq, decide_eq_true_eq]
  have hform : normalizeTxIdForm a = normalizeTxIdForm b ↔ m = n := by
    rw [ha.normalizeTxIdForm hm, hb.normalizeTxIdForm hn]
    exact ⟨hm.mirrorForm_inj hn, fun h => by rw [h]⟩
  -- one text has one set of groups
  have hgroups (h : a = b) : m = n := by
    rw [← hform, h]
  rw [hequal, hform, verifierAccepts_iff ha.ne_nil]
  constructor
  · rintro ⟨hsame, -, hverifier⟩ h
    exact hverifier.mpr (hsame.mpr h)
  · intro h
    refine ⟨⟨fun heq => by rw [heq], fun hsame => hgroups (h hsame)⟩, Iff.rfl, ⟨hgroups, fun heq => h (by rw [heq])⟩⟩

/-- Two payments of one second, the second told in the form of Mirror, and the first against itself. -/
theorem transaction_ids_agree_iff_two_payments :
    let m : TxIdMatch := ⟨js "0.0.5", js "1700000000", js "000000005"⟩
    let n : TxIdMatch := ⟨js "0.0.5", js "1700000000", js "000000006"⟩
    (m.WellFormed ∧ n.WellFormed ∧ transactionIdsEqual m.sdkForm n.mirrorForm ≠ .ok true ∧
      normalizeTxIdForm m.sdkForm ≠ normalizeTxIdForm n.mirrorForm ∧ ¬ VerifierAccepts m.sdkForm n.mirrorForm) ∧
    transactionIdsEqual m.sdkForm m.sdkForm = .ok true := by
  intro m n
  have hm : m.WellFormed := ⟨by decide, by decide, by decide⟩
  have hn : n.WellFormed := ⟨by decide, by decide, by decide⟩
  have hne : m.transaction ≠ n.transaction := by decide
  obtain ⟨hequal, hnormal, hverifier⟩ := (transaction_ids_agree_iff hm hn .sdk .mirror).mpr fun h => absurd h hne
  have hdifferent := mt hequal.mp hne
  exact ⟨⟨hm, hn, hdifferent, mt hnormal.mp hdifferent, mt hverifier.mp hdifferent⟩,
    ((transaction_ids_agree_iff hm hm .sdk .sdk).mpr fun _ => rfl).1.mpr rfl⟩

/-- Five nanoseconds, written by the client and by Mirror: the normalizing comparison keeps the zeros apart. And one
transaction in the two forms, which the verifier alone tells apart. -/
theorem padded_nanoseconds_differ :
    let client : TxIdMatch := ⟨js "0.0.5", js "1700000000", js "5"⟩
    let mirror : TxIdMatch := ⟨js "0.0.5", js "1700000000", js "000000005"⟩
    client.transaction = mirror.transaction ∧
      transactionIdsEqual client.sdkForm mirror.mirrorForm = .ok false ∧
      transactionIdsEqual client.sdkForm client.mirrorForm = .ok true ∧
      ¬ VerifierAccepts client.mirrorForm client.sdkForm := by
  intro client mirror
  refine ⟨by decide, by decide, by decide, ?_⟩
  rw [verifierAccepts_iff (by decide)]
  decide

end RouteGuard.Reservation
