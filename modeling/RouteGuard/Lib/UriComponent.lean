import RouteGuard.Lib.TextCodec

/-!
# Reading a component back

* `percentDecode` : the bytes of a percent-encoded text;
* `encodeURIComponent_injective` : no two strings have one component;
* `slash_notMem_encodeURIComponent` : a component never holds a slash.
-/

open JsString Json TextCodec

namespace Uri

/-- The value of an upper-case hexadecimal digit. -/
def upperHexValue (u : UInt16) : Nat := if u.toNat < 0x41 then u.toNat - 0x30 else u.toNat - 0x37

/-- The bytes a percent-encoded text stands for. -/
def percentDecode : JsString → List Nat
  | [] => []
  | [u] => [u.toNat]
  | [u, v] => [u.toNat, v.toNat]
  | u :: v :: w :: rest =>
    if u = 0x25 then (16 * upperHexValue v + upperHexValue w) :: percentDecode rest
    else u.toNat :: percentDecode (v :: w :: rest)

/-! ## Digits and bytes -/

theorem upperHexDigit_toNat {n : Nat} (h : n < 16) :
    (upperHexDigit n).toNat = if n < 10 then 0x30 + n else 0x37 + n := by
  rw [upperHexDigit, UInt16.toNat_ofNat']
  split <;> omega

theorem upperHexValue_upperHexDigit {n : Nat} (h : n < 16) : upperHexValue (upperHexDigit n) = n := by
  rw [upperHexValue, upperHexDigit_toNat h]
  split_ifs <;> omega

theorem isUnreserved_upperHexDigit {n : Nat} (h : n < 16) : isUnreserved (upperHexDigit n) = true := by
  interval_cases n <;> decide

theorem percentDecode_percentByte {b : Nat} (h : b < 256) (t : JsString) :
    percentDecode (percentByte b ++ t) = b :: percentDecode t := by
  simp only [percentByte, List.cons_append, List.nil_append, percentDecode, if_true]
  rw [upperHexValue_upperHexDigit (by omega), upperHexValue_upperHexDigit (by omega)]
  congr 1
  omega

theorem percentDecode_flatMap {bytes : List Nat} (h : ∀ b ∈ bytes, b < 256) (t : JsString) :
    percentDecode (bytes.flatMap percentByte ++ t) = bytes ++ percentDecode t := by
  induction bytes with
  | nil => rfl
  | cons b bytes ih =>
    rw [List.flatMap_cons, List.append_assoc, percentDecode_percentByte (h b (by simp)),
      ih fun c hc => h c (by simp [hc]), List.cons_append]

theorem percentDecode_cons {u : UInt16} (h : u ≠ 0x25) : ∀ t : JsString, percentDecode (u :: t) = u.toNat :: percentDecode t
  | [] => rfl
  | [_] => rfl
  | _ :: _ :: _ => by rw [percentDecode, if_neg h]

/-! ## One code point -/

theorem unreserved_lt {u : UInt16} (h : isUnreserved u = true) : u.toNat < 0x80 ∧ u ≠ 0x25 ∧ u ≠ 0x2F := by
  have hmarks : js "-_.!~*'()" = [0x2D, 0x5F, 0x2E, 0x21, 0x7E, 0x2A, 0x27, 0x28, 0x29] := by decide
  simp only [isUnreserved, hmarks, Bool.or_eq_true, Bool.and_eq_true, decide_eq_true_eq, List.mem_cons, List.not_mem_nil,
    or_false, UInt16.le_iff_toNat_le, ← UInt16.toNat_inj, UInt16.reduceToNat, ne_eq] at h ⊢
  omega

theorem mem_percentEncode (c : Nat) : ∀ v ∈ percentEncode c, isUnreserved v = true ∨ v = 0x25 := by
  intro v hv
  obtain ⟨b, _, hb⟩ := List.mem_flatMap.mp hv
  simp only [percentByte, List.mem_cons, List.not_mem_nil, or_false] at hb
  rcases hb with rfl | rfl | rfl
  · exact .inr rfl
  · exact .inl (isUnreserved_upperHexDigit (Nat.mod_lt _ (by omega)))
  · exact .inl (isUnreserved_upperHexDigit (Nat.mod_lt _ (by omega)))

/-- A unit with an encoding is no surrogate, and its encoding is read back. -/
theorem encodeUnit_eq_some {u : UInt16} {t : JsString} (h : encodeUnit u = some t) :
    isHighSurrogate u = false ∧ isLowSurrogate u = false ∧
      (∀ rest, percentDecode (t ++ rest) = utf8Bytes u.toNat ++ percentDecode rest) ∧
      ∀ v ∈ t, isUnreserved v = true ∨ v = 0x25 := by
  unfold encodeUnit at h
  split_ifs at h with hu hs
  · cases h
    obtain ⟨hlt, hne, _⟩ := unreserved_lt hu
    refine ⟨?_, ?_, fun rest => ?_, fun v hv => .inl (by rwa [List.mem_singleton.mp hv])⟩
    · rw [Bool.eq_false_iff, Ne, surrogate_iff.1]
      omega
    · rw [Bool.eq_false_iff, Ne, surrogate_iff.2]
      omega
    · rw [List.singleton_append, percentDecode_cons hne, utf8Bytes, if_pos hlt]
      rfl
  · cases h
    simp only [Bool.or_eq_true, not_or, Bool.not_eq_true] at hs
    have hbytes : ∀ b ∈ utf8Bytes u.toNat, b < 256 := utf8Bytes_lt (by have := u.toNat_lt; omega)
    exact ⟨hs.1, hs.2, percentDecode_flatMap hbytes, mem_percentEncode u.toNat⟩

/-! ## The component -/

/-- What a component says of its string: where there is one, the string has no lone surrogate, its bytes are read
back, and the units are unreserved ones and `%`. -/
structure Encodes (s t : JsString) : Prop where
  wellFormed : WellFormed s
  decoded : percentDecode t = Sha256.utf8 s
  units : ∀ v ∈ t, isUnreserved v = true ∨ v = 0x25

theorem Encodes.cons {u : UInt16} {s head t : JsString} (hu : encodeUnit u = some head) (h : Encodes s t) :
    Encodes (u :: s) (head ++ t) := by
  obtain ⟨hhigh, hlow, hdecode, hunits⟩ := encodeUnit_eq_some hu
  refine ⟨h.wellFormed.cons hhigh hlow, ?_, ?_⟩
  · rw [hdecode, h.decoded, utf8_cons hhigh hlow]
  · intro v hv
    exact (List.mem_append.mp hv).elim (hunits v) (h.units v)

theorem Encodes.pair {u v : UInt16} {s t : JsString} (hu : isHighSurrogate u = true) (hv : isLowSurrogate v = true)
    (h : Encodes s t) : Encodes (u :: v :: s) (percentEncode (pairCodePoint u v) ++ t) := by
  have hu' := surrogate_iff.1.mp hu
  have hv' := surrogate_iff.2.mp hv
  have hbytes : ∀ b ∈ utf8Bytes (pairCodePoint u v), b < 256 := utf8Bytes_lt (by unfold pairCodePoint; omega)
  refine ⟨h.wellFormed.pair hu hv, ?_, ?_⟩
  · rw [percentEncode, percentDecode_flatMap hbytes, h.decoded, utf8_pair hu hv]
  · intro w hw
    exact (List.mem_append.mp hw).elim (mem_percentEncode _ w) (h.units w)

theorem encodeURIComponent_spec : ∀ {s t : JsString}, encodeURIComponent s = some t → Encodes s t
  | [], t, h => by
    cases h
    exact ⟨trivial, rfl, by simp⟩
  | [u], t, h => by
    rw [encodeURIComponent] at h
    rw [← List.append_nil t]
    exact Encodes.cons h ⟨trivial, rfl, by simp⟩
  | u :: v :: rest, t, h => by
    rw [encodeURIComponent] at h
    split_ifs at h with hpair
    · rw [Bool.and_eq_true] at hpair
      obtain ⟨tail, htail, rfl⟩ := Option.map_eq_some_iff.mp h
      exact (encodeURIComponent_spec htail).pair hpair.1 hpair.2
    · simp only [Option.bind_eq_bind, Option.bind_eq_some_iff, Option.pure_def, Option.some.injEq] at h
      obtain ⟨head, hhead, tail, htail, rfl⟩ := h
      exact (encodeURIComponent_spec htail).cons hhead

/-- No two strings have one component. -/
theorem encodeURIComponent_injective {s s' t : JsString} (h : encodeURIComponent s = some t)
    (h' : encodeURIComponent s' = some t) : s = s' := by
  have e := encodeURIComponent_spec h
  have e' := encodeURIComponent_spec h'
  exact utf8_injective e.wellFormed e'.wellFormed (e.decoded.symm.trans e'.decoded)

/-- A component never holds a slash. -/
theorem slash_notMem_encodeURIComponent {s t : JsString} (h : encodeURIComponent s = some t) : 0x2F ∉ t := by
  intro hmem
  rcases (encodeURIComponent_spec h).units _ hmem with hu | hu
  · exact (unreserved_lt hu).2.2 rfl
  · cases hu

end Uri
