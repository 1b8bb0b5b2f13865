import RouteGuard.Lib.TextCodec

/-!
# The lenient UTF-8 decoder

`Buffer.toString("utf8")` replaces what no encoder writes: each longest start of a sequence becomes one replacement
character.

* `toText` : the decoder;
* `toText_utf8` : well-formed texts are decoded as they were encoded;
* `eq_of_utf8_ascii` : no other text has the bytes of an ASCII text.
-/

open JsString Json

namespace TextCodec

/-- The range of the byte after the leading one, for sequences of three and four bytes. -/
def secondByte (lead : Nat) : Nat × Nat :=
  if lead = 0xE0 then (0xA0, 0xC0)
  else if lead = 0xED then (0x80, 0xA0)
  else if lead = 0xF0 then (0x90, 0xC0)
  else if lead = 0xF4 then (0x80, 0x90)
  else (0x80, 0xC0)

/-- How many bytes after the leading one belong to the start of a sequence that is not completed. -/
def startLength (lead : Nat) (rest : List Nat) : Nat :=
  let second := rest.head?.any fun b => (secondByte lead).1 ≤ b && b < (secondByte lead).2
  if 0xE0 ≤ lead && lead < 0xF0 then if second then 1 else 0
  else if 0xF0 ≤ lead && lead < 0xF5 then
    if second then if (rest.drop 1).head?.any isContinuation then 2 else 1 else 0
  else 0

/-- There are at most as many characters as bytes. -/
def replaceInvalid : (fuel : Nat) → List Nat → JsString
  | _, [] => []
  | 0, _ :: _ => []
  | fuel + 1, b :: rest =>
    match firstCodePoint (b :: rest) with
    | some (c, rest) => utf16Units c ++ replaceInvalid fuel rest
    | none => 0xFFFD :: replaceInvalid fuel (rest.drop (startLength b rest))

/-- `Buffer.toString("utf8")`. -/
def toText (bytes : List Nat) : JsString := replaceInvalid bytes.length bytes

-- a lone continuation byte, and a sequence that is cut off
example : toText [0x61, 0x80, 0xE2, 0x82, 0x62] = js "a" ++ [0xFFFD, 0xFFFD] ++ js "b" := by decide

theorem replaceInvalid_eq {fuel : Nat} {bytes : List Nat} {s : JsString} (h : decodeCodePoints fuel bytes = some s) :
    replaceInvalid fuel bytes = s := by
  induction fuel generalizing bytes s with
  | zero =>
    cases bytes with
    | nil =>
      cases h
      rfl
    | cons b rest => cases h
  | succ fuel ih =>
    cases bytes with
    | nil =>
      cases h
      rfl
    | cons b rest =>
      rw [decodeCodePoints] at h
      simp only [Option.bind_eq_bind, Option.bind_eq_some_iff, Option.some.injEq, Prod.exists] at h
      obtain ⟨c, rest', hfirst, units, hunits, rfl⟩ := h
      rw [replaceInvalid, hfirst]
      exact congrArg (utf16Units c ++ ·) (ih hunits)

/-- A well-formed text is decoded as it was encoded. -/
theorem toText_utf8 {s : JsString} (h : WellFormed s) : toText (Sha256.utf8 s) = s :=
  replaceInvalid_eq (decodeCodePoints_utf8 h _ le_rfl)

/-! ## The bytes of ASCII texts -/

theorem lt_of_utf8Unit {u : UInt16} (h : ∀ b ∈ Sha256.utf8Unit u, b < 0x80) : u < 0x80 := by
  rw [UInt16.lt_iff_toNat_lt]
  show u.toNat < 0x80
  by_contra hge
  have hlt := u.toNat_lt
  revert h
  rw [Sha256.utf8Unit, Uri.utf8Bytes]
  split_ifs with hs h1 h2 h3 <;> simp at *

/-- Bytes below `0x80` come from units below it. -/
theorem ascii_of_utf8 : ∀ (s : JsString), (∀ b ∈ Sha256.utf8 s, b < 0x80) → s.all (· < 0x80) = true
  | [], _ => rfl
  | [u], h => by
    rw [List.all_cons, List.all_nil, Bool.and_true, decide_eq_true_eq]
    exact lt_of_utf8Unit h
  | u :: v :: rest, h => by
    rw [Sha256.utf8] at h
    split at h
    · next hpair =>
      rw [Bool.and_eq_true, surrogate_iff.1, surrogate_iff.2] at hpair
      have hbig : ¬ Uri.pairCodePoint u v < 0x10000 := by
        unfold Uri.pairCodePoint
        omega
      have hfirst := h (0xF0 + Uri.pairCodePoint u v / 0x40000) (List.mem_append_left _ (by
        rw [Uri.utf8Bytes, if_neg (by omega), if_neg (by omega), if_neg (by omega)]
        exact List.mem_cons_self))
      omega
    · rw [List.all_cons, Bool.and_eq_true, decide_eq_true_eq]
      exact ⟨lt_of_utf8Unit fun b hb => h b (List.mem_append_left _ hb),
        ascii_of_utf8 (v :: rest) fun b hb => h b (List.mem_append_right _ hb)⟩

theorem utf8_ascii_lt {s : JsString} (h : s.all (· < 0x80) = true) : ∀ b ∈ Sha256.utf8 s, b < 0x80 := by
  induction s with
  | nil => simp [Sha256.utf8]
  | cons u s ih =>
    rw [List.all_cons, Bool.and_eq_true, decide_eq_true_eq, UInt16.lt_iff_toNat_lt] at h
    have hu : u.toNat < 0x80 := h.1
    have hhigh : isHighSurrogate u = false := by
      rw [Bool.eq_false_iff, Ne, surrogate_iff.1]
      omega
    have hlow : isLowSurrogate u = false := by
      rw [Bool.eq_false_iff, Ne, surrogate_iff.2]
      omega
    intro b hb
    rw [utf8_cons hhigh hlow, Uri.utf8Bytes, if_pos hu, List.mem_append, List.mem_singleton] at hb
    rcases hb with rfl | hb
    · exact hu
    · exact ih h.2 b hb

/-- No other text has the bytes of an ASCII text. -/
theorem eq_of_utf8_ascii {s t : JsString} (ht : t.all (· < 0x80) = true) (h : Sha256.utf8 s = Sha256.utf8 t) : s = t :=
  utf8_injective (wellFormed_ascii (ascii_of_utf8 s (h ▸ utf8_ascii_lt ht))) (wellFormed_ascii ht) h

end TextCodec
