import RouteGuard.Demo.Orchestrator
import RouteGuard.Escrow.Plans
import RouteGuard.Hcs.V2Envelope
import RouteGuard.Lib.JsonKeys

/-!
# Fields that only the server sets

`assertSafeActionRequest` looks for a server-controlled field in the payload of a demo action, `assertHcsV2PublicSafe`
for a prohibited one in a public message. The first walks through objects, the second through arrays as well.

* `forbiddenField_eq_none`, `publicSafe_iff` : what each walk visits;
* `isProhibited_iff` : the comparison of a key with a name;
* `server_fields_checked` : what an accepted value holds.
-/

namespace RouteGuard.Demo
open JsString Json Guarded Hcs.V2

/-! ## The payload of an action -/

mutual

theorem forbiddenField_eq_none : ∀ v : Json,
    forbiddenField v = none ↔ ∀ key ∈ v.objectKeys, key ∉ FORBIDDEN_NETWORK_FIELDS
  | .null | .bool _ | .num _ | .str _ | .arr _ => by simp [forbiddenField, objectKeys]
  | .obj fields => by rw [forbiddenField, objectKeys, forbiddenFieldIn_eq_none fields]

theorem forbiddenFieldIn_eq_none : ∀ fields : List (JsString × Json),
    forbiddenFieldIn fields = none ↔ ∀ key ∈ objectKeysOfFields fields, key ∉ FORBIDDEN_NETWORK_FIELDS
  | [] => by simp [forbiddenFieldIn, objectKeysOfFields]
  | (key, value) :: rest => by
    rw [forbiddenFieldIn, objectKeysOfFields, List.forall_mem_cons, List.forall_mem_append]
    by_cases hkey : key ∈ FORBIDDEN_NETWORK_FIELDS
    · simp [hkey]
    · rw [if_neg hkey, Option.or_eq_none_iff, forbiddenField_eq_none value, forbiddenFieldIn_eq_none rest]
      simp [hkey]

end

theorem assertSafeActionRequest_eq_ok {request : DemoActionRequest} :
    assertSafeActionRequest request = .ok () ↔
      isActionId request.actionId ∧ (8 ≤ request.idempotencyKey.length ∧ request.idempotencyKey.length ≤ 256) ∧
        ∀ key ∈ request.payload.objectKeys, key ∉ FORBIDDEN_NETWORK_FIELDS := by
  rw [assertSafeActionRequest, check_eq_ok, check_eq_ok, require_eq_ok, require_eq_ok, ← forbiddenField_eq_none]
  cases forbiddenField request.payload <;> simp [pure, Except.pure]

/-! ## A public message -/

mutual

theorem publicSafe_iff : ∀ (v : Json) (path : JsString),
    assertHcsV2PublicSafe path v = .ok () ↔ ∀ key ∈ v.keys, isProhibited key = false
  | .null, _ | .bool _, _ | .num _, _ | .str _, _ => by simp [assertHcsV2PublicSafe, keys]
  | .arr items, path => by rw [assertHcsV2PublicSafe, keys, itemsPublicSafe_iff items path 0]
  | .obj fields, path => by rw [assertHcsV2PublicSafe, keys, fieldsPublicSafe_iff fields path]

theorem itemsPublicSafe_iff : ∀ (items : List Json) (path : JsString) (i : Nat),
    assertItemsPublicSafe path i items = .ok () ↔ ∀ key ∈ keysOfItems items, isProhibited key = false
  | [], _, _ => by simp [assertItemsPublicSafe, keysOfItems]
  | item :: rest, path, i => by
    rw [assertItemsPublicSafe, keysOfItems, List.forall_mem_append,
      ← publicSafe_iff item (path ++ js "[" ++ decimal i ++ js "]"), ← itemsPublicSafe_iff rest path (i + 1), check_eq_ok]

theorem fieldsPublicSafe_iff : ∀ (fields : List (JsString × Json)) (path : JsString),
    assertFieldsPublicSafe path fields = .ok () ↔ ∀ key ∈ keysOfFields fields, isProhibited key = false
  | [], _ => by simp [assertFieldsPublicSafe, keysOfFields]
  | (key, value) :: rest, path => by
    rw [assertFieldsPublicSafe, keysOfFields, List.forall_mem_cons, List.forall_mem_append, check_eq_ok, require_eq_ok,
      ← publicSafe_iff value (path ++ js "." ++ key), ← fieldsPublicSafe_iff rest path, check_eq_ok]

end

/-- The Kelvin sign, whose lower case is `k`, written as the letter. -/
def kelvinAsLetter (key : JsString) : JsString := key.map fun u => if u = 0x212A then 0x4B else u

/-- A key equals a name up to the case of ASCII letters, where the Kelvin sign counts as one of them. -/
def SameName (key banned : JsString) : Prop := Escrow.lowerAscii (kelvinAsLetter key) = Escrow.lowerAscii banned

theorem toLowerCase_eq (key : JsString) : toLowerCase key = Escrow.lowerAscii (kelvinAsLetter key) := by
  rw [toLowerCase, Escrow.lowerAscii, kelvinAsLetter, List.map_map]
  refine List.map_congr_left fun u _ => ?_
  by_cases hu : u = 0x212A
  · subst hu
    decide
  · simp [lowerUnit, hu]

theorem toLowerCase_name : ∀ banned ∈ HCS_V2_PROHIBITED_FIELD_NAMES, toLowerCase banned = Escrow.lowerAscii banned := by
  decide

theorem kelvinAsLetter_name : ∀ banned ∈ HCS_V2_PROHIBITED_FIELD_NAMES, kelvinAsLetter banned = banned := by
  decide

theorem isProhibited_iff {key : JsString} :
    isProhibited key ↔ ∃ banned ∈ HCS_V2_PROHIBITED_FIELD_NAMES, SameName key banned := by
  rw [isProhibited, List.any_eq_true]
  refine exists_congr fun banned => and_congr_right fun hbanned => ?_
  rw [Bool.or_eq_true, decide_eq_true_iff, decide_eq_true_iff, toLowerCase_eq key, toLowerCase_name banned hbanned,
    SameName]
  refine ⟨?_, Or.inr⟩
  rintro (rfl | h)
  · rw [kelvinAsLetter_name key hbanned]
  · exact h

/-- **Fields the server controls.** An accepted demo action has no server-controlled field in an object that its payload
reaches through objects, and a public message is accepted exactly when no object anywhere inside it, through objects and
arrays, has a key that is a prohibited name up to letter case, the Kelvin sign being a `k`. -/
theorem server_fields_checked (request : DemoActionRequest) (value : Json) (path : JsString) :
    (assertSafeActionRequest request = .ok () →
      ∀ key ∈ request.payload.objectKeys, key ∉ FORBIDDEN_NETWORK_FIELDS) ∧
    (assertHcsV2PublicSafe path value = .ok () ↔
      ∀ key ∈ value.keys, ∀ banned ∈ HCS_V2_PROHIBITED_FIELD_NAMES, ¬ SameName key banned) := by
  refine ⟨fun h => (assertSafeActionRequest_eq_ok.mp h).2.2, ?_⟩
  rw [publicSafe_iff]
  refine forall₂_congr fun key _ => ?_
  rw [← Bool.not_eq_true, isProhibited_iff, not_exists]
  exact forall_congr' fun banned => not_and

/-- An amount in an object in an array. -/
def listedAmount : DemoActionRequest :=
  { action := .fundEscrow, actionId := js "a-1", idempotencyKey := js "key-0001",
    payload := .obj [(js "items", .arr [.obj [(js "amount", .num 1)]])] }

/-- `privateKey`, with the Kelvin sign. -/
def kelvinKey : JsString := js "private" ++ [0x212A] ++ js "ey"

/-- The amount is accepted, and the key is rejected though no prohibited name is equal to it up to ASCII letter case. -/
theorem listed_amount_accepted :
    assertSafeActionRequest listedAmount = .ok () ∧
      (∃ key ∈ listedAmount.payload.keys, key ∈ FORBIDDEN_NETWORK_FIELDS) ∧
      assertHcsV2PublicSafe (js "$") (.obj [(kelvinKey, .null)]) ≠ .ok () ∧
      ∀ key ∈ (Json.obj [(kelvinKey, .null)]).keys, ∀ banned ∈ HCS_V2_PROHIBITED_FIELD_NAMES,
        Escrow.lowerAscii key ≠ Escrow.lowerAscii banned := by
  refine ⟨?_, ⟨js "amount", by decide, by decide⟩, ?_, by decide⟩
  · rw [assertSafeActionRequest_eq_ok]
    decide
  · rw [Ne, publicSafe_iff]
    decide

end RouteGuard.Demo
