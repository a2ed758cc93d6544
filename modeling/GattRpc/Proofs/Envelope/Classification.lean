import GattRpc.Envelope.Inbound
import GattRpc.Proofs.Envelope.Records
import GattRpc.Proofs.Json.Integers

/-! # What a message is taken for

A message is a response just when it has the shape of one, and then the response is what the message
denotes; without an id it is a notification just when it names a method
(`Inbound.classifies_exactly`). The shape asks for integers where codes and ids are, and a number
with a fraction, an exponent or a negative zero is none. -/

namespace GattRpc

open Json

namespace Json

variable {α : Type} {v : Json} {w : Option Json}

def IsText (v : Json) : Prop := ∃ s, v = .string s

/-- The value is an integer within these bounds. -/
def IsIntegerIn (low high : Int) (v : Json) : Prop := ∃ i, v.IsInteger i ∧ low ≤ i ∧ i ≤ high

def IsId : Json → Prop := IsIntegerIn 0 0xFFFFFFFFFFFFFFFF

def IsCode : Json → Prop := IsIntegerIn (-0x8000000000000000) 0x7FFFFFFFFFFFFFFF

theorem isId_iff : v.IsId ↔ ∃ n, v = .ofUInt64 n := by
  constructor
  · rintro ⟨i, ⟨fits, rfl⟩, low, high⟩
    have is : ((UInt64.ofNat i.toNat).toNat : Int) = i := by
      rw [UInt64.toNat_ofNat_of_lt' (by rw [UInt64.size]; omega)]
      omega
    exact ⟨.ofNat i.toNat, by simp only [ofUInt64, is]⟩
  · rintro ⟨n, rfl⟩
    have := n.toNat_lt
    exact ⟨n.toNat, ⟨_, rfl⟩, by omega, by omega⟩

theorem isCode_iff : v.IsCode ↔ ∃ c, v = .ofInt64 c := by
  constructor
  · rintro ⟨i, ⟨fits, rfl⟩, low, high⟩
    have is : (Int64.ofInt i).toInt = i := Int64.toInt_ofInt_of_le (by omega) (by omega)
    exact ⟨.ofInt i, by simp only [ofInt64, is]⟩
  · rintro ⟨c, rfl⟩
    have := c.le_toInt
    have := c.toInt_lt
    exact ⟨c.toInt, ⟨_, rfl⟩, by omega, by omega⟩

theorem exists_getD {d : String} : (∃ s, w.getD (.string d) = .string s) ↔
    ∀ v, w = some v → v.IsText := by
  cases w with
  | none => exact iff_of_true ⟨d, rfl⟩ nofun
  | some v => simp [IsText]

theorem exists_nonNull {Denotes : Json → α → Prop} :
    (∃ o, Option.Rel Denotes (nonNull w) o) ↔ ∀ v, w = some v → v = .null ∨ ∃ a, Denotes v a := by
  cases w with
  | none => exact iff_of_true ⟨none, .none⟩ nofun
  | some v =>
    by_cases null : v = .null
    · subst null
      exact iff_of_true ⟨none, .none⟩ fun v is => .inl (Option.some.inj is).symm
    · rw [nonNull_some null]
      constructor
      · rintro ⟨_, denotes⟩ v is
        cases is
        cases denotes with
        | some denotes => exact .inr ⟨_, denotes⟩
      · intro h
        obtain ⟨a, denotes⟩ := (h v rfl).resolve_left null
        exact ⟨some a, .some denotes⟩

theorem exists_code : (∃ o : Option Int64, nonNull w = o.map .ofInt64) ↔
    ∀ v, w = some v → v = .null ∨ v.IsCode := by
  simp only [← gives_int64, Gives, exists_nonNull, toInt64_eq_ok, isCode_iff]

end Json

/-- The shape of an error object: an object, or a list of at most two items. -/
structure ErrorObject.Shape (v : Json) : Prop where
  record : v.IsRecord 2
  code : ∀ w, v.part? "code" 0 = some w → w = .null ∨ w.IsCode
  message : ∀ w, v.part? "message" 1 = some w → w.IsText

theorem ErrorObject.exists_denotes {v : Json} : (∃ e, Denotes v e) ↔ Shape v := by
  constructor
  · rintro ⟨e, record, code, message⟩
    exact ⟨record, exists_code.1 ⟨_, code⟩, exists_getD.1 ⟨_, message⟩⟩
  · rintro ⟨record, code, message⟩
    obtain ⟨code, hcode⟩ := exists_code.2 code
    obtain ⟨message, hmessage⟩ := exists_getD.2 message
    exact ⟨⟨code, message⟩, record, hcode, hmessage⟩

/-- The shape of a response. Members with other names do not matter. -/
structure Response.Shape (v : Json) : Prop where
  object : ∃ members, v = .object members
  id : ∃ w, v.get? "id" = some w ∧ w.IsId
  jsonrpc : ∀ w, v.get? "jsonrpc" = some w → w.IsText
  code : ∀ w, v.get? "code" = some w → w = .null ∨ w.IsCode
  error : ∀ w, v.get? "error" = some w → w = .null ∨ ErrorObject.Shape w

theorem Response.exists_denotes {members : List (String × Json)} :
    (∃ r, Denotes (.object members) r) ↔ Shape (.object members) := by
  constructor
  · rintro ⟨r, -, jsonrpc, id, code, -, error⟩
    have herror := exists_nonNull.1 ⟨_, error⟩
    simp only [ErrorObject.exists_denotes] at herror
    exact ⟨⟨_, rfl⟩, ⟨_, id, isId_iff.2 ⟨_, rfl⟩⟩, exists_getD.1 ⟨_, jsonrpc⟩,
      exists_code.1 code.exists_code, herror⟩
  · rintro ⟨-, ⟨w, hw, hid⟩, hjsonrpc, hcode, herror⟩
    obtain ⟨id, rfl⟩ := isId_iff.1 hid
    obtain ⟨jsonrpc, is_jsonrpc⟩ := exists_getD.2 hjsonrpc
    obtain ⟨code, is_code⟩ := exists_code.2 hcode
    simp only [← ErrorObject.exists_denotes] at herror
    obtain ⟨error, is_error⟩ := exists_nonNull.2 herror
    have status := (status_iff (v := .object members) is_code is_error).2 rfl
    exact ⟨⟨jsonrpc, id, _, nonNull (members.lookup "result"), error⟩, trivial, is_jsonrpc, hw,
      status, rfl, is_error⟩

namespace Inbound

/-- The value is a notification: it has no id, or a null one, and names a method. -/
structure IsNotification (v : Json) (method : String) (params : Json) : Prop where
  id : v.get? "id" = none ∨ v.get? "id" = some .null
  method : v.get? "method" = some (.string method)
  params : params = (v.get? "params").getD .null

variable {v : Json} {method : String} {params : Json}

theorem hasId_eq_false : hasId v = false ↔ v.get? "id" = none ∨ v.get? "id" = some .null := by
  unfold hasId
  cases v.get? "id" with
  | none => simp
  | some id => cases id <;> simp [isNull]

theorem object_of_hasId (h : hasId v = true) : ∃ members, v = .object members := by
  cases v with
  | object members => exact ⟨members, rfl⟩
  | null | boolean | number | string | array => cases h

theorem classify_eq_response {r : Response} : classify v = .response r ↔
    (∃ members, v = .object members) ∧ Response.Denotes v r := by
  rw [← Response.fromJson_eq_ok, classify]
  by_cases h : hasId v = true
  · have object := object_of_hasId h
    rw [if_pos h]
    cases Response.fromJson v with
    | ok r' => simp [object]
    | error => simp
  · rw [if_neg h]
    refine iff_of_false (by split <;> simp) ?_
    rintro ⟨⟨members, rfl⟩, reads⟩
    have id : (Json.object members).get? "id" = _ := (Response.fromJson_eq_ok.1 reads).id
    rcases hasId_eq_false.1 (Bool.not_eq_true _ ▸ h) with absent | null
    · cases absent.symm.trans id
    · cases null.symm.trans id

theorem string?_eq_some {w : Json} {s : String} : w.string? = some s ↔ w = .string s := by
  cases w <;> simp [string?]

theorem classify_eq_notification : classify v = .notification method params ↔
    IsNotification v method params := by
  rw [classify]
  by_cases h : hasId v = true
  · rw [if_pos h]
    refine iff_of_false (by split <;> simp) fun n => ?_
    rw [hasId_eq_false.2 n.id] at h
    cases h
  · have id := hasId_eq_false.1 (Bool.not_eq_true _ ▸ h)
    rw [if_neg h]
    constructor
    · intro is
      split at is
      next m hm =>
        cases is
        obtain ⟨w, hw, text⟩ := Option.bind_eq_some_iff.1 hm
        rw [string?_eq_some.1 text] at hw
        exact ⟨id, hw, rfl⟩
      next => cases is
    · rintro ⟨-, is_method, rfl⟩
      rw [is_method]
      rfl

/-- Every message is a response, a notification or neither. -/
theorem classify_cases (v : Json) : (∃ r, classify v = .response r) ∨
    (∃ method params, classify v = .notification method params) ∨ classify v = .unrecognized v := by
  unfold classify
  split
  · split
    · exact .inl ⟨_, rfl⟩
    · exact .inr (.inr rfl)
  · split
    · exact .inr (.inl ⟨_, _, rfl⟩)
    · exact .inr (.inr rfl)

theorem exists_response : (∃ r, classify v = .response r) ↔ Response.Shape v := by
  simp only [classify_eq_response]
  constructor
  · rintro ⟨r, ⟨members, rfl⟩, denotes⟩
    exact Response.exists_denotes.1 ⟨r, denotes⟩
  · intro shape
    obtain ⟨members, rfl⟩ := shape.object
    obtain ⟨r, denotes⟩ := Response.exists_denotes.2 shape
    exact ⟨r, ⟨members, rfl⟩, denotes⟩

/-- A message is a response just when it has the shape of one, and then the one that it denotes; it
is a notification just when it has no id and names a method; and any other message is unrecognized.
An integer of a text is spelled by its digits alone, so that `1.0`, `1e0` and `-0` are none. -/
theorem classifies_exactly (v : Json) :
    ((∃ r, classify v = .response r) ↔ Response.Shape v) ∧
    (∀ r, classify v = .response r ↔ Response.Shape v ∧ Response.Denotes v r) ∧
    (∀ method params, classify v = .notification method params ↔
      IsNotification v method params) ∧
    (∀ w, classify v = .unrecognized w ↔
      w = v ∧ ¬ Response.Shape v ∧ ∀ method params, ¬ IsNotification v method params) ∧
    ∀ depth text rest i fits,
      Read.value depth text = .ok (.number (.integer i fits), rest) ↔
        ∃ spelled, Read.Spells i spelled ∧ Read.skipBlanks text = spelled ++ rest ∧
          Read.EndsInteger rest := by
  refine ⟨exists_response, fun r => ⟨fun is => ?_, fun ⟨shape, denotes⟩ => ?_⟩,
    fun method params => classify_eq_notification, fun w => ⟨fun is => ?_, ?_⟩,
    fun depth text rest i fits => Read.value_integer_iff⟩
  · exact ⟨exists_response.1 ⟨r, is⟩, (classify_eq_response.1 is).2⟩
  · exact classify_eq_response.2 ⟨shape.object, denotes⟩
  · have not_response : ¬ Response.Shape v := by
      rw [← exists_response, is]
      simp
    have not_notification : ∀ method params, ¬ IsNotification v method params := by
      intro method params
      rw [← classify_eq_notification, is]
      simp
    rcases classify_cases v with ⟨r, response⟩ | ⟨method, params, notification⟩ | unrecognized
    · exact absurd (exists_response.1 ⟨r, response⟩) not_response
    · exact absurd (classify_eq_notification.1 notification) (not_notification method params)
    · cases is.symm.trans unrecognized
      exact ⟨rfl, not_response, not_notification⟩
  · rintro ⟨rfl, not_response, not_notification⟩
    rcases classify_cases w with response | ⟨method, params, notification⟩ | unrecognized
    · exact absurd (exists_response.1 response) not_response
    · exact absurd (classify_eq_notification.1 notification) (not_notification method params)
    · exact unrecognized

/-- An error in the form of a list gives its code to a response that has none. -/
example : classify (.object [("id", .ofUInt64 7),
    ("error", .array [.ofInt64 (-5), .string "busy"])]) =
      .response ⟨"2.0", 7, -5, none, some ⟨some (-5), "busy"⟩⟩ := by
  decide +kernel

end Inbound

end GattRpc
