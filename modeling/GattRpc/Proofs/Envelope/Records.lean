import GattRpc.Envelope.Response
import GattRpc.Proofs.Json.Fields

/-! # What is read as an envelope

An envelope is read from an object by the names of its fields, or from a list by their places, just
when each of its fields is. What a value then denotes is said field by field (`Request.Denotes`,
`ErrorObject.Denotes`, `Response.Denotes`). -/

namespace GattRpc

namespace Json

/-- The value may be a record of so many fields, by their names or one after the other. -/
def IsRecord (size : Nat) : Json → Prop
  | .object _ => True
  | .array items => items.length ≤ size
  | .null | .boolean _ | .number _ | .string _ => False

/-- A field of a record, if it is there. -/
def part? (name : String) (place : Nat) : Json → Option Json
  | .object members => members.lookup name
  | .array items => items[place]?
  | .null | .boolean _ | .number _ | .string _ => none

end Json

open Json

theorem ErrorObject.fromJson_fields {v : Json} {e : ErrorObject} :
    ErrorObject.fromJson v = .ok e ↔ v.IsRecord 2 ∧ ∃ code message,
      Gives (toOption toInt64) (v.part? "code" 0) code ∧
        Gives toText (v.part? "message" 1) message ∧ e = ⟨code.join, message.getD ""⟩ := by
  cases v with
  | object members =>
    simp only [ErrorObject.fromJson, bind_eq_ok, field?_eq_ok]
    constructor
    · rintro ⟨code, hcode, message, hmessage, is⟩
      cases is
      exact ⟨trivial, code, message, hcode, hmessage, rfl⟩
    · rintro ⟨-, code, message, hcode, hmessage, rfl⟩
      exact ⟨code, hcode, message, hmessage, rfl⟩
  | array items =>
    simp only [ErrorObject.fromJson, bind_eq_ok, item?_eq_ok, noMoreThan_eq_ok]
    constructor
    · rintro ⟨code, hcode, message, hmessage, -, few, is⟩
      cases is
      exact ⟨few, code, message, hcode, hmessage, rfl⟩
    · rintro ⟨few, code, message, hcode, hmessage, rfl⟩
      exact ⟨code, hcode, message, hmessage, (), few, rfl⟩
  | null | boolean | number | string => exact iff_of_false nofun fun h => h.1

theorem Response.fromJson_fields {v : Json} {r : Response} :
    Response.fromJson v = .ok r ↔ v.IsRecord 5 ∧ ∃ jsonrpc id code result error,
      Gives toText (v.part? "jsonrpc" 0) jsonrpc ∧
        Gives toUInt64 (v.part? "id" 1) (some id) ∧
          Gives (toOption toInt64) (v.part? "code" 2) code ∧
            Gives (toOption .ok) (v.part? "result" 3) result ∧
              Gives (toOption ErrorObject.fromJson) (v.part? "error" 4) error ∧
                r = ofFields jsonrpc id code result error := by
  cases v with
  | object members =>
    simp only [Response.fromJson, bind_eq_ok, field?_eq_ok]
    constructor
    · rintro ⟨code, hcode, error, herror, id, hid, jsonrpc, hjsonrpc, result, hresult, is⟩
      cases id with
      | none => cases is
      | some id =>
        cases is
        exact ⟨trivial, jsonrpc, id, code, result, error, hjsonrpc, hid, hcode, hresult, herror,
          rfl⟩
    · rintro ⟨-, jsonrpc, id, code, result, error, hjsonrpc, hid, hcode, hresult, herror, rfl⟩
      exact ⟨code, hcode, error, herror, some id, hid, jsonrpc, hjsonrpc, result, hresult, rfl⟩
  | array items =>
    simp only [Response.fromJson, bind_eq_ok, item?_eq_ok]
    constructor
    · rintro ⟨jsonrpc, hjsonrpc, id, hid, rest⟩
      cases id with
      | none => cases rest
      | some id =>
        simp only [bind_eq_ok, item?_eq_ok, noMoreThan_eq_ok] at rest
        obtain ⟨code, hcode, result, hresult, error, herror, -, few, is⟩ := rest
        cases is
        exact ⟨few, jsonrpc, id, code, result, error, hjsonrpc, hid, hcode, hresult, herror, rfl⟩
    · rintro ⟨few, jsonrpc, id, code, result, error, hjsonrpc, hid, hcode, hresult, herror, rfl⟩
      refine ⟨jsonrpc, hjsonrpc, some id, hid, ?_⟩
      simp only [bind_eq_ok, item?_eq_ok, noMoreThan_eq_ok]
      exact ⟨code, hcode, result, hresult, error, herror, (), few, rfl⟩
  | null | boolean | number | string => exact iff_of_false nofun fun h => h.1

theorem Request.fromJson_fields {v : Json} {r : Request} :
    Request.fromJson v = .ok r ↔ v.IsRecord 4 ∧ ∃ jsonrpc id method params,
      Gives toText (v.part? "jsonrpc" 0) jsonrpc ∧
        Gives toUInt64 (v.part? "id" 1) (some id) ∧
          Gives toText (v.part? "method" 2) (some method) ∧
            Gives .ok (v.part? "params" 3) params ∧
              r = ⟨jsonrpc.getD protocolVersion, id, method, params.getD (.object [])⟩ := by
  cases v with
  | object members =>
    simp only [Request.fromJson, bind_eq_ok, field?_eq_ok]
    constructor
    · rintro ⟨id, hid, jsonrpc, hjsonrpc, method, hmethod, params, hparams, is⟩
      cases id with
      | none => cases is
      | some id =>
        cases method with
        | none => cases is
        | some method =>
          cases is
          exact ⟨trivial, jsonrpc, id, method, params, hjsonrpc, hid, hmethod, hparams, rfl⟩
    · rintro ⟨-, jsonrpc, id, method, params, hjsonrpc, hid, hmethod, hparams, rfl⟩
      exact ⟨some id, hid, jsonrpc, hjsonrpc, some method, hmethod, params, hparams, rfl⟩
  | array items =>
    simp only [Request.fromJson, bind_eq_ok, item?_eq_ok]
    constructor
    · rintro ⟨jsonrpc, hjsonrpc, id, hid, rest⟩
      cases id with
      | none => cases rest
      | some id =>
        simp only [bind_eq_ok, item?_eq_ok] at rest
        obtain ⟨method, hmethod, rest⟩ := rest
        cases method with
        | none => cases rest
        | some method =>
          simp only [bind_eq_ok, item?_eq_ok, noMoreThan_eq_ok] at rest
          obtain ⟨params, hparams, -, few, is⟩ := rest
          cases is
          exact ⟨few, jsonrpc, id, method, params, hjsonrpc, hid, hmethod, hparams, rfl⟩
    · rintro ⟨few, jsonrpc, id, method, params, hjsonrpc, hid, hmethod, hparams, rfl⟩
      refine ⟨jsonrpc, hjsonrpc, some id, hid, ?_⟩
      simp only [bind_eq_ok, item?_eq_ok]
      refine ⟨some method, hmethod, ?_⟩
      simp only [bind_eq_ok, item?_eq_ok, noMoreThan_eq_ok]
      exact ⟨params, hparams, (), few, rfl⟩
  | null | boolean | number | string => exact iff_of_false nofun fun h => h.1

/-! ### What a value denotes -/

namespace Request

structure Denotes (v : Json) (r : Request) : Prop where
  record : v.IsRecord 4
  jsonrpc : (v.part? "jsonrpc" 0).getD (.string protocolVersion) = .string r.jsonrpc
  id : v.part? "id" 1 = some (.ofUInt64 r.id)
  method : v.part? "method" 2 = some (.string r.method)
  params : (v.part? "params" 3).getD (.object []) = r.params

theorem fromJson_eq_ok {v : Json} {r : Request} : fromJson v = .ok r ↔ Denotes v r := by
  rw [fromJson_fields]
  constructor
  · rintro ⟨record, jsonrpc, id, method, params, hjsonrpc, hid, hmethod, hparams, rfl⟩
    refine ⟨record, gives_text_getD.1 ⟨_, hjsonrpc, rfl⟩, gives_uint64.1 hid,
      gives_text.1 hmethod, ?_⟩
    rw [gives_value.1 hparams]
  · rintro ⟨record, jsonrpc, id, method, params⟩
    obtain ⟨o, hjsonrpc, is⟩ := gives_text_getD.2 jsonrpc
    refine ⟨record, o, r.id, r.method, _, hjsonrpc, gives_uint64.2 id, gives_text.2 method,
      gives_value.2 rfl, ?_⟩
    rw [is, params]

end Request

namespace ErrorObject

structure Denotes (v : Json) (e : ErrorObject) : Prop where
  record : v.IsRecord 2
  code : nonNull (v.part? "code" 0) = e.code.map .ofInt64
  message : (v.part? "message" 1).getD (.string "") = .string e.message

theorem fromJson_eq_ok {v : Json} {e : ErrorObject} : fromJson v = .ok e ↔ Denotes v e := by
  rw [fromJson_fields]
  constructor
  · rintro ⟨record, code, message, hcode, hmessage, rfl⟩
    exact ⟨record, gives_int64.1 (gives_toOption.1 ⟨_, hcode, rfl⟩),
      gives_text_getD.1 ⟨_, hmessage, rfl⟩⟩
  · rintro ⟨record, code, message⟩
    obtain ⟨x, hcode, hx⟩ := gives_toOption.2 (gives_int64.2 code)
    obtain ⟨o, hmessage, ho⟩ := gives_text_getD.2 message
    exact ⟨record, x, o, hcode, hmessage, by rw [hx, ho]⟩

end ErrorObject

namespace Response

/-- The status code: the envelope's own, or its error object's, or -1 if there is an error, or 0. -/
inductive Status (v : Json) (c : Int64) : Prop
  | own (code : nonNull (v.part? "code" 2) = some (.ofInt64 c))
  | ofError {w : Json} (absent : nonNull (v.part? "code" 2) = none)
      (error : nonNull (v.part? "error" 4) = some w)
      (code : nonNull (w.part? "code" 0) = some (.ofInt64 c))
  | unspecified {w : Json} (absent : nonNull (v.part? "code" 2) = none)
      (error : nonNull (v.part? "error" 4) = some w) (none : nonNull (w.part? "code" 0) = none)
      (code : c = -1)
  | success (absent : nonNull (v.part? "code" 2) = none)
      (noError : nonNull (v.part? "error" 4) = none) (code : c = 0)

structure Denotes (v : Json) (r : Response) : Prop where
  record : v.IsRecord 5
  jsonrpc : (v.part? "jsonrpc" 0).getD (.string protocolVersion) = .string r.jsonrpc
  id : v.part? "id" 1 = some (.ofUInt64 r.id)
  code : Status v r.code
  result : nonNull (v.part? "result" 3) = r.result
  error : Option.Rel ErrorObject.Denotes (nonNull (v.part? "error" 4)) r.error

theorem Status.exists_code {v : Json} {c : Int64} (status : Status v c) :
    ∃ code : Option Int64, nonNull (v.part? "code" 2) = code.map .ofInt64 := by
  rcases status with code | ⟨absent, -, -⟩ | ⟨absent, -, -, -⟩ | ⟨absent, -, -⟩
  · exact ⟨some c, code⟩
  all_goals exact ⟨none, absent⟩

theorem status_iff {v : Json} {c : Int64} {code : Option Int64} {error : Option ErrorObject}
    (own : nonNull (v.part? "code" 2) = code.map .ofInt64)
    (ofError : Option.Rel ErrorObject.Denotes (nonNull (v.part? "error" 4)) error) :
    Status v c ↔ resolveCode code error = c := by
  generalize is : nonNull (v.part? "error" 4) = w at ofError
  constructor
  · intro status
    rcases status with hcode | ⟨absent, hw, hcode⟩ | ⟨absent, hw, none, rfl⟩ | ⟨absent, hw, rfl⟩
    · rw [own] at hcode
      obtain ⟨c', rfl, same⟩ := Option.map_eq_some_iff.1 hcode
      rw [ofInt64_inj.1 same, resolveCode]
    all_goals
      rw [own, Option.map_eq_none_iff] at absent
      subst absent
      rw [is] at hw
      subst hw
      cases ofError
    · next e denotes =>
      rw [denotes.code] at hcode
      obtain ⟨c', hc', same⟩ := Option.map_eq_some_iff.1 hcode
      rw [resolveCode, hc', ofInt64_inj.1 same, Option.getD_some]
    · next e denotes =>
      rw [denotes.code, Option.map_eq_none_iff] at none
      rw [resolveCode, none]
      rfl
    · rfl
  · rintro rfl
    rcases code with _ | c
    · cases ofError with
      | none => exact .success own is rfl
      | @some w e denotes =>
        have hcode := denotes.code
        rcases h : e.code with _ | c
        · rw [h] at hcode
          exact .unspecified own is hcode (by rw [resolveCode, h]; rfl)
        · rw [h] at hcode
          exact .ofError own is (by rw [resolveCode, h]; exact hcode)
    · exact .own own

theorem fromJson_eq_ok {v : Json} {r : Response} : fromJson v = .ok r ↔ Denotes v r := by
  have gives_error (w : Option Json) (o : Option ErrorObject) :
      Gives ErrorObject.fromJson w o ↔ Option.Rel ErrorObject.Denotes w o := by
    simp only [Gives, ErrorObject.fromJson_eq_ok]
  rw [fromJson_fields]
  constructor
  · rintro ⟨record, jsonrpc, id, code, result, error, hjsonrpc, hid, hcode, hresult, herror, rfl⟩
    have own := gives_int64.1 (gives_toOption.1 ⟨code, hcode, rfl⟩)
    have ofError := (gives_error _ _).1 (gives_toOption.1 ⟨error, herror, rfl⟩)
    exact ⟨record, gives_text_getD.1 ⟨_, hjsonrpc, rfl⟩, gives_uint64.1 hid,
      (status_iff own ofError).2 rfl, gives_value.1 (gives_toOption.1 ⟨result, hresult, rfl⟩),
      ofError⟩
  · rintro ⟨record, jsonrpc, id, status, result, error⟩
    obtain ⟨code, own⟩ := status.exists_code
    have is := (status_iff own error).1 status
    obtain ⟨o, hjsonrpc, ho⟩ := gives_text_getD.2 jsonrpc
    obtain ⟨x, hcode, hx⟩ := gives_toOption.2 (gives_int64.2 own)
    obtain ⟨y, hresult, hy⟩ := gives_toOption.2 (gives_value.2 result)
    obtain ⟨z, herror, hz⟩ := gives_toOption.2 ((gives_error _ _).2 error)
    refine ⟨record, o, r.id, x, y, z, hjsonrpc, gives_uint64.2 id, hcode, hresult, herror, ?_⟩
    rw [ofFields, ho, hx, hy, hz, is]

end Response

end GattRpc
