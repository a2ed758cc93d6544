import GattRpc.Proofs.Envelope.Records

/-! # Envelopes that are written and read

A request is read back as it was written, and so is a response, except that a null result is read as
none. Reading never gives a null result: what has been read once is from then on written and read
without a change (`Response.round_trip`). -/

namespace GattRpc

open Json

namespace Json

variable {ms ms' : List (String × Json)} {name : String} {v w : Json}

theorem lookup_eq_some_iff_mem (nodup : (ms.map Prod.fst).Nodup) :
    ms.lookup name = some v ↔ (name, v) ∈ ms := by
  induction ms with
  | nil => simp
  | cons m ms ih =>
    obtain ⟨key, w⟩ := m
    simp only [List.map_cons, List.nodup_cons] at nodup
    by_cases h : name = key
    · subst h
      have other : (name, v) ∉ ms := fun mem => nodup.1 (List.mem_map_of_mem mem)
      simp [other, eq_comm]
    · have differ : (name == key) = false := by simpa using h
      rw [List.lookup_cons, differ]
      simp [ih nodup.2, h]

/-- An object with the same members, in any order. -/
def Rearranges (v w : Json) : Prop := ∃ ms ms', v = .object ms ∧ w = .object ms' ∧ ms.Perm ms'

theorem lookup_of_perm (perm : ms.Perm ms') (nodup : (ms'.map Prod.fst).Nodup) (name : String) :
    ms.lookup name = ms'.lookup name := by
  have nodup' : (ms.map Prod.fst).Nodup := (perm.map _).nodup_iff.2 nodup
  ext v
  rw [lookup_eq_some_iff_mem nodup, lookup_eq_some_iff_mem nodup', perm.mem_iff]

end Json

theorem Request.fromJson_document {q : Request} {v : Json} (same : v.Rearranges q.document) :
    fromJson v = .ok q := by
  obtain ⟨ms, ms', rfl, is, perm⟩ := same
  cases is
  have lookup := lookup_of_perm perm (by simp)
  refine fromJson_eq_ok.2 ⟨trivial, ?_, ?_, ?_, ?_⟩ <;>
    simp [part?, lookup, List.lookup_cons]

namespace ErrorObject

theorem document_denotes (e : ErrorObject) : Denotes e.document e := by
  obtain ⟨code, message⟩ := e
  cases code <;> constructor <;> simp [document, optionalMember, part?, IsRecord, List.lookup_cons]

theorem document_ne_null (e : ErrorObject) : e.document ≠ .null := nofun

end ErrorObject

namespace Response

variable {r : Response} {v : Json}

/-- The members of a written response. -/
structure Members (r : Response) (v : Json) : Prop where
  object : ∃ ms, v = .object ms
  jsonrpc : v.get? "jsonrpc" = some (.string r.jsonrpc)
  id : v.get? "id" = some (.ofUInt64 r.id)
  code : v.get? "code" = some (.ofInt64 r.code)
  result : v.get? "result" = r.result
  error : v.get? "error" = r.error.map ErrorObject.document

theorem members_of_rearranges (same : v.Rearranges r.document) : Members r v := by
  obtain ⟨ms, ms', rfl, is, perm⟩ := same
  cases is
  obtain ⟨jsonrpc, id, code, result, error⟩ := r
  have lookup := lookup_of_perm perm (by
    cases result <;> cases error <;> simp [optionalMember])
  cases result <;> cases error <;> constructor <;>
    simp [get?, lookup, optionalMember, List.lookup_cons]

/-- A written response is read as it was, except for a null result. -/
theorem Members.denotes (members : Members r v) :
    Denotes v { r with result := nonNull r.result } := by
  obtain ⟨⟨ms, rfl⟩, jsonrpc, id, code, result, error⟩ := members
  refine ⟨trivial, ?_, id, .own ?_, congrArg nonNull result, ?_⟩
  · exact congrArg (Option.getD · (.string protocolVersion)) jsonrpc
  · exact (congrArg nonNull code).trans (nonNull_ofInt64 _)
  · have is : part? "error" 4 (.object ms) = _ := error
    rw [is]
    cases r.error with
    | none => exact .none
    | some e =>
      rw [Option.map_some, nonNull_some e.document_ne_null]
      exact .some e.document_denotes

theorem result_ne_null (reads : fromJson v = .ok r) : r.result ≠ some .null := by
  rw [← (fromJson_eq_ok.1 reads).result]
  exact fun h => (nonNull_eq_some.1 h).2 rfl

theorem nonNull_result : nonNull r.result = r.result ↔ r.result ≠ some .null := by
  rcases r.result with _ | w
  · simp
  · by_cases null : w = .null
    · simp [null]
    · simp [nonNull_some null, null]

theorem toResult_nonNull : toResult { r with result := nonNull r.result } = toResult r := by
  rcases h : r.result with _ | w
  · rw [nonNull_none, ← h]
  · by_cases null : w = .null
    · subst null
      simp [toResult, isSuccess, h]
    · rw [nonNull_some null, ← h]

/-- What has been written is read as it was, up to a null result; a response that has been read is
written without one, and with its status code, and read again as the same response. -/
theorem round_trip :
    (∀ (r : Response) v, v.Rearranges r.document → ∃ r', fromJson v = .ok r' ∧
      (r' = r ↔ r.result ≠ some .null) ∧
      (r.result = some .null → r' = { r with result := none }) ∧ r'.toResult = r.toResult) ∧
    (∀ v r, fromJson v = .ok r → ∀ w, w.Rearranges r.document →
      fromJson w = .ok r ∧ w.get? "result" ≠ some .null ∧ w.get? "code" = some (.ofInt64 r.code) ∧
        w.get? "id" = v.part? "id" 1) ∧
    ∀ (q : Request) v, v.Rearranges q.document → Request.fromJson v = .ok q := by
  refine ⟨fun r v same => ?_, fun v r reads w same => ?_, fun q v same =>
    Request.fromJson_document same⟩
  · have members := members_of_rearranges same
    refine ⟨_, fromJson_eq_ok.2 members.denotes, ?_, fun null => ?_, toResult_nonNull⟩
    · rw [← nonNull_result]
      exact ⟨congrArg result, fun h => by rw [h]⟩
    · rw [null, nonNull_null]
  · have members := members_of_rearranges same
    have not_null := result_ne_null reads
    have denotes := members.denotes
    rw [nonNull_result.2 not_null] at denotes
    exact ⟨fromJson_eq_ok.2 denotes, members.result ▸ not_null, members.code,
      members.id.trans (fromJson_eq_ok.1 reads).id.symm⟩

/-- An error without a code is read with the default one, which is then written. -/
theorem round_trip_failed : ∃ v r, v = .object [("error", .object [("message", .string "failed")]),
      ("id", .ofUInt64 3), ("result", .null)] ∧
    r = ⟨"2.0", 3, -1, none, some ⟨none, "failed"⟩⟩ ∧ fromJson v = .ok r ∧
    fromJson r.document = .ok r := by
  refine ⟨_, _, rfl, rfl, ?reads, ?_⟩
  · rfl
  · exact (round_trip.2.1 _ _ ?reads _ ⟨_, _, rfl, rfl, .refl _⟩).1

end Response

end GattRpc
