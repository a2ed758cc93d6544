import GattRpc.Correlator

/-! # The table of outstanding requests

A table in order of ids holds at most one request of an id. So what is found under an id is all that
a filter for the id keeps, and a request with an id that the table does not hold takes nothing's
place. -/

namespace GattRpc

namespace Pending

variable {p q : Pending} {table : List Pending}

theorem insert_perm (fresh : ∀ q ∈ table, q.id ≠ p.id) : (p.insert table).Perm (p :: table) := by
  induction table with
  | nil => exact .refl _
  | cons q rest ih =>
    unfold Pending.insert
    split
    · exact .refl _
    · split
      next same => exact (fresh q (by simp) same.symm).elim
      next => exact ((ih fun r hr => fresh r (by simp [hr])).cons q).trans (.swap p q rest)

/-- A request is the only one of its id. -/
theorem Ascending.filter_id (h : Ascending table) (hp : p ∈ table) :
    table.filter (fun q => q.id = p.id) = [p] := by
  induction table with
  | nil => cases hp
  | cons q rest ih =>
    obtain ⟨least, h⟩ := List.pairwise_cons.1 h
    rcases List.mem_cons.1 hp with rfl | hp
    · have others : rest.filter (fun q => q.id = p.id) = [] :=
        List.filter_eq_nil_iff.2 fun q hq => by
          simpa using (UInt64.ne_of_lt (least q hq)).symm
      simp [others]
    · have other : q.id ≠ p.id := UInt64.ne_of_lt (least p hp)
      simp [other, ih h hp]

/-- A request that is put into a table takes the place of the one with its id. -/
theorem mem_insert_iff (ascending : Ascending table) :
    q ∈ p.insert table ↔ q = p ∨ (q ∈ table ∧ q.id ≠ p.id) := by
  induction table with
  | nil => simp [Pending.insert]
  | cons r rest ih =>
    obtain ⟨least, ascending⟩ := List.pairwise_cons.1 ascending
    have later : p.id ≤ r.id → ∀ s ∈ rest, s.id ≠ p.id := by
      intro le s hs same
      exact UInt64.lt_irrefl s.id (UInt64.lt_of_le_of_lt (same ▸ le) (least s hs))
    unfold Pending.insert
    split
    next before =>
      have others : ∀ s ∈ r :: rest, s.id ≠ p.id :=
        List.forall_mem_cons.2 ⟨(UInt64.ne_of_lt before).symm, later (UInt64.le_of_lt before)⟩
      rw [List.mem_cons]
      exact or_congr_right (and_iff_left_of_imp (others q)).symm
    next =>
      split
      next same =>
        rw [List.mem_cons, List.mem_cons]
        refine or_congr_right ⟨fun hq => ⟨.inr hq, later (UInt64.le_of_eq same) q hq⟩, ?_⟩
        rintro ⟨rfl | hq, other⟩
        · exact (other same.symm).elim
        · exact hq
      next other =>
        rw [List.mem_cons, ih ascending, List.mem_cons]
        constructor
        · rintro (rfl | rfl | ⟨hq, other'⟩)
          · exact .inr ⟨.inl rfl, Ne.symm other⟩
          · exact .inl rfl
          · exact .inr ⟨.inr hq, other'⟩
        · rintro (rfl | ⟨rfl | hq, other'⟩)
          · exact .inr (.inl rfl)
          · exact .inl rfl
          · exact .inr (.inr ⟨hq, other'⟩)

theorem Ascending.nodup (ascending : Ascending table) : table.Nodup := by
  refine List.Pairwise.imp ?_ ascending
  rintro q _ before rfl
  exact UInt64.lt_irrefl q.id before

theorem insert_perm_filter (ascending : Ascending table) :
    (p.insert table).Perm (p :: table.filter fun q => q.id ≠ p.id) := by
  refine (List.perm_ext_iff_of_nodup (ascending.insert p).nodup ?_).2 fun q => ?_
  · exact List.nodup_cons.2 ⟨by simp, ascending.nodup.filter _⟩
  · rw [mem_insert_iff ascending, List.mem_cons, List.mem_filter, decide_eq_true_eq]

end Pending

theorem Drain.mem_order {drain : Drain} {p : Pending} {table : List Pending} :
    p ∈ drain.order table ↔ p ∈ table :=
  (drain.perm table).mem_iff

namespace Correlator

variable {c : Correlator} {p : Pending} {id : RequestId}

@[simp] theorem filter_outstanding {keep : Pending → Bool} :
    (c.filter keep).outstanding = c.outstanding.filter keep := rfl

theorem mem_of_find? (found : c.find? id = some p) : p ∈ c.outstanding ∧ p.id = id :=
  ⟨List.mem_of_find?_eq_some found, by simpa using List.find?_some found⟩

theorem find?_of_mem (hp : p ∈ c.outstanding) : c.find? p.id = some p := by
  rw [find?, ← List.head?_filter, c.ascending.filter_id hp]
  rfl

theorem find?_eq_none : c.find? id = none ↔ ∀ p ∈ c.outstanding, p.id ≠ id := by
  simp [find?]

theorem eq_of_id {q : Pending} (hp : p ∈ c.outstanding) (hq : q ∈ c.outstanding)
    (same : p.id = q.id) : p = q := by
  have found := find?_of_mem hp
  rw [same, find?_of_mem hq] at found
  exact (Option.some.inj found).symm

/-- What is found under an id is all that there is under it. -/
theorem filter_of_find? (found : c.find? id = some p) :
    c.outstanding.filter (fun q => q.id = id) = [p] := by
  obtain ⟨hp, rfl⟩ := mem_of_find? found
  exact c.ascending.filter_id hp

/-- All requests are released, and their callbacks are told or dropped. -/
theorem cancelAll_eq (reason : CloseReason) (drain : Drain) :
    (c.cancelAll reason drain).1 = c.filter (fun _ => false) ∧
      ((c.policy = .notify ∧ (c.cancelAll reason drain).2.discarded = [] ∧
        (c.cancelAll reason drain).2.settled =
          (drain.order c.outstanding).map fun p => p.settle (.failed (.cancelled reason))) ∨
      (c.policy = .drop ∧ (c.cancelAll reason drain).2.settled = [] ∧
        (c.cancelAll reason drain).2.discarded =
          (drain.order c.outstanding).map Pending.callback)) := by
  unfold cancelAll
  cases policy : c.policy with
  | notify => exact ⟨by simp [filter, policy], .inl ⟨rfl, rfl, rfl⟩⟩
  | drop => exact ⟨by simp [filter, policy], .inr ⟨rfl, rfl, rfl⟩⟩

@[simp] theorem cancelAll_outstanding (reason : CloseReason) (drain : Drain) :
    (c.cancelAll reason drain).1.outstanding = [] := by
  cases policy : c.policy <;> simp [cancelAll, policy]

@[simp] theorem cancelAll_count (reason : CloseReason) (drain : Drain) :
    (c.cancelAll reason drain).2.count = c.count := by
  cases policy : c.policy <;> simp [cancelAll, policy, count, (drain.perm _).length_eq]

/-- Registering a request whose id is not in use makes it outstanding, if it has a callback, and
displaces nothing. -/
theorem register_fresh {request : Request} (now : Nat) (callback : Option Callback)
    (fresh : ∀ p ∈ c.outstanding, p.id ≠ request.id) :
    (c.register now request callback).2 = none ∧
      (c.register now request callback).1.outstanding.Perm
        (callback.toList.map (⟨request, ·, now⟩) ++ c.outstanding) := by
  cases callback with
  | none => exact ⟨rfl, .refl _⟩
  | some callback =>
    refine ⟨?_, Pending.insert_perm fresh⟩
    rw [register, find?_eq_none.2 fresh]
    rfl

@[simp] theorem register_policy {now : Nat} {request : Request} {callback : Option Callback} :
    (c.register now request callback).1.policy = c.policy := by cases callback <;> rfl

@[simp] theorem register_nextId {now : Nat} {request : Request} {callback : Option Callback} :
    (c.register now request callback).1.nextId = c.nextId := by cases callback <;> rfl

end Correlator

end GattRpc
