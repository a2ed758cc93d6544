import GattRpc.Proofs.Conservation

/-! # Overdue requests

A request is overdue once its age has reached the timeout, where a clock that went back counts as an
age of zero. Expiry fails all that are overdue and no others, in the order of their ids
(`Correlator.expiry`). Ages only grow, so to fail some earlier makes no difference in the end. -/

namespace GattRpc

open scoped List

namespace Pending

variable {p : Pending} {now later timeout : Nat}

/-- The age is the time since the request was registered, but never negative. -/
theorem age_eq_max (p : Pending) (now : Nat) : (p.age now : Int) = max ((now : Int) - p.since) 0 := by
  unfold age
  omega

theorem age_mono (le : now ≤ later) : p.age now ≤ p.age later := by
  unfold age
  omega

def timeOut (p : Pending) : Settlement := p.settle (.failed (.timedOut p.id))

end Pending

namespace Correlator

/-- The requests that have waited for at least the timeout. -/
def overdue (c : Correlator) (now timeout : Nat) : List Pending :=
  c.outstanding.filter fun p => timeout ≤ p.age now

/-- Takes requests out of the table one after the other, and fails each. -/
def failEach : Correlator → List RequestId → Correlator × List Settlement
  | c, [] => (c, [])
  | c, id :: ids =>
    match c.find? id with
    | none => c.failEach ids
    | some p =>
      let (c', told) := (c.filter fun q => q.id ≠ id).failEach ids
      (c', p.settle (.failed (.timedOut id)) :: told)

variable {c : Correlator} {p : Pending} {ps : List Pending} {now later timeout : Nat}

theorem expire_eq : c.expire now timeout =
    (c.filter fun p => !(timeout ≤ p.age now), (c.overdue now timeout).map Pending.timeOut) := rfl

theorem mem_overdue : p ∈ c.overdue now timeout ↔ p ∈ c.outstanding ∧ timeout ≤ p.age now := by
  rw [overdue, List.mem_filter, decide_eq_true_eq]

/-- What is told is told of the requests that are overdue. -/
theorem ids_expire : ((c.expire now timeout).2.map fun s => s.request.id) =
    (c.overdue now timeout).map Pending.id := by
  rw [expire_eq, List.map_map]
  rfl

theorem ascending_overdue : ((c.overdue now timeout).map Pending.id).Pairwise (· < ·) :=
  List.pairwise_map.2 (c.ascending.filter _)

theorem filter_filter {f g : Pending → Bool} :
    (c.filter f).filter g = c.filter fun p => f p && g p := by
  refine ext_outstanding rfl rfl ?_
  show (c.outstanding.filter f).filter g = c.outstanding.filter _
  rw [List.filter_filter]
  exact List.filter_congr fun p _ => Bool.and_comm _ _

theorem filter_congr {f g : Pending → Bool} (same : ∀ p ∈ c.outstanding, f p = g p) :
    c.filter f = c.filter g :=
  ext_outstanding rfl rfl (List.filter_congr same)

/-! ### One after the other -/

/-- Requests that are failed one by one are gone in the end, and nothing else is. -/
theorem failEach_eq (held : ∀ p ∈ ps, p ∈ c.outstanding) (once : (ps.map Pending.id).Nodup) :
    c.failEach (ps.map Pending.id) =
      (c.filter fun p => p.id ∉ ps.map Pending.id, ps.map Pending.timeOut) := by
  induction ps generalizing c with
  | nil =>
    have all : c.outstanding.filter (fun p => p.id ∉ ([] : List Pending).map Pending.id) =
        c.outstanding := List.filter_eq_self.2 fun p _ => by simp
    exact Prod.ext (ext_outstanding rfl rfl all.symm) rfl
  | cons p ps ih =>
    obtain ⟨hp, rest⟩ := List.forall_mem_cons.1 held
    obtain ⟨fresh, once⟩ := List.nodup_cons.1 once
    have kept : ∀ q ∈ ps, q ∈ (c.filter fun q => q.id ≠ p.id).outstanding := by
      intro q hq
      refine List.mem_filter.2 ⟨rest q hq, decide_eq_true fun same => fresh ?_⟩
      exact same ▸ List.mem_map_of_mem hq
    rw [List.map_cons, failEach, find?_of_mem hp]
    simp only [ih kept once, filter_filter]
    refine Prod.ext (filter_congr fun q _ => ?_) rfl
    simp [not_or]

/-- The ids that are found, in whatever order, are sorted and then failed one by one. -/
theorem failEach_sorted {found : List RequestId}
    (finds : found.Perm ((c.overdue now timeout).map Pending.id)) :
    c.failEach (found.mergeSort fun a b => a ≤ b) = c.expire now timeout := by
  have sorted : (found.mergeSort fun a b => a ≤ b) = (c.overdue now timeout).map Pending.id := by
    have total : (found.mergeSort fun a b => a ≤ b).Pairwise (· ≤ ·) := by
      refine (List.pairwise_mergeSort (fun a b d => ?_) (fun a b => ?_) found).imp
        of_decide_eq_true
      · simpa using UInt64.le_trans
      · simpa using UInt64.le_total a b
    exact List.Perm.eq_of_pairwise (fun a b _ _ => UInt64.le_antisymm) total
      (ascending_overdue.imp UInt64.le_of_lt) ((List.mergeSort_perm found _).trans finds)
  have held : ∀ p ∈ c.overdue now timeout, p ∈ c.outstanding := fun p hp => (mem_overdue.1 hp).1
  have once : ((c.overdue now timeout).map Pending.id).Nodup :=
    ascending_overdue.imp UInt64.ne_of_lt
  rw [sorted, failEach_eq held once, expire_eq]
  refine Prod.ext (filter_congr fun p hp => ?_) rfl
  -- An id in the table is overdue just when its request is.
  rw [← decide_not, decide_eq_decide]
  refine not_congr ⟨?_, ?_⟩
  · intro listed
    obtain ⟨q, hq, same⟩ := List.mem_map.1 listed
    obtain ⟨hq, old⟩ := mem_overdue.1 hq
    rwa [← eq_of_id hq hp same]
  · intro old
    exact List.mem_map_of_mem (mem_overdue.2 ⟨hp, old⟩)

/-! ### Twice -/

/-- What is overdue later and was not before. -/
theorem overdue_expire : (c.expire now timeout).1.overdue later timeout =
    (c.overdue later timeout).filter fun p => !(timeout ≤ p.age now) := by
  show (c.outstanding.filter fun p => !(timeout ≤ p.age now)).filter _ =
    (c.outstanding.filter _).filter _
  rw [List.filter_filter, List.filter_filter]
  exact List.filter_congr fun p _ => Bool.and_comm _ _

theorem overdue_filter (le : now ≤ later) :
    ((c.overdue later timeout).filter fun p => timeout ≤ p.age now) = c.overdue now timeout := by
  rw [overdue, overdue, List.filter_filter]
  refine List.filter_congr fun p _ => ?_
  rw [← Bool.decide_and, decide_eq_decide]
  exact and_iff_left_of_imp fun old => Nat.le_trans old (Pending.age_mono le)

theorem expire_expire_fst (le : now ≤ later) :
    ((c.expire now timeout).1.expire later timeout).1 = (c.expire later timeout).1 := by
  rw [expire_eq, expire_eq, filter_filter]
  refine filter_congr fun p _ => ?_
  rw [← decide_not, ← decide_not, ← Bool.decide_and, decide_eq_decide]
  exact and_iff_right_of_imp fun young old => young (Nat.le_trans old (Pending.age_mono le))

theorem expire_expire_snd (le : now ≤ later) :
    ((c.expire now timeout).2 ++ ((c.expire now timeout).1.expire later timeout).2).Perm
      (c.expire later timeout).2 := by
  rw [expire_eq (c := (c.expire now timeout).1), overdue_expire, expire_eq, expire_eq,
    ← overdue_filter (c := c) le, ← List.map_append]
  exact (List.filter_append_perm _ _).map _

theorem expire_again :
    (c.expire now timeout).1.expire now timeout = ((c.expire now timeout).1, []) := by
  refine Prod.ext (expire_expire_fst (Nat.le_refl now)) ?_
  rw [expire_eq (c := (c.expire now timeout).1), overdue_expire, overdue, List.filter_filter]
  refine congrArg (List.map Pending.timeOut) (List.filter_eq_nil_iff.2 fun p _ => ?_)
  simp

/-- Whether callbacks panic makes no difference. -/
theorem expire_calm : c.calm.expire now timeout =
    ((c.expire now timeout).1.calm, (c.expire now timeout).2.map Settlement.calm) := by
  refine Prod.ext (calm_filter fun _ => rfl) ?_
  simp only [expire, calm, List.filter_map, List.map_map]
  rfl

/-! ### All of it -/

/-- What expiry does at a time, and what it has left to do later. -/
structure Expires (c : Correlator) (now timeout : Nat) : Prop where
  ascending : ((c.expire now timeout).2.map fun s => s.request.id).Pairwise (· < ·)
  /-- The ids are those of the requests that are old enough. -/
  ids : ∀ id, id ∈ ((c.expire now timeout).2.map fun s => s.request.id) ↔
    ∃ p ∈ c.outstanding, p.id = id ∧ (timeout : Int) ≤ max ((now : Int) - p.since) 0
  /-- The callback of each is told that its own request timed out. -/
  told : ∀ s, s ∈ (c.expire now timeout).2 ↔
    ∃ p ∈ c.outstanding, (timeout : Int) ≤ max ((now : Int) - p.since) 0 ∧
      s = p.settle (.failed (.timedOut p.id))
  /-- All other requests stay as they are. -/
  kept : ∀ p, p ∈ (c.expire now timeout).1.outstanding ↔
    p ∈ c.outstanding ∧ max ((now : Int) - p.since) 0 < timeout
  rest : (c.expire now timeout).1.nextId = c.nextId ∧ (c.expire now timeout).1.policy = c.policy
  /-- It does not matter in which order the table is searched. -/
  searched : ∀ found : List RequestId, found.Perm ((c.overdue now timeout).map Pending.id) →
    c.failEach (found.mergeSort fun a b => a ≤ b) = c.expire now timeout
  calm : c.calm.expire now timeout =
    ((c.expire now timeout).1.calm, (c.expire now timeout).2.map Settlement.calm)
  /-- Expiry at some later time makes up for what was not overdue before. -/
  later : ∀ later, now ≤ later →
    ((c.expire now timeout).1.expire later timeout).1 = (c.expire later timeout).1 ∧
      ((c.expire now timeout).2 ++ ((c.expire now timeout).1.expire later timeout).2).Perm
        (c.expire later timeout).2
  again : (c.expire now timeout).1.expire now timeout = ((c.expire now timeout).1, [])

/-- Expiry fails exactly the requests that are overdue, at once or little by little. -/
theorem expiry (c : Correlator) (now timeout : Nat) : c.Expires now timeout where
  ascending := by
    rw [ids_expire]
    exact ascending_overdue
  ids id := by
    rw [ids_expire, List.mem_map]
    constructor
    · rintro ⟨p, hp, rfl⟩
      obtain ⟨hp, old⟩ := mem_overdue.1 hp
      exact ⟨p, hp, rfl, by rw [← Pending.age_eq_max]; exact Int.ofNat_le.2 old⟩
    · rintro ⟨p, hp, rfl, old⟩
      rw [← Pending.age_eq_max] at old
      exact ⟨p, mem_overdue.2 ⟨hp, Int.ofNat_le.1 old⟩, rfl⟩
  told s := by
    rw [expire_eq, List.mem_map]
    constructor
    · rintro ⟨p, hp, rfl⟩
      obtain ⟨hp, old⟩ := mem_overdue.1 hp
      exact ⟨p, hp, by rw [← Pending.age_eq_max]; exact Int.ofNat_le.2 old, rfl⟩
    · rintro ⟨p, hp, old, rfl⟩
      rw [← Pending.age_eq_max] at old
      exact ⟨p, mem_overdue.2 ⟨hp, Int.ofNat_le.1 old⟩, rfl⟩
  kept p := by
    rw [expire_eq, filter_outstanding, List.mem_filter, ← Pending.age_eq_max]
    simp
  rest := ⟨rfl, rfl⟩
  searched found := failEach_sorted
  calm := expire_calm
  later later le := ⟨expire_expire_fst le, expire_expire_snd le⟩
  again := expire_again

end Correlator

end GattRpc
