import GattRpc.Connection.Handler

/-! # What is found of a peripheral

A peripheral may list several services and characteristics of one UUID. The first RPC service
counts, and the first characteristic of each UUID in it (`resolve_eq_ok`). If one of them is
missing, that is the error (`resolve_eq_error`). -/

namespace GattRpc

open Connection

/-- The first element of a list with a property. -/
def IsFirst {α : Type} (p : α → Prop) (as : List α) (a : α) : Prop :=
  p a ∧ ∃ before after, as = before ++ a :: after ∧ ∀ b ∈ before, ¬ p b

/-- The first RPC service has these characteristics, each the first of its UUID. -/
def Offers (services : List Service) (channel : Channel) : Prop :=
  ∃ s, IsFirst (fun s => s.uuid = rpcService) services s ∧
    IsFirst (fun ch => ch.uuid = inboxUuid) s.characteristics channel.inbox ∧
    IsFirst (fun ch => ch.uuid = pollSignalUuid) s.characteristics channel.pollSignal

/-- The first thing that is missing. -/
inductive Lacks (services : List Service) : LinkError → Prop
  | service (none : ∀ s ∈ services, s.uuid ≠ rpcService) :
    Lacks services (.serviceNotFound rpcService)
  | inbox {s : Service} (first : IsFirst (fun s => s.uuid = rpcService) services s)
    (none : ∀ ch ∈ s.characteristics, ch.uuid ≠ inboxUuid) :
    Lacks services (.characteristicNotFound inboxUuid)
  | pollSignal {s : Service} (first : IsFirst (fun s => s.uuid = rpcService) services s)
    (some : ∃ ch ∈ s.characteristics, ch.uuid = inboxUuid)
    (none : ∀ ch ∈ s.characteristics, ch.uuid ≠ pollSignalUuid) :
    Lacks services (.characteristicNotFound pollSignalUuid)

theorem find?_eq_some_iff_isFirst {α : Type} {p : α → Prop} [DecidablePred p] {as : List α}
    {a : α} : as.find? (fun a => p a) = some a ↔ IsFirst p as a := by
  simp [List.find?_eq_some_iff_append, IsFirst]

theorem find?_eq_none_iff_forall {α : Type} {p : α → Prop} [DecidablePred p] {as : List α} :
    as.find? (fun a => p a) = none ↔ ∀ a ∈ as, ¬ p a := by
  simp [List.find?_eq_none]

theorem resolve_eq_ok {services : List Service} {channel : Channel} :
    resolve services = .ok channel ↔ Offers services channel := by
  constructor
  · intro is
    unfold resolve at is
    split at is
    next => cases is
    next s found =>
      split at is
      next => cases is
      next => cases is
      next inbox pollSignal hasInbox hasPollSignal =>
        cases is
        exact ⟨s, find?_eq_some_iff_isFirst.1 found, find?_eq_some_iff_isFirst.1 hasInbox,
          find?_eq_some_iff_isFirst.1 hasPollSignal⟩
  · rintro ⟨s, first, inbox, pollSignal⟩
    simp only [resolve, Service.characteristic?, find?_eq_some_iff_isFirst.2 first,
      find?_eq_some_iff_isFirst.2 inbox, find?_eq_some_iff_isFirst.2 pollSignal]

theorem resolve_eq_error {services : List Service} {e : LinkError} :
    resolve services = .error e ↔ Lacks services e := by
  constructor
  · intro is
    unfold resolve at is
    split at is
    next missing =>
      cases is
      exact .service (find?_eq_none_iff_forall.1 missing)
    next s found =>
      have first := find?_eq_some_iff_isFirst.1 found
      split at is
      next missing =>
        cases is
        exact .inbox first (find?_eq_none_iff_forall.1 missing)
      next inbox hasInbox missing =>
        cases is
        have mem : inbox ∈ s.characteristics := List.mem_of_find?_eq_some hasInbox
        obtain ⟨uuid, -⟩ := find?_eq_some_iff_isFirst.1 hasInbox
        exact .pollSignal first ⟨inbox, mem, uuid⟩ (find?_eq_none_iff_forall.1 missing)
      next => cases is
  · intro lacks
    cases lacks with
    | service none => simp only [resolve, find?_eq_none_iff_forall.2 none]
    | inbox first none =>
      simp only [resolve, Service.characteristic?, find?_eq_some_iff_isFirst.2 first,
        find?_eq_none_iff_forall.2 none]
    | pollSignal first some none =>
      cases hasInbox : Service.characteristic? _ inboxUuid with
      | none =>
        obtain ⟨ch, mem, uuid⟩ := some
        exact (find?_eq_none_iff_forall.1 hasInbox ch mem uuid).elim
      | some inbox =>
        simp only [resolve, find?_eq_some_iff_isFirst.2 first, hasInbox]
        simp only [Service.characteristic?, find?_eq_none_iff_forall.2 none]

theorem Offers.unique {services : List Service} {channel channel' : Channel}
    (k : Offers services channel) (k' : Offers services channel') : channel = channel' := by
  have same := (resolve_eq_ok.2 k).symm.trans (resolve_eq_ok.2 k')
  exact Except.ok.inj same

theorem Lacks.unique {services : List Service} {e e' : LinkError} (k : Lacks services e)
    (k' : Lacks services e') : e = e' := by
  have same := (resolve_eq_error.2 k).symm.trans (resolve_eq_error.2 k')
  exact Except.error.inj same

end GattRpc
