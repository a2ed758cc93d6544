import GattRpc.Proofs.Connection.Snapshot

/-! # The order of events

The states that a connection reports are those that it enters, one after the other from the first
(`Connection.Run.announces`). When it is closed, it reports that and then the reason, and after
that nothing (`Connection.Run.parting`). -/

namespace GattRpc

@[simp] def Event.state? : Event → Option ConnectionState
  | stateChanged s => some s
  | _ => none

@[simp] def Event.reason? : Event → Option CloseReason
  | closed reason => some reason
  | _ => none

@[simp] def Act.event? : Act → Option Event
  | tell (.event e) => some e
  | _ => none

/-- The events that were emitted. -/
def History.events (h : History) : List Event := h.filterMap Act.event?

namespace History

variable {g h : History} {out : List Output}

theorem events_append : events (g ++ h) = events g ++ events h := List.filterMap_append

theorem events_eq_nil (other : ∀ a ∈ h, a.event? = none) : h.events = [] :=
  List.filterMap_eq_nil_iff.2 other

/-- Each state that is entered is reported by one event. -/
theorem states_events : h.events.filterMap Event.state? = h.states := by
  rw [events, states, List.filterMap_filterMap]
  congr 1
  funext a
  cases a with
  | tell o => cases o with
    | event e => cases e <;> rfl
    | shown | settled | discarded | reply => rfl
  | take | call | answer => rfl

/-- A reason is reported when a connection is reported closed. -/
theorem closings_events : h.events.filterMap Event.reason? = h.closings := by
  rw [events, closings, List.filterMap_filterMap]
  congr 1
  funext a
  cases a with
  | tell o => cases o with
    | event e => cases e <;> rfl
    | shown | settled | discarded | reply => rfl
  | take | call | answer => rfl

end History

open Connection History

variable {options : Options} {u : Option Stimulus} {c c' : Connection} {g h : History}

/-- What has been reported of the states of a connection, and what came last if it is closed. -/
structure Announces (h : History) (c : Connection) : Prop where
  travels : Travels .disconnected h.states c.state
  parting : c.state = .closed →
    ∃ before reason, h.events = before ++ [.stateChanged .closed, .closed reason]

theorem Act.Neutral.event? {a : Act} {e : Event} (n : a.Neutral) (is : a.event? = some e) :
    ∃ s, a.state? = some s := by
  unfold Act.event? at is
  split at is
  next o =>
    cases o with
    | stateChanged s => exact ⟨s, rfl⟩
    | _ => exact n.elim
  next => cases is

namespace Announces

/-- Nothing is reported. -/
theorem silent (k : Announces g c) (same : c'.state = c.state) (none : h.events = []) :
    Announces (g ++ h) c' where
  travels := by
    rw [states_append, ← states_events (h := h), none, same]
    exact k.travels.trans .refl
  parting := by
    rw [events_append, none, List.append_nil, same]
    exact k.parting

/-- A connection that is ready stays so. What it reports is no state. -/
theorem stays (k : Announces g c) (ready : c.state = .ready) (same : c'.state = c.state)
    (none : h.states = []) : Announces (g ++ h) c' where
  travels := by
    rw [states_append, none, same]
    exact k.travels.trans .refl
  parting closed := by
    rw [same, ready] at closed
    cases closed

/-- What spares a connection that is closed reports nothing, since it could report states only. -/
theorem spares (k : Announces g c) (s : c.Spares h c') : Announces (g ++ h) c' where
  travels := by
    rw [states_append]
    exact k.travels.trans s.travels
  parting closed := by
    have before := s.closed.1 closed
    have travels := s.travels
    rw [before] at travels
    have none : h.events = [] := events_eq_nil fun a ha => by
      cases is : a.event? with
      | none => rfl
      | some e =>
        obtain ⟨entered, is⟩ := (s.neutral a ha).event? is
        have entered : entered ∈ h.states := List.mem_filterMap.2 ⟨a, ha, is⟩
        rw [travels.of_closed.1] at entered
        cases entered
    rw [events_append, none, List.append_nil]
    exact k.parting before

theorem closes {reason : CloseReason} (k : Announces g c) (unclosed : c.state ≠ .closed) :
    Announces (g ++ (c.farewell reason).map .tell) (c.closed reason) where
  travels := by
    rw [states_append, states_farewell]
    exact k.travels.trans (.move (.close unclosed))
  parting _ := by
    refine ⟨g.events, reason, ?_⟩
    have released : History.events ((c.released reason).map .tell) = [] :=
      events_eq_nil (forall_released (fun _ => rfl) fun _ => rfl)
    rw [farewell, List.map_cons, List.map_append, List.append_cons, events_append, events_append,
      events_append, released, List.nil_append]
    show g.events ++ [] ++ [.stateChanged .closed, .closed reason] = _
    rw [List.append_nil]

end Announces

theorem Connection.Deeds.announces (d : Deeds options u h c) : Announces h c := by
  induction d with
  | start => exact ⟨.refl, nofun⟩
  | takes x deeds ih => exact ih.silent rfl rfl
  | spares deeds k ih => exact ih.spares k
  | closes reason deeds unclosed ih => exact ih.closes unclosed
  | receives deeds ready inbox a result delivers ih =>
    have same := SameLink.deliversAll delivers
    refine ih.stays ready same.state (List.filterMap_eq_nil_iff.2 ?_)
    refine List.forall_mem_cons.2 ⟨rfl, ?_⟩
    exact delivers.forall_received (fun _ => rfl) (fun _ _ => rfl) (fun _ => rfl) (fun _ _ => rfl)
      rfl
  | expires now deeds limited ih =>
    exact ih.silent rfl (events_eq_nil (forall_expiry (fun _ => rfl) fun _ => rfl))
  | registers deeds ready is a result ih =>
    refine ih.silent rfl (events_eq_nil ?_)
    simp only [List.forall_mem_cons]
    exact ⟨rfl, rfl, rfl, forall_registered (fun _ => rfl) rfl rfl⟩
  | refuses e deeds ih => exact ih.silent rfl (events_eq_nil (forall_dropped (fun _ => rfl) rfl))
  | replies deeds answers other ih => exact ih.silent rfl rfl
  | rests deeds other ih => exact ih

namespace Connection.Run

variable {t : Standing}

theorem announces (run : Run options h t) : Announces h t.connection := by
  obtain ⟨u, d⟩ := run.exists_deeds
  exact d.announces

/-- The reasons that were reported are what the status shows. -/
theorem reasons (run : Run options h t) :
    h.events.filterMap Event.reason? = t.connection.status.closeReason.toList :=
  closings_events.trans run.agrees.told

/-- A connection that is closed has reported why once, right after its last state, and nothing
since. -/
theorem parting (run : Run options h t) (closed : t.connection.state = .closed) :
    ∃ before reason, h.events = before ++ [.stateChanged .closed, .closed reason] ∧
      ∀ other, .closed other ∉ before := by
  obtain ⟨before, reason, is⟩ := run.announces.parting closed
  obtain ⟨set, shown⟩ := Option.isSome_iff_exists.1 (run.agrees.closeReason.2 closed)
  have once : before.filterMap Event.reason? ++ [reason] = [] ++ [set] := by
    have reasons := run.reasons
    rw [is, List.filterMap_append, shown] at reasons
    exact reasons
  obtain ⟨none, -⟩ := List.append_inj' once rfl
  exact ⟨before, reason, is, fun other told => nomatch List.filterMap_eq_nil_iff.1 none _ told⟩

/-- A connection that is not closed has reported no reason. -/
theorem unparted (run : Run options h t) (unclosed : t.connection.state ≠ .closed)
    (reason : CloseReason) : .closed reason ∉ h.events := by
  have none : t.connection.status.closeReason = none := by
    rw [← Option.not_isSome_iff_eq_none, run.agrees.closeReason]
    exact unclosed
  have reasons := run.reasons
  rw [none] at reasons
  exact fun told => nomatch List.filterMap_eq_nil_iff.1 reasons _ told

end Connection.Run

end GattRpc
