import GattRpc.Proofs.Connection.Deeds

/-! # What is shown of a connection

Between two stimuli the status that everybody can see agrees with the connection, and what belongs
to a connection that is ready is nowhere else (`Connection.Run.coherent`). Most of that holds after
each deed, when the link is still to answer too (`Agrees`). -/

namespace GattRpc

@[simp] def Act.closing? : Act → Option CloseReason
  | tell (.event (.closed reason)) => some reason
  | _ => none

/-- The reasons for which a connection was reported closed. -/
def History.closings (h : History) : List CloseReason := h.filterMap Act.closing?

/-- A connection and its status, between two stimuli. -/
structure Connection.Coherent (options : Options) (c : Connection) : Prop where
  state : c.status.state = c.state
  settled : c.state = .disconnected ∨ c.state = .ready ∨ c.state = .closed
  channel : c.channel.isSome = true ↔ c.state = .ready
  watching : c.watching = true ↔ c.state = .ready
  outstanding : c.status.outstanding = c.correlator.count
  requests : c.state ≠ .ready → c.status.outstanding = 0
  bytes : c.state ≠ .ready → c.accumulator.pending = 0
  closeReason : c.status.closeReason.isSome = true ↔ c.state = .closed
  sweeping : c.sweeping = true → options.requestTimeout.isSome = true ∧ c.state ≠ .closed

/-- What holds of a connection and its status after each deed. -/
structure Agrees (options : Options) (h : History) (c : Connection) : Prop where
  state : c.status.state = c.state
  outstanding : c.status.outstanding = c.correlator.count
  requests : c.state ≠ .ready → c.correlator.outstanding = []
  bytes : c.state ≠ .ready → c.accumulator.pending = 0
  closeReason : c.status.closeReason.isSome = true ↔ c.state = .closed
  /-- The reason is told when it is recorded. -/
  told : h.closings = c.status.closeReason.toList
  sweeping : c.sweeping = true → options.requestTimeout.isSome = true

namespace History

variable {g h : History}

theorem closings_append : closings (g ++ h) = closings g ++ closings h := List.filterMap_append

theorem closings_eq_nil (other : ∀ a ∈ h, a.closing? = none) : h.closings = [] :=
  List.filterMap_eq_nil_iff.2 other

theorem closings_append_of_other (other : ∀ a ∈ h, a.closing? = none) :
    closings (g ++ h) = closings g := by
  rw [closings_append, closings_eq_nil other, List.append_nil]

end History

theorem Connection.closings_farewell {c : Connection} {reason : CloseReason} :
    History.closings ((c.farewell reason).map .tell) = [reason] := by
  have released : History.closings ((c.released reason).map .tell) = [] :=
    History.closings_eq_nil (forall_released (fun _ => rfl) fun _ => rfl)
  rw [farewell, List.map_cons, List.map_append]
  exact (History.closings_append (h := _ :: _)).trans (congrArg (· ++ [reason]) released)

theorem Act.Neutral.closing? {a : Act} (n : a.Neutral) : a.closing? = none := by
  unfold Act.closing?
  split
  next => exact n.elim
  next => rfl

namespace Stage

variable {mode : PollMode} {xs : List Exchange} {state : ConnectionState} {inUse : Option Channel}

theorem settled (s : Stage mode xs state inUse) :
    state = .disconnected ∨ state = .ready ∨ state = .closed := by
  cases s with
  | untried => exact .inl rfl
  | serving => exact .inr (.inl rfl)
  | ended => exact .inr (.inr rfl)

theorem inUse_iff (s : Stage mode xs state inUse) : inUse.isSome = true ↔ state = .ready := by
  cases s with
  | untried | ended => exact iff_of_false nofun nofun
  | serving => exact iff_of_true rfl rfl

end Stage

open Connection History

variable {options : Options} {u : Option Stimulus} {c c' : Connection} {g h : History}

namespace Agrees

theorem new : Agrees options [] (.new options) where
  state := rfl
  outstanding := rfl
  requests _ := rfl
  bytes _ := rfl
  closeReason := iff_of_false nofun nofun
  told := rfl
  sweeping := id

/-- Nothing is told that concerns the status, which stays as it is. -/
theorem tells (a : Agrees options g c) (other : ∀ b ∈ h, b.closing? = none) :
    Agrees options (g ++ h) c :=
  { a with told := by rw [closings_append_of_other other]; exact a.told }

theorem spares (a : Agrees options g c) (s : c.Spares h c') : Agrees options (g ++ h) c' where
  state := s.visible a.state
  outstanding := by
    rw [s.shown, a.outstanding, Correlator.count, Correlator.count, s.outstanding]
  requests unready := by
    rw [s.outstanding]
    exact a.requests fun ready => unready (s.ready ready)
  bytes unready := by
    rw [s.accumulator]
    exact a.bytes fun ready => unready (s.ready ready)
  closeReason := by rw [s.closeReason, s.closed, a.closeReason]
  told := by
    rw [closings_append_of_other fun b hb => (s.neutral b hb).closing?, s.closeReason]
    exact a.told
  sweeping on := a.sweeping (s.sweeping on)

theorem closes {reason : CloseReason} (a : Agrees options g c) (unclosed : c.state ≠ .closed) :
    Agrees options (g ++ (c.farewell reason).map .tell) (c.closed reason) where
  state := rfl
  outstanding := by
    rw [closed_correlator, Correlator.count, Correlator.cancelAll_outstanding]
    rfl
  requests _ := by rw [closed_correlator, Correlator.cancelAll_outstanding]
  bytes _ := rfl
  closeReason := iff_of_true rfl rfl
  told := by
    have unset : c.status.closeReason = none := by
      rw [← Option.not_isSome_iff_eq_none, a.closeReason]
      exact unclosed
    rw [closings_append, a.told, unset, closings_farewell]
    rfl
  sweeping := a.sweeping

/-- Bytes come only to a connection that is ready, and which stays so. -/
theorem receives {chunk : List UInt8} {told : History} (a : Agrees options g c)
    (ready : c.state = .ready) (d : (c.fed chunk).DeliversAll (c.finished chunk) told c')
    (other : ∀ b ∈ h, b.closing? = none) : Agrees options (g ++ h) c'.tallied := by
  rw [d.eq]
  exact
    { state := a.state
      outstanding := rfl
      requests := fun unready => (unready ready).elim
      bytes := fun unready => (unready ready).elim
      closeReason := a.closeReason
      told := (a.tells other).told
      sweeping := a.sweeping }

/-- Requests that expire are no longer counted. If none does, the number that is shown is right. -/
theorem expires {now timeout : Nat} (a : Agrees options g c) :
    Agrees options (g ++ (c.expiry now timeout).map .tell) (c.expired now timeout) := by
  have silent : ∀ b ∈ (c.expiry now timeout).map Act.tell, b.closing? = none :=
    forall_expiry (fun _ => rfl) fun _ => rfl
  have told := a.tells silent
  have requests (unready : c.state ≠ .ready) :
      (c.correlator.expire now timeout).1.outstanding = [] := by
    rw [Correlator.expire, Correlator.filter_outstanding, a.requests unready]
    rfl
  by_cases none : (c.correlator.expire now timeout).2.isEmpty = true
  · have young : c.correlator.outstanding.filter (fun p => timeout ≤ p.age now) = [] :=
      List.map_eq_nil_iff.1 (List.isEmpty_iff.1 none)
    rw [(expired_of_none none).1]
    refine { told with requests, outstanding := ?_ }
    rw [a.outstanding, Correlator.count, Correlator.count, Correlator.expire,
      Correlator.filter_outstanding, List.filter_eq_self.2]
    simpa [List.filter_eq_nil_iff] using young
  · rw [(expired_of_some none).1]
    exact { told with requests, outstanding := rfl }

theorem registers {now : Nat} {request : Request} {callback : Option Callback}
    (a : Agrees options g c) (ready : c.state = .ready) (other : ∀ b ∈ h, b.closing? = none) :
    Agrees options (g ++ h) (c.prepared.registered now request callback) where
  state := a.state
  outstanding := rfl
  requests unready := (unready ready).elim
  bytes unready := (unready ready).elim
  closeReason := a.closeReason
  told := (a.tells other).told
  sweeping := a.sweeping

end Agrees

theorem Connection.Deeds.agrees (d : Deeds options u h c) : Agrees options h c := by
  induction d with
  | start => exact .new
  | takes x deeds ih => exact ih.tells (by simp)
  | spares deeds k ih => exact ih.spares k
  | closes reason deeds unclosed ih => exact ih.closes unclosed
  | receives deeds ready inbox a result delivers ih =>
    refine ih.receives ready delivers ?_
    refine List.forall_mem_cons.2 ⟨rfl, ?_⟩
    exact delivers.forall_received (fun _ => rfl) (fun _ _ => rfl) (fun _ => rfl) (fun _ _ => rfl)
      rfl
  | expires now deeds limited ih => exact ih.expires
  | registers deeds ready is a result ih =>
    refine ih.registers ready ?_
    simp only [List.forall_mem_cons]
    exact ⟨rfl, rfl, rfl, forall_registered (fun _ => rfl) rfl rfl⟩
  | refuses e deeds ih => exact ih.tells (forall_dropped (fun _ => rfl) rfl)
  | replies deeds answers other ih => exact ih.tells (by simp)
  | rests deeds other ih => exact ih

namespace Connection.Run

variable {t : Standing}

theorem agrees (run : Run options h t) : Agrees options h t.connection := by
  obtain ⟨u, d⟩ := run.exists_deeds
  exact d.agrees

/-- A reason that is recorded stays, whatever happens next. -/
theorem closeReason_stays {more : History} {t' : Standing} {reason : CloseReason}
    (run : Run options h t) (path : t.Path more t')
    (set : t.connection.status.closeReason = some reason) :
    t'.connection.status.closeReason = some reason := by
  have before := run.agrees.told
  have after := (run.append path).agrees.told
  rw [set] at before
  rw [closings_append, before] at after
  cases later : t'.connection.status.closeReason with
  | none =>
    rw [later] at after
    exact (List.cons_ne_nil _ _ after).elim
  | some other =>
    rw [later] at after
    rw [(List.cons.inj after).1]

/-- Between two stimuli a connection and what is shown of it agree, and a reason for closing is
never changed. -/
theorem coherent (mode : options.pollMode ≠ .interval 0) (run : Run options h t)
    (rest : t.isCalling = false) :
    t.connection.Coherent options ∧ ∀ more t' reason, t.Path more t' →
      t.connection.status.closeReason = some reason →
        t'.connection.status.closeReason = some reason := by
  have resting := run.resting mode rest
  have agrees := run.agrees
  refine ⟨?_, fun more t' reason path set => run.closeReason_stays path set⟩
  refine
    { state := agrees.state
      settled := resting.steady.stage.settled
      channel := resting.steady.stage.inUse_iff
      watching := resting.steady.watching
      outstanding := agrees.outstanding
      requests := fun unready => ?_
      bytes := agrees.bytes
      closeReason := agrees.closeReason
      sweeping := fun on => ⟨agrees.sweeping on, resting.sweeping on⟩ }
  · rw [agrees.outstanding, Correlator.count, agrees.requests unready]
    rfl

/-- A run that becomes ready and is then closed, which is not shown differently later. -/
theorem coherent_closed :
    ∃ h t, Run (sampleOptions 0) h t ∧ t.isCalling = false ∧
      t.connection.status.closeReason = some .requested ∧
      t.connection.Coherent (sampleOptions 0) ∧ ∀ more t', t.Path more t' →
        t'.connection.status.closeReason = some .requested := by
  have closing := (sample 0).step (.take (s := .command 1 .close) trivial)
  have closed := closing.step (.answer (l := .disconnect) ⟨0, .ok ()⟩)
  obtain ⟨coherent, stays⟩ := closed.coherent (by decide) rfl
  exact ⟨_, _, closed, rfl, rfl, coherent, fun more t' path => stays more t' _ path rfl⟩

end Connection.Run

end GattRpc
