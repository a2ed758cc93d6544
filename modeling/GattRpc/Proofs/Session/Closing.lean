import GattRpc.Proofs.Connection.Closing
import GattRpc.Proofs.Connection.HangUp
import GattRpc.Proofs.Connection.Junk
import GattRpc.Proofs.Session.Completion

/-! # What clients learn when a connection is closed

A connection is closed for one reason. It is shown ever after, and every call that waited for a
response returns it, whatever becomes of callbacks (`Session.Run.closedFor`). -/

namespace GattRpc

open Connection History

/-- Whoever sees a reason sees this one, then and ever after. -/
def History.Shows (h : History) (reason : CloseReason) : Prop :=
  ∀ early late : History, early <+: late → late <+: h → ∀ r,
    early.status.closeReason = some r → r = reason ∧ late.status.closeReason = some reason

/-- A session whose connection was closed on `x`, after `g`, for a reason that everybody is told. -/
structure Session.ClosedFor (options : Options) (j : Journal) (s : Session Unit)
    (reason : CloseReason) (g : History) (x : Stimulus) (own : History) : Prop where
  done : g ++ .take x :: own <+: j.history
  cause : Cause own x reason
  before : g.state ≠ .closed ∧ g.status.closeReason = none
  shown : s.status.state = .closed ∧ s.status.closeReason = some reason
  /-- Whatever is done later, state and reason stay, no other reason is told, and whoever sees a
  reason sees this one, then and ever after. -/
  since : ∀ (h : History) t, g ++ .take x :: own <+: h → Connection.Run options h t →
    t.connection.state = .closed ∧ t.connection.status.state = .closed ∧
      t.connection.status.closeReason = some reason ∧ h.closings = [reason] ∧ h.Shows reason
  /-- Whoever waits is told the reason, or is let go, when it can be seen already. -/
  notified : options.cancelPolicy = .notify → ∀ p, g.Waits p → ∃ first rest,
    own = first ++ .tell (.settled (p.settle (.failed (.cancelled reason)))) :: rest ∧
      (g ++ .take x :: first).status.closeReason = some reason
  dropped : options.cancelPolicy = .drop → ∀ p, g.Waits p → ∃ first rest,
    own = first ++ .tell (.discarded p.callback) :: rest ∧
      (g ++ .take x :: first).status.closeReason = some reason
  cancelled : ∀ y ∈ j.history.settlements, ∀ other,
    y.outcome = .failed (.cancelled other) → other = reason
  /-- Under either policy a call that waits returns once, with the reason. -/
  calls : ∀ p, g.Waits p → ∀ method params, (p.callback.token, .call method params) ∈ j.began →
    s.entry p.callback.token = ([], [(p.callback.token, .failed (.cancelled reason))])
  /-- It makes no difference what the link answers when it is disconnected. -/
  hangsUp : ∀ h c resume, h <+: j.history →
    Connection.Run options h (.calling c .disconnect resume) →
      ∃ d out, (∀ a, resume a = .done () d out) ∧ d.state = .closed ∧
        d.status.closeReason = some reason ∧ d.status.lastError = c.status.lastError

variable {options : Options} {j : Journal} {s : Session Unit} {reason : CloseReason}
  {g h own : History} {x : Stimulus} {c : Connection} {t : Standing} {p : Pending}

/-! ### Callbacks of one token -/

/-- A callback is dropped at one point. -/
theorem History.eq_of_discarded {f : History} {d e : Callback}
    (first : f ++ [.tell (.discarded d)] <+: h) (second : g ++ [.tell (.discarded e)] <+: h)
    (same : d.token = e.token) (once : (h.discards.map Callback.token).count e.token ≤ 1) :
    f = g := by
  have apart {f g : History} {d e : Callback} (early : f ++ [.tell (.discarded d)] <+: g)
      (late : g ++ [.tell (.discarded e)] <+: h) (same : d.token = e.token)
      (once : (h.discards.map Callback.token).count e.token ≤ 1) : False := by
    obtain ⟨rest, rfl⟩ := early
    obtain ⟨more, rfl⟩ := late
    simp only [discards_append, discards_cons, List.map_append, List.count_append] at once
    simp [same] at once
    omega
  rcases prefix_trichotomy first second with early | ⟨is, -⟩ | early
  · exact (apart early second same once).elim
  · exact is.symm
  · exact (apart early first same.symm (same ▸ once)).elim

namespace Connection

theorem Deeds.eq_of_token {u : Option Stimulus} {y z : Settlement} (d : Deeds options u h c)
    (k : Ticketed h) (hy : .settled y ∈ h.outputs) (hz : .settled z ∈ h.outputs)
    (same : y.callback.token = z.callback.token) : y = z := by
  have count := d.count_le k z.callback.token
  have alone := filter_singleton_of_count (f := fun x => x.callback.token)
    (mem_settlements.2 hz) (by omega)
  have found : y ∈ h.settlements.filter fun x => x.callback.token = z.callback.token :=
    List.mem_filter.2 ⟨mem_settlements.2 hy, decide_eq_true same⟩
  rw [alone] at found
  exact List.mem_singleton.1 found

theorem Deeds.undropped {u : Option Stimulus} {y : Settlement} {e : Callback}
    (d : Deeds options u h c) (k : Ticketed h) (hy : .settled y ∈ h.outputs)
    (he : .discarded e ∈ h.outputs) : e.token ≠ y.callback.token := by
  obtain ⟨before, after, is⟩ := List.append_of_mem (mem_of_mem_outputs hy)
  have told : before ++ [.tell (.settled y)] <+: h := ⟨after, by simp [is]⟩
  exact (d.once k told).2 e (mem_discards.2 he)

/-! ### After the connection was closed -/

namespace ClosedBy

/-- Its reason is the only one that is ever told. -/
theorem since (k : ClosedBy options h g x own reason c) (run : Run options h t) :
    t.connection.state = .closed ∧ t.connection.status.state = .closed ∧
      t.connection.status.closeReason = some reason ∧ h.closings = [reason] ∧
        h.Shows reason := by
  obtain ⟨d, closes⟩ := k.closes
  have agrees := run.agrees
  have told : reason ∈ h.closings := by
    obtain ⟨later, rfl⟩ := k.done
    have mem : reason ∈ own.closings := by
      rw [closes.closings]
      exact List.mem_cons_self
    rw [closings_append, closings_append]
    exact List.mem_append_left _ (List.mem_append_right _ mem)
  rw [agrees.told] at told
  have shown : t.connection.status.closeReason = some reason := Option.mem_toList.1 told
  have closed := agrees.closeReason.1 (by rw [shown]; rfl)
  refine ⟨closed, agrees.state.trans closed, shown, by rw [agrees.told, shown]; rfl, ?_⟩
  intro early late first whole r seen
  have last := run.seen_stays (first.trans whole) List.prefix_rfl seen
  rw [run.seen, shown] at last
  cases last
  exact ⟨rfl, run.seen_stays first whole seen⟩

theorem of_prefix (k : ClosedBy options h g x own reason c) {h' : History}
    (p : g ++ .take x :: own <+: h') : ClosedBy options h' g x own reason c :=
  { k with done := p }

theorem waits (k : ClosedBy options h g x own reason c) (waits : g.Waits p) :
    p ∈ c.correlator.outstanding :=
  (k.before.at_rest.deeds.recorded.table p).2 waits

theorem policy (k : ClosedBy options h g x own reason c) :
    c.correlator.policy = options.cancelPolicy :=
  k.before.at_rest.deeds.policy

theorem parting_of_notify (k : ClosedBy options h g x own reason c)
    (policy : options.cancelPolicy = .notify) :
    c.parting reason p = .settled (p.settle (.failed (.cancelled reason))) := by
  rw [parting, k.policy, policy]

theorem parting_of_drop (k : ClosedBy options h g x own reason c)
    (policy : options.cancelPolicy = .drop) : c.parting reason p = .discarded p.callback := by
  rw [parting, k.policy, policy]

/-- Who waits is released when the reason can be seen. Something was told just before. -/
theorem released (k : ClosedBy options h g x own reason c) (waits : g.Waits p) :
    ∃ (first : History) (o : Output) (rest : History),
      own = first ++ .tell o :: .tell (c.parting reason p) :: rest ∧
        (g ++ Act.take x :: (first ++ [Act.tell o])).status.closeReason = some reason := by
  obtain ⟨d, closes⟩ := k.closes
  obtain ⟨first, o, rest, is, seen⟩ := closes.released (k.waits waits)
  refine ⟨first, o, rest, is, ?_⟩
  rw [List.append_cons]
  exact seen _

theorem told (k : ClosedBy options h g x own reason c) {o : Output} (told : .tell o ∈ own) :
    o ∈ h.outputs := by
  refine mem_outputs.2 (k.done.subset ?_)
  exact List.mem_append_right _ (List.mem_cons_of_mem _ told)

/-- Who waits has been replied to. -/
theorem sent (k : ClosedBy options h g x own reason c) (ticketed : Ticketed h)
    (waits : g.Waits p) : .reply p.callback.token (.send (.ok p.id)) ∈ h.outputs := by
  obtain ⟨later, rfl⟩ := k.done
  rw [List.append_assoc] at ticketed
  have sent := (k.before.at_rest.deeds.vouched ticketed.left).table p (k.waits waits)
  rw [List.append_assoc, outputs_append]
  exact List.mem_append_left _ (mem_replies.1 (mem_sends.1 sent))

/-- Another request cannot take the place of one that still waits. -/
theorem not_displaces (k : ClosedBy options h g x own reason c) {u : Option Stimulus}
    {d : Connection} (deeds : Deeds options u h d) (ticketed : Ticketed h) (waits : g.Waits p) :
    ¬ h.Displaces p.callback.token := by
  rintro ⟨-, before, ch, data, a, e, told, token⟩
  obtain ⟨first, o, rest, rfl, -⟩ := k.released waits
  have count := deeds.count_le ticketed p.callback.token
  have dropped : .discarded e ∈ h.outputs := by
    refine mem_outputs.2 (told.subset ?_)
    exact List.mem_append_right _ (List.mem_cons_of_mem _ List.mem_cons_self)
  cases policy : options.cancelPolicy with
  | notify =>
    have notified := k.told (o := c.parting reason p) (by simp)
    rw [k.parting_of_notify policy] at notified
    exact deeds.undropped ticketed notified dropped token
  | drop =>
    have here : (g ++ .take x :: first ++ [.tell o]) ++ [.tell (.discarded p.callback)] <+: h := by
      refine List.IsPrefix.trans ⟨rest, ?_⟩ k.done
      rw [k.parting_of_drop policy]
      simp
    have there : (before ++ [.answer _ a]) ++ [.tell (.discarded e)] <+: h := by
      rw [List.append_assoc]
      exact told
    -- What was told just before is no answer of the link.
    have same := eq_of_discarded here there token.symm (by rw [token]; omega)
    obtain ⟨-, same⟩ := List.append_inj' same rfl
    cases same

end ClosedBy

/-- After a call to disconnect it is told the reason, whatever is answered. -/
theorem Run.closed_by_disconnect (mode : options.pollMode ≠ .interval 0)
    (run : Run options h t) (closed : t.connection.state = .closed)
    {early : History} {resume : LinkAnswer .disconnect → Progress Unit} (begins : early <+: h)
    (calling : Run options early (.calling c .disconnect resume)) :
    ∃ d out, (∀ a, resume a = .done () d out) ∧ d.state = .closed ∧
      d.status.closeReason = t.connection.status.closeReason ∧
        d.status.lastError = c.status.lastError := by
  obtain ⟨more, rfl⟩ := begins
  obtain ⟨d, out, all, disconnected, same⟩ := calling.resume_disconnect mode
  refine ⟨d, out, all, disconnected, ?_, same⟩
  rcases (run.path_from calling).head with ⟨-, rfl⟩ | ⟨acts, rest, t₁, rfl, step, path⟩
  · cases (run.awaits_stimulus mode closed).2
  · cases step with
    | answer a =>
      have answered := calling.step (.answer a)
      rw [all] at answered path
      have closes := answered.agrees.closeReason.2 disconnected
      obtain ⟨reason, shown⟩ := Option.isSome_iff_exists.1 closes
      rw [answered.closeReason_stays path shown]
      exact shown

end Connection

namespace Session.Run

/-- A call that waited when the connection was closed returns the reason. -/
theorem entry_of_closedBy (mode : options.pollMode ≠ .interval 0) (run : Session.Run options j s)
    (k : ClosedBy options j.history g x own reason c) (waits : g.Waits p) {method : String}
    {params : Json} (began : (p.callback.token, .call method params) ∈ j.began) :
    s.entry p.callback.token = ([], [(p.callback.token, .failed (.cancelled reason))]) := by
  obtain ⟨u, deeds⟩ := run.task.exists_deeds
  have sent := k.sent run.ticketed waits
  obtain ⟨o, told, releases, is⟩ : ∃ o ∈ j.history.outputs, o.Releases p.callback.token ∧
      (o = .settled (p.settle (.failed (.cancelled reason))) ∨ o = .discarded p.callback) := by
    obtain ⟨first, o, rest, own_eq, -⟩ := k.released waits
    have told : c.parting reason p ∈ j.history.outputs := k.told (by rw [own_eq]; simp)
    cases policy : options.cancelPolicy with
    | notify =>
      rw [k.parting_of_notify policy] at told
      exact ⟨_, told, rfl, .inl rfl⟩
    | drop =>
      rw [k.parting_of_drop policy] at told
      exact ⟨_, told, rfl, .inr rfl⟩
  cases run.followed.begun _ _ began with
  | pending _ _ unreplied => exact (unreplied _ sent).elim
  | awaiting _ _ _ unreleased => exact (unreleased o told releases).elim
  | @returned r entry concluded =>
    suffices same : r = .failed (.cancelled reason) by rw [entry, same]
    have settled {y : Settlement} (hy : .settled y ∈ j.history.outputs)
        (token : y.callback.token = p.callback.token) :
        y = p.settle (.failed (.cancelled reason)) := by
      rcases is with rfl | rfl
      · exact deeds.eq_of_token run.ticketed hy told token
      · exact (deeds.undropped run.ticketed hy told token.symm).elim
    cases concluded with
    | refused refused => exact (run.orderly.refused _ _ _ refused sent).elim
    | told told gives =>
      cases gives with
      | unsent => cases run.reply_eq told sent
      | answered token outcome =>
        rw [settled told token] at outcome
        cases outcome
      | failed token outcome =>
        rw [settled told token] at outcome
        cases outcome
        rfl
    | cancelled _ dropped _ _ recorded same =>
      obtain ⟨before, ⟨later, whole⟩, rfl⟩ := exists_of_outputs dropped
      obtain ⟨-, -, -, -, shows⟩ := k.since run.task
      rw [statusAfter_outputs] at recorded
      obtain ⟨rfl, -⟩ := shows before before List.prefix_rfl ⟨_, by rw [← whole, List.append_assoc]⟩
        _ recorded
      exact same
    | displaced _ _ _ _ displaces =>
      exact (k.not_displaces deeds run.ticketed waits displaces).elim
    | orphaned crashed => exact (mode crashed.2).elim

/-- A session whose connection is closed was closed for one reason, which everybody is told. -/
theorem closedFor (mode : options.pollMode ≠ .interval 0) (run : Session.Run options j s)
    (closed : s.engine.connection.state = .closed) :
    ∃ reason g x own, s.ClosedFor options j reason g x own := by
  have agrees := run.task.agrees
  rw [Engine.connection_standing] at agrees
  obtain ⟨reason, shown⟩ := Option.isSome_iff_exists.1 (agrees.closeReason.2 closed)
  have told : reason ∈ j.history.closings := by
    rw [agrees.told, shown]
    exact List.mem_cons_self
  obtain ⟨g, x, own, c, k⟩ := run.task.closing told
  obtain ⟨d, closes⟩ := k.closes
  refine ⟨reason, g, x, own,
    { done := k.done
      cause := k.cause
      before := ?_
      shown := run.status_connection ▸ ⟨agrees.state.trans closed, shown⟩
      since := fun h t begins run => (k.of_prefix begins).since run
      notified := fun policy p waits => ?_
      dropped := fun policy p waits => ?_
      cancelled := fun y hy other outcome => ?_
      calls := fun p waits method params began => run.entry_of_closedBy mode k waits began
      hangsUp := fun h c resume begins calling => ?_ }⟩
  · rw [k.before.entered mode, k.before.seen]
    refine ⟨closes.unclosed, Option.not_isSome_iff_eq_none.1 fun set => closes.unclosed ?_⟩
    exact k.before.agrees.closeReason.1 set
  · obtain ⟨first, o, rest, own_eq, seen⟩ := k.released waits
    rw [k.parting_of_notify policy] at own_eq
    exact ⟨first ++ [.tell o], rest, by rw [own_eq, ← List.append_cons], seen⟩
  · obtain ⟨first, o, rest, own_eq, seen⟩ := k.released waits
    rw [k.parting_of_drop policy] at own_eq
    exact ⟨first ++ [.tell o], rest, by rw [own_eq, ← List.append_cons], seen⟩
  · obtain ⟨u, deeds⟩ := run.task.exists_deeds
    have recorded := deeds.cancelled y (mem_settlements.1 hy) outcome
    rw [Engine.connection_standing, shown] at recorded
    exact (Option.some.inj recorded).symm
  · have closed' : s.engine.standing.connection.state = .closed := by
      rw [Engine.connection_standing]
      exact closed
    have done := run.task.closed_by_disconnect mode closed' begins calling
    rw [Engine.connection_standing, shown] at done
    exact done

/-- A session with a call that waits, which is then closed although the link fails to
disconnect. Callbacks are dropped, and the call returns the reason. -/
theorem closedFor_requested : ∃ j s, Session.Run timedOptions j s ∧
    timedOptions.cancelPolicy = .drop ∧ s.status.lastError = none ∧
      (1, .failed (.cancelled .requested)) ∈ s.finished ∧
        ∃ reason g x own, s.ClosedFor timedOptions j reason g x own := by
  obtain ⟨j, calling, -, -⟩ := Session.Run.calling
  have queued := calling.queue .close rfl rfl rfl (hasRoom_of_empty rfl)
  have closing := queued.step (.serve (x := .command 2 .close) rfl (.take trivial))
  have closed := closing.step
    (.answer (l := .disconnect) (a := ⟨0, .error .disconnected⟩) rfl (.answer _))
  refine ⟨_, _, closed, rfl, rfl, ?_, closed.closedFor (by decide) rfl⟩
  exact List.mem_cons_of_mem _ List.mem_cons_self

end Session.Run

end GattRpc
