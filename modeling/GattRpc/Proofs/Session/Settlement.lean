import GattRpc.Proofs.Session.Returns

/-! # Callbacks are settled once

The callback of a call is told nothing if the call ended with an error. If it ended with an id, then
the callback waits for the response under that id, was told one outcome of the request that was
written under it, or was dropped when the connection closed (`Session.Run.settlesOnce`). -/

namespace GattRpc

/-- What has become of the callbacks of a session. -/
structure SettlesOnce (options : Options) (j : Journal) (s : Session Unit) : Prop where
  /-- A call to send returns what its command ended with. -/
  returned : ∀ n call r, (n, call) ∈ j.began → (n, r) ∈ s.finished → call.Returns j n r
  /-- A callback whose request was not sent is told nothing. -/
  failed : ∀ n e, (n, .error e) ∈ j.sends → j.history.told n = []
  /-- Whenever the task awaits a stimulus, the callback of a request that was sent is in one
  place. -/
  sent : s.engine.waiting = none → ∀ n call id, (n, call) ∈ j.began → (n, .ok id) ∈ j.sends →
    ∃ method params callback, call.command n = .send method params callback ∧
      j.history.Wrote (.new id method params) ∧
      ∀ d ∈ callback, d.token = n ∧
        Fate options j.history s.engine.connection (.new id method params) d
  /-- Ids are given out in order, so no two requests share one. -/
  ascending : j.history.ids.Pairwise (· < ·)
  /-- The next request takes no other's place. -/
  fresh : s.engine.waiting = none → ∀ p ∈ s.engine.connection.correlator.outstanding,
    p.id ≠ s.engine.connection.correlator.nextId
  /-- Once the connection is closed nothing is outstanding, and nothing is told. -/
  closed : s.engine.connection.state = .closed →
    s.engine.connection.correlator.outstanding = [] ∧
      ∀ more s', s.Path more s' → more.history.settlements = []

namespace Session.Run

variable {options : Options} {j : Journal} {s : Session Unit}

section

variable (mode : options.pollMode ≠ .interval 0) (run : Session.Run options j s)
  (room : j.history.frames.length < UInt64.size)

include mode run room

theorem told_of_error {n : Nat} {e : RpcError} (sent : (n, .error e) ∈ j.sends) :
    j.history.told n = [] := by
  obtain ⟨more, c, none, -, l⟩ := run.task.ledger_ahead mode room
  have k : Ticketed (j.history ++ more) := run.ticketed.append none
  have ahead : History.told (j.history ++ more) n = [] := by
    rcases List.mem_append.1 sent with refused | sent
    · obtain ⟨⟨m, e'⟩, unasked, is⟩ := List.mem_map.1 refused
      cases is
      refine List.filter_eq_nil_iff.2 fun x hx => ?_
      simp only [decide_eq_true_eq]
      rintro rfl
      obtain ⟨-, m, r⟩ := l.settled x hx
      obtain ⟨method, params, asked, -⟩ := r.asked
      obtain rfl := k.own _ _ _ _ asked
      rw [History.commands_append, none, List.append_nil] at asked
      have queued : x.callback.token ∈ (s.orders j).map Prod.fst :=
        List.mem_map.2 ⟨_, List.mem_append_left _ asked, rfl⟩
      exact run.numbered.apart queued (List.mem_map_of_mem unasked)
    · refine l.untold k (e := e) ?_
      rw [History.sends_append]
      exact List.mem_append_left _ sent
  rw [History.told, History.settlements_append, List.filter_append] at ahead
  exact (List.append_eq_nil_iff.1 ahead).1

theorem ledger (idle : s.engine.standing.isCalling = false) :
    Ledger options [] j.history s.engine.connection := by
  have u := (run.task.ledger mode).of_idle idle
  rw [Engine.connection_standing] at u
  exact u.2 room

theorem fates (idle : s.engine.standing.isCalling = false) {n : Nat} {call : ClientCall}
    {id : RequestId} (began : (n, call) ∈ j.began) (sent : (n, .ok id) ∈ j.sends) :
    ∃ method params callback, call.command n = .send method params callback ∧
      j.history.Wrote (.new id method params) ∧
      ∀ d ∈ callback, d.token = n ∧
        Fate options j.history s.engine.connection (.new id method params) d := by
  have l := ledger mode run room idle
  rcases List.mem_append.1 sent with refused | sent
  · obtain ⟨r, -, is⟩ := List.mem_map.1 refused
    cases is
  obtain ⟨method, params, callback, asked, wrote, held⟩ := l.accepted n id sent
  obtain ⟨call', began', is⟩ := run.numbered.ordered n _ (List.mem_append_left _ asked)
  obtain rfl : call = call' := congrArg Prod.snd
    (List.inj_on_of_nodup_map run.numbered.distinct began began' rfl)
  refine ⟨method, params, callback, is.symm, wrote, fun d hd => ⟨?_, ?_⟩⟩
  · obtain rfl : callback = some d := hd
    exact run.ticketed.own n method params d asked
  · exact l.fate run.ticketed (held d hd)

theorem id_ne_nextId (idle : s.engine.standing.isCalling = false) :
    ∀ p ∈ s.engine.connection.correlator.outstanding,
      p.id ≠ s.engine.connection.correlator.nextId := by
  intro p hp
  have l := ledger mode run room idle
  obtain ⟨n, r⟩ := l.tracked p hp
  obtain ⟨least, most⟩ := l.bounded n _ r.sent
  intro same
  have same : p.request.id.toNat = (j.history.frames.length + 1) % UInt64.size := by
    rw [UInt64.size, ← UInt64.toNat_ofNat', ← l.nextId, ← same]
    rfl
  rw [UInt64.size] at room same
  omega

theorem settled (closed : s.engine.connection.state = .closed) :
    s.engine.connection.correlator.outstanding = [] ∧
      ∀ more s', s.Path more s' → more.history.settlements = [] := by
  have standing : s.engine.standing.connection.state = .closed := by
    rwa [Engine.connection_standing]
  have idle := (run.task.awaits_stimulus mode standing).2
  refine ⟨(ledger mode run room idle).unready ?_, fun more s' path =>
    run.task.settlements_of_closed mode room standing path.task⟩
  rw [closed]
  exact nofun

/-- In every session each callback is settled once. -/
theorem settlesOnce : SettlesOnce options j s where
  returned n call r began finished := by
    obtain ⟨call', began', returns⟩ := (run.reported mode).finished n r finished
    obtain rfl : call = call' := congrArg Prod.snd
      (List.inj_on_of_nodup_map run.numbered.distinct began began' rfl)
    exact returns
  failed _ _ sent := told_of_error mode run room sent
  sent idle _ _ _ began sent := fates mode run room (Engine.isCalling_standing idle) began sent
  ascending := run.task.ids_ascending mode room
  fresh idle := id_ne_nextId mode run room (Engine.isCalling_standing idle)
  closed closed := settled mode run room closed

end

end Session.Run

section

/-- A connection with a request of call 1 outstanding. -/
private def pinged : Connection :=
  let readied := (Session.ready {}).engine.connection
  let prepared := readied.correlator.prepare "ping" .null
  { readied with
    correlator := (prepared.1.register 0 prepared.2 (some { token := 1 })).1
    status := { readied.status with outstanding := 1 } }

private theorem pings : ∃ j events, (1, .send "ping" .null (some { token := 1 })) ∈ j.began ∧
    j.history.sends = [(1, .ok 1)] ∧ j.history.frames.length = 1 ∧ Session.Run {} j
      { engine := { Engine.new () {} 0 with connection := pinged }
        made := 2, status := pinged.status, channel := events
        finished := [(0, .connected), (1, .sent 1)] } := by
  obtain ⟨j, connected, sends, frames⟩ := Session.Run.ready {} (by decide) rfl
  let prepared := (Session.ready {}).engine.connection.correlator.prepare "ping" .null
  have queued := connected.queue (.send "ping" .null (some { token := 1 })) rfl rfl rfl
    (Session.hasRoom_of_empty rfl)
  have sending := queued.step
    (.serve (x := .command 1 (.send "ping" .null (some { token := 1 }))) rfl (.take trivial))
  have sent := sending.step
    (.answer (l := .write Connection.sampleChannel.inbox (Frame.encode prepared.2.document))
      (a := ⟨0, .ok ()⟩) rfl (.answer _))
  refine ⟨_, _, ?_, ?_, ?_, sent⟩
  · refine List.mem_filterMap.2 ⟨.began 1 (.send "ping" .null (some { token := 1 })), ?_, rfl⟩
    exact List.mem_append_left _
      (List.mem_append_left _ (List.mem_append_right _ List.mem_cons_self))
  · simp only [Journal.history_append, History.sends_append, sends]
    rfl
  · simp only [Journal.history_append, History.frames_append, frames]
    rfl

/-- A session that sends a request and is closed before it is answered. -/
theorem Session.Run.settlesOnce_cancelled :
    ∃ j s, Session.Run {} j s ∧ (1, .send "ping" .null (some { token := 1 })) ∈ j.began ∧
      (1, .ok 1) ∈ j.sends ∧ s.engine.waiting = none ∧ s.engine.connection.state = .closed ∧
      SettlesOnce {} j s := by
  obtain ⟨j, events, began, sends, frames, sent⟩ := pings
  have queued := sent.queue .close rfl rfl rfl (Session.hasRoom_of_empty rfl)
  have closing := queued.step (.serve (x := .command 2 .close) rfl (.take trivial))
  have closed := closing.step (.answer (l := .disconnect) (a := ⟨0, .ok ()⟩) rfl (.answer _))
  refine ⟨_, _, closed, ?_, List.mem_append_right _ ?_, rfl, rfl, closed.settlesOnce (by decide) ?_⟩
  · simp only [Journal.began_append]
    exact List.mem_append_left _ (List.mem_append_left _ (List.mem_append_left _ began))
  · simp only [Journal.history_append, History.sends_append, sends]
    exact List.mem_cons_self
  · simp only [Journal.history_append, History.frames_append, List.length_append, frames]
    exact (by decide : 1 < UInt64.size)

end

end GattRpc
