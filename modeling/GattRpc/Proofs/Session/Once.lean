import GattRpc.Proofs.Connection.Once
import GattRpc.Proofs.Session.Answers
import GattRpc.Proofs.Session.Connecting
import GattRpc.Proofs.Session.Order

/-! # A client that asks little

What a client learns that calls to connect first, and makes one request at most. The call to
connect tells whether the link has granted every step (`Session.Run.first_connects`). A call to send
returns an id just if the link has accepted its frame (`Session.Run.lone_sent_iff`), and a call for
a response returns the one that came while the request waited (`Session.Run.lone_answered_iff`). -/

namespace GattRpc

open Connection History

/-- A response to this request was dispatched while the request waited: it had not timed out, and
the connection was not closed. -/
def History.Meets (options : Options) (h : History) (request : Request) (r : Response) : Prop :=
  ∃ ms m before o p, h.Routes options ms m before o ∧ Inbound.classify m = .response r ∧
    r.id = request.id ∧ before.Waits p ∧ p.request = request

/-- The calls that make a request. -/
def Journal.requests (j : Journal) : List (Nat × ClientCall) :=
  j.began.filter fun b => (b.2.command b.1).isRequest

/-- A step takes a stimulus at its start only. -/
theorem Standing.Step.take_not_mem_tail {t t' : Standing} {a : Act} {acts : History}
    {x : Stimulus} (step : t.Step (a :: acts) t') : .take x ∉ acts := by
  obtain ⟨b, rest, is, -, last⟩ := step.prompted
  cases is
  exact fun taken => last _ taken trivial

/-- What all has one number, and no number twice, is one thing at most. -/
theorem length_le_one {β : Type} {l : List (Nat × β)} {w : Nat × β} (once : (l.map Prod.fst).Nodup)
    (all : ∀ x ∈ l, x = w) : l.length ≤ 1 := by
  rw [List.eq_replicate_of_mem all, List.map_replicate, List.nodup_replicate] at once
  exact once

namespace Session

/-! ### What is kept -/

section

variable {L : Type} {s : Session L}

/-- The client stays, and what has returned has returned. -/
structure Keeps (s s' : Session L) : Prop where
  held : s'.held = s.held
  finished : s.finished <+: s'.finished

theorem Keeps.of_eq {s' : Session L} (held : s'.held = s.held)
    (finished : s'.finished = s.finished) : Keeps s s' :=
  ⟨held, finished ▸ List.prefix_rfl⟩

theorem Keeps.refl : Keeps s s := .of_eq rfl rfl

theorem Keeps.trans {s' s'' : Session L} (k : Keeps s s') (k' : Keeps s' s'') : Keeps s s'' :=
  ⟨k'.held.trans k.held, k.finished.trans k'.finished⟩

theorem keeps_note {o : Output} : Keeps s (s.note o) := by
  unfold note
  repeat' split
  all_goals first
    | exact ⟨rfl, List.prefix_rfl⟩
    | exact ⟨rfl, List.prefix_append ..⟩

theorem keeps_foldl_note {out : List Output} : Keeps s (out.foldl note s) := by
  induction out generalizing s with
  | nil => exact .refl
  | cons o out ih => exact keeps_note.trans ih

theorem keeps_endOrphans : Keeps s s.endOrphans := by
  unfold endOrphans
  split
  · exact ⟨rfl, List.prefix_append ..⟩
  · exact .refl

theorem keeps_proceed {queue : List (Nat × Command)} {acts : History} {t : Standing} :
    Keeps s (s.proceed queue acts t) := by
  have engine : Keeps s { s with engine := { s.engine with queue }.follow t } :=
    ⟨rfl, List.prefix_rfl⟩
  exact (engine.trans keeps_foldl_note).trans keeps_endOrphans

theorem keeps_begin (call : ClientCall) : Keeps s (s.begin call) := by
  rcases s.begin_cases call with ⟨-, is⟩ | ⟨e, -, -, is⟩
  · have waits : Keeps s { s with
        made := s.made + 1
        running := s.running ++ [⟨s.made, call, .room⟩] } := .of_eq rfl rfl
    rw [is]
    exact waits.trans keeps_endOrphans
  · rw [is]
    exact ⟨rfl, List.prefix_append ..⟩

end

namespace Run

variable {options : Options} {j : Journal} {s : Session Unit} {n m : Nat} {call : ClientCall}
  {res : CallResult} {method : String} {params : Json} {callback : Option Callback}
  {rest : List (Nat × Command)} {id : RequestId} {r : Response}

/-- While a client is there the task is not told that all are gone. -/
theorem clientsGone_not_mem (run : Session.Run options j s) (held : s.held = true) :
    .take .clientsGone ∉ j.history := by
  induction run with
  | start => exact List.not_mem_nil
  | @step j more s s' run step ih =>
    rw [Journal.history_append, List.mem_append, not_or]
    have before (k : Keeps s s') : .take .clientsGone ∉ j.history := ih (k.held ▸ held)
    cases step with
    | begin call =>
      refine ⟨before (keeps_begin call), ?_⟩
      cases s.refusal? call <;> exact List.not_mem_nil
    | dropClient => cases held
    | enter | readEvents | dropEvents | wait =>
      exact ⟨before (.of_eq rfl rfl), List.not_mem_nil⟩
    | @serve x queue acts t offers step =>
      refine ⟨before keeps_proceed, fun gone => ?_⟩
      rw [Journal.history_act] at gone
      have there : s.held = true := keeps_proceed.held ▸ held
      rcases List.mem_cons.1 gone with is | gone
      · cases is
        have none : s.held = false ∧ s.running = [] := by
          simpa [Session.clientsGone] using offers.2.1
        rw [there] at none
        cases none.1
      · exact step.take_not_mem_tail gone
    | answer time step =>
      refine ⟨before keeps_proceed, fun gone => ?_⟩
      rw [Journal.history_act] at gone
      rcases List.mem_cons.1 gone with is | gone
      · cases is
      · exact step.take_not_mem_tail gone

/-- A call returns what came of it. -/
theorem returns (mode : options.pollMode ≠ .interval 0) (run : Session.Run options j s)
    (began : (n, call) ∈ j.began) (finished : (n, res) ∈ s.finished) : call.Returns j n res := by
  obtain ⟨call', began', returns⟩ := (run.reported mode).finished n res finished
  obtain rfl : call' = call := congrArg Prod.snd
    (List.inj_on_of_nodup_map run.numbered.distinct began' began rfl)
  exact returns

theorem closed_of_close (mode : options.pollMode ≠ .interval 0) (run : Session.Run options j s)
    (began : (n, .close) ∈ j.began) (finished : (n, res) ∈ s.finished) :
    s.engine.connection.state = .closed := by
  cases run.returns mode began finished with
  | closed reply =>
    have closed := run.task.closed_of_replied mode (mem_replies.1 reply)
    rwa [Engine.connection_standing] at closed

/-- A link that was connected has been disconnected once when the connection is closed. -/
theorem count_disconnect (mode : options.pollMode ≠ .interval 0) (run : Session.Run options j s)
    (closed : s.engine.connection.state = .closed) (called : .connect ∈ j.history.calls) :
    j.history.calls.count .disconnect = 1 := by
  have disciplined := run.task.disciplined mode
  rw [← Engine.connection_standing] at closed
  rw [disciplined.hung_up closed]
  exact Nat.le_antisymm disciplined.connects_once (List.count_pos_iff.2 called)

theorem finished_unique {res' : CallResult} (run : Session.Run options j s)
    (finished : (n, res) ∈ s.finished) (finished' : (n, res') ∈ s.finished) : res = res' := by
  obtain ⟨call, began⟩ := run.began_of_finished finished
  have one := (run.concluded began finished).1.symm.trans (run.concluded began finished').1
  cases one
  rfl

/-! ### The first call -/

/-- Nothing was taken before the command that was queued first. -/
theorem unasked_before (run : Session.Run options j s) {c : Command}
    (first : j.queued = (n, c) :: rest) {g later : History} {cmd : Command}
    (is : j.history = g ++ .take (.command n cmd) :: later) : g.commands = [] := by
  have once := run.queued_once
  have queued := run.queued
  rw [orders, is, first, commands_append] at queued
  rw [first, List.map_cons, List.nodup_cons] at once
  cases given : g.commands with
  | nil => rfl
  | cons w ws =>
    rw [given] at queued
    have again : (n, cmd) ∈ rest := by
      rw [← (List.cons.inj queued).2]
      simp
    exact (once.1 (List.mem_map.2 ⟨_, again, rfl⟩)).elim

/-- A call that has returned what the task replied has queued its command. -/
theorem mem_queued_of_reply (mode : options.pollMode ≠ .interval 0)
    (run : Session.Run options j s) {y : Reply} (began : (n, call) ∈ j.began)
    (reply : (n, y) ∈ j.history.replies) : (n, call.command n) ∈ j.queued := by
  rw [← run.queued]
  exact List.mem_append_left _ (asked_of_reply mode run began reply)

/-- While only one call was made, no other command was queued. -/
theorem queued_of_only (mode : options.pollMode ≠ .interval 0) (run : Session.Run options j s)
    (only : j.began = [(n, .connect)]) (finished : (n, res) ∈ s.finished) :
    j.queued = [(n, .connect)] := by
  have began : (n, .connect) ∈ j.began := only ▸ List.mem_cons_self
  have mem : (n, .connect) ∈ j.queued := by
    rcases ((run.connects mode).returns n began res).1 finished with ⟨-, reply⟩ | ⟨e, -, reply⟩
    · exact run.mem_queued_of_reply mode began reply
    · exact run.mem_queued_of_reply mode began reply
  have all : ∀ w ∈ j.queued, w = (n, .connect) := by
    rintro ⟨m, c⟩ hw
    obtain ⟨call, began', rfl⟩ := run.numbered.ordered m c (run.queued ▸ hw)
    rw [only] at began'
    cases List.mem_singleton.1 began'
    rfl
  have few := length_le_one run.queued_once all
  cases queued : j.queued with
  | nil =>
    rw [queued] at mem
    cases mem
  | cons w rest =>
    rw [queued] at all few
    rw [List.length_eq_zero_iff.1 (Nat.le_zero.1 (Nat.le_of_succ_le_succ few)),
      all w List.mem_cons_self]

/-- Either the link has granted every step of connecting, or the connection is closed. -/
theorem first_connects (mode : options.pollMode ≠ .interval 0) (run : Session.Run options j s)
    (held : s.held = true) (began : (n, .connect) ∈ j.began)
    (first : j.queued = (n, .connect) :: rest) (finished : (n, res) ∈ s.finished) :
    (res = .connected ∧ j.history.Connected options) ∨
      (∃ e, res = .failed e) ∧ ¬ j.history.Connected options ∧
        s.engine.connection.state = .closed := by
  have returns := ((run.connects mode).returns n began res).1 finished
  have told {y : Reply} (reply : (n, y) ∈ j.history.replies) :
      ∃ r, (n, .connect r) ∈ j.history.replies ∧ (r = .ok () ↔ j.history.Connected options) ∧
        ∀ err, r = .error err → s.engine.connection.state = .closed := by
    obtain ⟨before, after, is⟩ := List.append_of_mem (asked_of_reply mode run began reply)
    obtain ⟨g, later, is, -⟩ := Connection.Run.exists_take is
    have there := run.clientsGone_not_mem held
    have task := run.task
    have none := run.unasked_before first is
    rw [is] at there task reply ⊢
    rw [← Engine.connection_standing]
    exact task.first_connect mode none (fun gone => there (List.mem_append_left _ gone)) reply
  have same {y z : Reply} (hy : (n, y) ∈ j.history.replies) (hz : (n, z) ∈ j.history.replies) :
      y = z := run.reply_eq (mem_replies.1 hy) (mem_replies.1 hz)
  rcases returns with ⟨rfl, reply⟩ | ⟨e, rfl, reply⟩
  · obtain ⟨r, reply', granted, -⟩ := told reply
    cases same reply reply'
    exact .inl ⟨rfl, granted.1 rfl⟩
  · obtain ⟨r, reply', granted, closed⟩ := told reply
    cases same reply reply'
    refine .inr ⟨⟨e, rfl⟩, fun connected => ?_, closed e rfl⟩
    cases granted.2 connected

/-! ### The only request -/

section

variable (run : Session.Run options j s) (lone : j.requests = [(n, call)])

include lone

theorem began_of_lone : (n, call) ∈ j.began :=
  (List.mem_filter.1 (lone ▸ List.mem_cons_self : (n, call) ∈ j.requests)).1

include run

theorem requests_le_one : j.history.requests ≤ 1 := by
  have once := run.ticketed.once
  have all : ∀ w ∈ j.history.commands.filter fun w => w.2.isRequest, w = (n, call.command n) := by
    rintro ⟨m, c⟩ hw
    obtain ⟨asked, request⟩ := List.mem_filter.1 hw
    obtain ⟨call', began, rfl⟩ := run.numbered.ordered m c (List.mem_append_left _ asked)
    have lone' : (m, call') ∈ j.requests := List.mem_filter.2 ⟨began, request⟩
    rw [lone] at lone'
    cases List.mem_singleton.1 lone'
    rfl
  have few := length_le_one (once.sublist (List.filter_sublist.map _)) all
  rwa [← List.countP_eq_length_filter] at few

/-- A command to send is that of the only request. -/
theorem eq_of_asked (asked : (m, .send method params callback) ∈ j.history.commands) :
    m = n ∧ call.command n = .send method params callback := by
  obtain ⟨call', began, is⟩ := run.numbered.ordered m _ (List.mem_append_left _ asked)
  have request : (m, call') ∈ j.requests := List.mem_filter.2 ⟨began, by rw [← is]; rfl⟩
  rw [lone] at request
  cases List.mem_singleton.1 request
  exact ⟨rfl, is.symm⟩

/-- What the only request was sent with. -/
theorem lone_sent (sent : (m, .ok id) ∈ j.history.sends) :
    m = n ∧ id = 1 ∧ ∃ method params callback ch, call.command n = .send method params callback ∧
      j.history.frames = [Frame.encode (Request.new 1 method params).document] ∧
      ⟨.write ch (Frame.encode (Request.new 1 method params).document), .ok ()⟩ ∈
        j.history.exchanges := by
  obtain ⟨is, method, params, callback, ch, asked, frames, written⟩ :=
    run.task.lone_of_sent (run.requests_le_one lone) sent
  obtain ⟨same, command⟩ := run.eq_of_asked lone asked
  exact ⟨same, is, method, params, callback, ch, command, frames, written⟩

end

theorem room_of_lone (run : Session.Run options j s) (lone : j.requests = [(n, call)]) :
    j.history.frames.length < UInt64.size :=
  Nat.lt_of_le_of_lt (Nat.le_trans run.task.frames_length_le (run.requests_le_one lone)) (by decide)

/-- The only call to send returns an id just if the link has accepted its frame. -/
theorem lone_sent_iff (run : Session.Run options j s)
    (lone : j.requests = [(n, .send method params callback)]) :
    (∃ id, (n, .sent id) ∈ s.finished) ↔
      ∃ ch, ⟨.write ch (Frame.encode (Request.new 1 method params).document), .ok ()⟩ ∈
        j.history.exchanges := by
  constructor
  · rintro ⟨id, finished⟩
    obtain ⟨-, -, method', params', callback', ch, command, -, written⟩ :=
      run.lone_sent lone (run.sent.1 finished).1
    cases command
    exact ⟨ch, written⟩
  · rintro ⟨ch, written⟩
    obtain ⟨m, id, sent⟩ := run.task.exists_sent (run.room_of_lone lone) written
    obtain ⟨rfl, -⟩ := run.lone_sent lone sent
    exact ⟨id, run.sent.2 ⟨sent, _, _, _, began_of_lone lone⟩⟩

/-- A request of which a response was told was sent. -/
theorem sent_of_settled (run : Session.Run options j s) {before : History} {x : Settlement}
    (told : before ++ [.tell (.settled x)] <+: j.history) :
    (x.callback.token, .ok x.request.id) ∈ j.history.sends := by
  have early : before.outputs ++ [.settled x] <+: j.history.outputs := by
    obtain ⟨after, is⟩ := told
    refine ⟨History.outputs after, ?_⟩
    rw [← is, outputs_append, outputs_append]
    rfl
  have replied := run.orderly.settled before.outputs x early
  exact mem_sends.2 (mem_replies.2 (early.subset (List.mem_append_left _ replied)))

/-- The request of a call that returned a response was sent. -/
theorem sent_of_answered (run : Session.Run options j s)
    (began : (n, .call method params) ∈ j.began) (finished : (n, .answered r) ∈ s.finished) :
    (n, .ok r.id) ∈ j.history.sends := by
  obtain ⟨ms, m, before, p, routes, -, -, same, rfl, -⟩ :=
    (run.returnsOwn.returned n method params r began).1 finished
  have sent := run.sent_of_settled routes.told
  have same : p.request.id = r.id := same
  rw [← same]
  exact sent

/-- The only call for a response returns a response just if that came while its request waited. -/
theorem lone_answered_iff (run : Session.Run options j s)
    (lone : j.requests = [(n, .call method params)]) :
    (n, .answered r) ∈ s.finished ↔ j.history.Meets options (.new 1 method params) r := by
  have own := run.returnsOwn
  have began := began_of_lone lone
  constructor
  · intro finished
    obtain ⟨ms, m, before, p, routes, is, waits, same, token, request⟩ :=
      (own.returned n method params r began).1 finished
    obtain ⟨-, first, -⟩ := run.lone_sent lone (run.sent_of_answered began finished)
    rw [same, first] at request
    exact ⟨ms, m, before, _, p, routes, is, first, waits, request⟩
  · rintro ⟨ms, m, before, o, p, routes, is, same, waits, request⟩
    have first : p.id = 1 := congrArg Request.id request
    have told := (own.answering.answered ms m before o _ routes).2
      ⟨p, r, is, waits, first.trans same.symm, rfl⟩
    subst told
    obtain ⟨token, -⟩ := run.lone_sent lone (run.sent_of_settled routes.told)
    refine (own.returned n method params r began).2
      ⟨ms, m, before, p, routes, is, waits, first.trans same.symm, token, ?_⟩
    rw [first]
    exact request

end Run

end Session

end GattRpc
