import GattRpc.Proofs.Connection.Alike
import GattRpc.Proofs.Connection.Turns

/-! # How a connection hangs up

A connection that disconnects the link takes no notice of the answer. Once it has come the reaction
is over, and the last error that is shown is the one from before
(`Connection.Run.resume_disconnect`). -/

namespace GattRpc

/-- When it disconnects the link, it ends in the same way whatever the link answers. -/
def Progress.Deaf {α : Type} : Progress α → Prop
  | .done _ _ _ | .crashed _ _ => True
  | .waiting c _ l resume => (l = .disconnect → ∃ v d out, (∀ a, resume a = .done v d out) ∧
      d.status.lastError = c.status.lastError) ∧ ∀ a, (resume a).Deaf

namespace Activity

variable {α β : Type}

def Deaf (x : Activity α) : Prop := ∀ c, (x c).Deaf

/-- It ends at once, and records no error. -/
def Quick (x : Activity α) : Prop :=
  ∀ c, ∃ v d out, x c = .done v d out ∧ d.status.lastError = c.status.lastError

end Activity

variable {α β : Type} {c c' : Connection} {h : History} {out : List Output}

namespace Progress

variable {p q : Progress α}

theorem Deaf.after (k : p.Deaf) : (p.after out).Deaf := by
  cases p with
  | done | crashed => trivial
  | waiting => exact k

theorem Deaf.bind {f : α → Connection → Progress β} (k : p.Deaf)
    (next : ∀ v c, ∃ w d out, f v c = .done w d out ∧ d.status.lastError = c.status.lastError) :
    (p.bind f).Deaf := by
  induction p with
  | done v c out =>
    obtain ⟨w, d, more, ends, -⟩ := next v c
    show ((f v c).after out).Deaf
    rw [ends]
    trivial
  | waiting c out l resume ih =>
    obtain ⟨hangsUp, rest⟩ := k
    refine ⟨fun is => ?_, fun a => ih a (rest a)⟩
    obtain ⟨v, d, out, all, same⟩ := hangsUp is
    obtain ⟨w, d', more, ends, same'⟩ := next v d
    refine ⟨w, d', out ++ more, fun a => ?_, same'.trans same⟩
    show (resume a).bind f = _
    rw [all a]
    exact congrArg (Progress.after out) ends
  | crashed => trivial

theorem Deaf.reaches (k : p.Deaf) (r : p.Reaches h q) : q.Deaf := by
  induction r with
  | here => exact k
  | answered a rest ih => exact ih (k.2 a)

end Progress

namespace Activity

namespace Quick

theorem pure {v : α} : (Pure.pure v : Activity α).Quick := fun c => ⟨v, c, [], rfl, rfl⟩

theorem tell : (tell out).Quick := fun c => ⟨(), c, out, rfl, rfl⟩

theorem modify {f : Connection → Connection}
    (same : ∀ c, (f c).status.lastError = c.status.lastError) : (modify f).Quick :=
  fun c => ⟨(), f c, [], rfl, same c⟩

theorem report {f : LinkStatus → LinkStatus} (same : ∀ s, (f s).lastError = s.lastError) :
    (report f).Quick :=
  fun c => ⟨(), _, _, rfl, same c.status⟩

theorem bind {x : Activity α} {f : α → Activity β} (first : x.Quick) (next : ∀ v, (f v).Quick) :
    (x >>= f).Quick := by
  intro c
  obtain ⟨v, d, out, ends, same⟩ := first c
  obtain ⟨w, d', more, ends', same'⟩ := next v d
  refine ⟨w, d', out ++ more, ?_, same'.trans same⟩
  show (x c).bind (fun v => f v) = _
  rw [ends]
  exact congrArg (Progress.after out) ends'

theorem get_bind {f : Connection → Activity α} (next : ∀ c, (f c).Quick) : (get >>= f).Quick := by
  intro c
  rw [run_get_bind]
  exact next c c

theorem ite {p : Prop} [Decidable p] {x y : Activity α} (yes : x.Quick) (no : y.Quick) :
    (if p then x else y).Quick := by
  split
  · exact yes
  · exact no

theorem deaf {x : Activity α} (quick : x.Quick) : x.Deaf := by
  intro c
  obtain ⟨v, d, out, ends, -⟩ := quick c
  rw [ends]
  trivial

end Quick

namespace Deaf

theorem bind {x : Activity α} {f : α → Activity β} (first : x.Deaf) (next : ∀ v, (f v).Quick) :
    (x >>= f).Deaf :=
  fun c => (first c).bind next

theorem get_bind {f : Connection → Activity α} (next : ∀ c, (f c).Deaf) : (get >>= f).Deaf := by
  intro c
  rw [run_get_bind]
  exact next c c

theorem modify_bind {g : Connection → Connection} {f : Unit → Activity α} (next : (f ()).Deaf) :
    (modify g >>= f).Deaf :=
  fun c => (next (g c)).after

theorem report_bind {g : LinkStatus → LinkStatus} {f : Unit → Activity α} (next : (f ()).Deaf) :
    (report g >>= f).Deaf :=
  fun c => (next { c with status := g c.status }).after

theorem tell_bind {f : Unit → Activity α} (next : (f ()).Deaf) : (tell out >>= f).Deaf :=
  fun c => (next c).after

theorem call_bind {l : LinkCall} {f : LinkAnswer l → Activity α} (other : l ≠ .disconnect)
    (next : ∀ a, (f a).Deaf) : (call l >>= f).Deaf :=
  fun c => ⟨fun is => (other is).elim, fun a => (next a c).after⟩

/-- What comes after is the same for every answer. -/
theorem disconnect_bind {y : Activity α} (next : y.Quick) :
    (call .disconnect >>= fun _ => y).Deaf := by
  intro c
  obtain ⟨v, d, out, ends, same⟩ := next c
  have answered (a : LinkAnswer .disconnect) :
      (Progress.done a c []).bind (fun _ => y) = .done v d out :=
    congrArg (Progress.after []) ends
  refine ⟨fun _ => ⟨v, d, out, answered, same⟩, fun a => ?_⟩
  show (Progress.bind _ _).Deaf
  rw [answered a]
  trivial

theorem ite {p : Prop} [Decidable p] {x y : Activity α} (yes : x.Deaf) (no : y.Deaf) :
    (if p then x else y).Deaf := by
  split
  · exact yes
  · exact no

end Deaf

end Activity

namespace Connection

open Activity

/-! ### The handlers -/

theorem quick_transition {next : ConnectionState} : (transition next).Quick :=
  fun _ => ⟨(), _, _, transition_eq, rfl⟩

theorem quick_releaseAll {reason : CloseReason} : (releaseAll reason).Quick :=
  fun _ => ⟨(), _, _, releaseAll_eq, rfl⟩

theorem quick_reportOutstanding : reportOutstanding.Quick :=
  .get_bind fun _ => .report fun _ => rfl

theorem quick_route {m : Json} : (route m).Quick := by
  intro c
  obtain ⟨out, d, ends, delivers⟩ := route_eq m c
  refine ⟨(), d, out, ends, ?_⟩
  generalize out.map Act.tell = told at delivers
  cases delivers <;> rfl

theorem quick_routeAll {ms : List Json} : (routeAll ms).Quick := by
  induction ms with
  | nil => exact .pure
  | cons m ms ih => exact .bind quick_route fun _ => ih

theorem quick_receive {chunk : List UInt8} : (receive chunk).Quick := by
  refine .get_bind fun c => .bind (.modify fun _ => rfl) fun _ => .bind .tell fun _ => ?_
  exact .bind quick_routeAll fun _ => quick_reportOutstanding

theorem deaf_shutdown {reason : CloseReason} : (shutdown reason).Deaf := by
  have closes : (do releaseAll reason; transition .closed; emit (.closed reason)).Quick :=
    .bind quick_releaseAll fun _ => .bind quick_transition fun _ => .tell
  refine .get_bind fun c => .ite Quick.pure.deaf (.modify_bind ?_)
  exact .ite (.disconnect_bind closes) closes.deaf

theorem deaf_failConnecting {e : LinkError} : (failConnecting e).Deaf :=
  .report_bind (deaf_shutdown.bind fun _ => .pure)

theorem deaf_noteLinkError {e : LinkError} : (noteLinkError e).Deaf :=
  .report_bind (.ite deaf_shutdown Quick.pure.deaf)

theorem deaf_startPolling_bind {channel : Channel} {f : Except LinkError Unit → Activity α}
    (next : ∀ r, (f r).Deaf) : (startPolling channel >>= f).Deaf := by
  rw [startPolling, bind_assoc]
  refine .get_bind fun c => ?_
  split
  next => exact fun c => ⟨by rintro ⟨⟩, fun a => (next a.result c).after⟩
  next => exact fun _ => trivial
  next => exact fun c => (next (.ok ()) c).after

theorem deaf_establish : establish.Deaf := by
  have failed {e : LinkError} :
      (failConnecting e >>= fun r => pure (.error r : Except RpcError Unit)).Deaf :=
    deaf_failConnecting.bind fun _ => .pure
  have enters {α : Type} {next : ConnectionState} {f : Unit → Activity α} (rest : (f ()).Deaf) :
      (transition next >>= f).Deaf := by
    intro c
    change ((transition next c).bind _).Deaf
    rw [transition_eq]
    exact (rest _).after
  refine .get_bind fun c => ?_
  split
  next => exact Quick.pure.deaf
  next =>
    refine enters (.call_bind (by rintro ⟨⟩) fun a => ?_)
    split
    next => exact failed
    next =>
      refine .modify_bind (.report_bind (enters (.call_bind (by rintro ⟨⟩) fun a => ?_)))
      split
      next => exact failed
      next =>
        split
        next => exact .report_bind (deaf_shutdown.bind fun _ => .pure)
        next =>
          refine deaf_startPolling_bind fun r => ?_
          split
          next => exact failed
          next => exact .modify_bind (enters Quick.pure.deaf)
  next => exact Quick.pure.deaf

theorem deaf_send {method : String} {params : Json} {callback : Option Callback} :
    (send method params callback).Deaf := by
  refine .get_bind fun c => ?_
  split
  next =>
    refine .modify_bind (.call_bind (by rintro ⟨⟩) fun a => ?_)
    split
    next => exact deaf_noteLinkError.bind fun _ => .bind .tell fun _ => .pure
    next =>
      refine .get_bind fun c => .modify_bind (.tell_bind ?_)
      exact (Quick.bind quick_reportOutstanding fun _ => .pure).deaf
  next => exact .tell_bind Quick.pure.deaf

theorem deaf_signal {channel : Channel} {payload : List UInt8} :
    (signal channel payload).Deaf := by
  refine .modify_bind (.ite (.call_bind (by rintro ⟨⟩) fun a => ?_) Quick.pure.deaf)
  split
  next => exact quick_receive.deaf
  next => exact deaf_noteLinkError

theorem deaf_poll {channel : Channel} {tick : PollTick} : (poll channel tick).Deaf := by
  cases tick with
  | signal => exact deaf_signal
  | due =>
    refine .call_bind (by rintro ⟨⟩) fun a => ?_
    split
    next => exact deaf_signal
    next => exact deaf_noteLinkError
  | ended => exact deaf_shutdown

theorem quick_sweep {now : Nat} : (handle (.sweep now)).Quick := by
  refine .bind (.get_bind fun c => .ite (.get_bind fun c => ?_) .pure) fun _ => .modify fun _ => rfl
  split
  next => exact .pure
  next =>
    refine .bind (.modify fun _ => rfl) fun _ => .bind .tell fun _ => ?_
    exact .ite .pure quick_reportOutstanding

theorem deaf_handle {x : Stimulus} : (handle x).Deaf := by
  have rests (x : Stimulus) (reacts : (react x).Deaf) : (handle x).Deaf :=
    .bind reacts fun _ => .modify fun _ => rfl
  cases x with
  | command n cmd =>
    refine rests _ (.get_bind fun c => ?_)
    cases cmd with
    | connect => exact deaf_establish.bind fun _ => .tell
    | send => exact deaf_send.bind fun _ => .tell
    | close => exact deaf_shutdown.bind fun _ => .tell
  | clientsGone => exact rests _ (.get_bind fun c => deaf_shutdown)
  | linkLost => exact rests _ (.get_bind fun c => .ite deaf_shutdown Quick.pure.deaf)
  | poll tick =>
    refine rests _ (.get_bind fun c => ?_)
    cases c.channel with
    | some channel => exact deaf_poll
    | none => exact Quick.pure.deaf
  | sweep now => exact quick_sweep.deaf

namespace Run

variable {options : Options}

/-- A task that has hung up, and is idle again, is closed. -/
theorem closed_of_disconnect (mode : options.pollMode ≠ .interval 0) (run : Run options h (.idle c))
    (called : .disconnect ∈ h.calls) : c.state = .closed := by
  have s : Steady options h c := steady mode run
  have stage := s.stage
  rw [s.answered] at called
  generalize h.exchanges = xs at stage called
  cases inUse : c.channel with
  | none =>
    rw [inUse] at stage
    generalize c.state = state at stage
    cases stage with
    | untried => cases called
    | ended => rfl
  | some channel =>
    rw [inUse] at stage
    generalize c.state = state at stage
    cases stage with
    | serving handshake transfers =>
      rw [List.map_append] at called
      have count := (handshake.attempts.append (Transfer.attempts transfers)).disconnects
      exact (List.count_eq_zero.1 count called).elim

/-- Whatever the link answers when it is disconnected, the reaction ends with the same connection,
which is closed, and no error is recorded. -/
theorem resume_disconnect (mode : options.pollMode ≠ .interval 0)
    {resume : LinkAnswer .disconnect → Progress Unit}
    (run : Run options h (.calling c .disconnect resume)) :
    ∃ d out, (∀ a, resume a = .done () d out) ∧ d.state = .closed ∧
      d.status.lastError = c.status.lastError := by
  have started : h ≠ [] := by
    intro none
    cases run.eq_start none
  obtain ⟨g, x, rest, rfl, untaken⟩ := History.exists_last_take started run.head
  obtain ⟨c₀, -, -, turn⟩ := run.exists_turn rfl
  generalize stands' : Standing.calling c .disconnect resume = t at turn
  cases turn with
  | past reacts => exact (untaken _ (List.mem_append_right _ List.mem_cons_self)).elim
  | @amid h' q _ reaches stands =>
    have deaf := (deaf_handle (x := x) c₀).reaches reaches
    subst stands'
    cases q with
    | waiting d told l resume' =>
      cases stands.elim id id
      obtain ⟨⟨⟩, d, out, all, same⟩ := deaf.1 rfl
      have answered := run.step (.answer (l := .disconnect) ⟨0, .ok ()⟩)
      rw [all] at answered
      refine ⟨d, out, all, answered.closed_of_disconnect mode ?_, same⟩
      simp [Progress.acts]
    | done =>
      rcases stands with is | is
      · cases is
      · cases x <;> cases is
    | crashed => cases stands.elim id id

end Run

end Connection

end GattRpc
