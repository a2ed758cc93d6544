import GattRpc.Proofs.Connection.Alike
import GattRpc.Proofs.Connection.Turns

/-! # Calls that carry bytes

Bytes are written to send a request, and read on a poll tick; no other handler does either, or
counts a signal (`Activity.Plain`). So a task that awaits the answer of such a call is one call, or
two, from the start of its reaction, and what it goes on with is known (`Connection.Run.transfers`).
-/

namespace GattRpc

/-- Bytes are written or read. -/
def LinkCall.Carries : LinkCall → Prop
  | write _ _ | read _ => True
  | connect | discover | subscribe _ | disconnect => False

/-- The signal that an act brings: a notification, or what is read of the poll signal. -/
def Act.signal? : Act → Option (List UInt8)
  | take (.poll (.signal payload)) => some payload
  | answer (.read ch) a => if ch.uuid = pollSignalUuid then a.result.toOption else none
  | _ => none

theorem Act.signal?_read {ch : Characteristic} {time : Nat} {payload : List UInt8}
    (pollSignal : ch.uuid = pollSignalUuid) :
    (answer (.read ch) ⟨time, .ok payload⟩).signal? = some payload :=
  if_pos pollSignal

theorem Act.of_signal?_read {ch : Characteristic} {a : LinkAnswer (.read ch)}
    {payload : List UInt8} (brings : (answer (.read ch) a).signal? = some payload) :
    ch.uuid = pollSignalUuid ∧ a = ⟨a.time, .ok payload⟩ := by
  obtain ⟨pollSignal, result⟩ := Option.ite_none_right_eq_some.1 brings
  obtain ⟨time, _ | p⟩ := a
  · cases result
  · cases result
    exact ⟨pollSignal, rfl⟩

/-- The signals that came. -/
def History.signals (h : History) : List (List UInt8) := h.filterMap Act.signal?

/-- It makes no call that carries bytes, and leaves the signals counted as they are. -/
def Progress.Plain {α : Type} (tally : SignalTally) : Progress α → Prop
  | .done _ c _ | .crashed c _ => c.signals = tally
  | .waiting c _ l resume => ¬ l.Carries ∧ c.signals = tally ∧ ∀ a, (resume a).Plain tally

def Activity.Plain {α : Type} (x : Activity α) : Prop := ∀ c, (x c).Plain c.signals

variable {α β : Type} {c c' d : Connection} {h : History} {out : List Output}

namespace Progress

variable {p q : Progress α} {tally : SignalTally}

theorem Plain.after (k : p.Plain tally) : (p.after out).Plain tally := by
  cases p <;> exact k

theorem Plain.bind {f : α → Connection → Progress β} (k : p.Plain tally)
    (next : ∀ v c, c.signals = tally → (f v c).Plain tally) : (p.bind f).Plain tally := by
  induction p with
  | done v c out => exact (next v c k).after
  | waiting c out l resume ih => exact ⟨k.1, k.2.1, fun a => ih a (k.2.2 a)⟩
  | crashed => exact k

theorem Plain.reaches (k : p.Plain tally) (r : p.Reaches h q) : q.Plain tally := by
  induction r with
  | here => exact k
  | answered a rest ih => exact ih (k.2.2 a)

theorem Plain.signals {p : Progress Unit} (k : p.Plain tally) :
    p.standing.connection.signals = tally := by
  cases p with
  | done | crashed => exact k
  | waiting => exact k.2.1

theorem Reaches.of_waiting {l : LinkCall} {resume : LinkAnswer l → Progress α}
    (r : (waiting c out l resume).Reaches h q) :
    (h = [] ∧ q = waiting c out l resume) ∨
      ∃ a h', h = out.map .tell ++ .call l :: .answer l a :: h' ∧ (resume a).Reaches h' q := by
  cases r with
  | here => exact .inl ⟨rfl, rfl⟩
  | answered a rest => exact .inr ⟨a, _, rfl, rest⟩

end Progress

namespace Activity.Plain

theorem pure {v : α} : (Pure.pure v : Activity α).Plain := fun _ => rfl

theorem crash : (crash : Activity α).Plain := fun _ => rfl

theorem tell : (tell out).Plain := fun _ => rfl

theorem modify {f : Connection → Connection} (same : ∀ c, (f c).signals = c.signals) :
    (modify f).Plain := same

theorem report {f : LinkStatus → LinkStatus} : (report f).Plain := fun _ => rfl

theorem call {l : LinkCall} (other : ¬ l.Carries) : (call l).Plain :=
  fun _ => ⟨other, rfl, fun _ => rfl⟩

theorem bind {x : Activity α} {f : α → Activity β} (first : x.Plain) (next : ∀ v, (f v).Plain) :
    (x >>= f).Plain :=
  fun c => (first c).bind fun v d same => same ▸ next v d

theorem get_bind {f : Connection → Activity α} (next : ∀ c, (f c).Plain) : (get >>= f).Plain := by
  intro c
  rw [run_get_bind]
  exact next c c

theorem ite {p : Prop} [Decidable p] {x y : Activity α} (yes : x.Plain) (no : y.Plain) :
    (if p then x else y).Plain := by
  split
  · exact yes
  · exact no

end Activity.Plain

namespace Connection

open Activity

/-! ### The handlers that carry nothing -/

theorem plain_transition {next : ConnectionState} : (transition next).Plain := fun _ => rfl

theorem plain_releaseAll {reason : CloseReason} : (releaseAll reason).Plain := fun _ => rfl

theorem plain_shutdown {reason : CloseReason} : (shutdown reason).Plain := by
  have closes : (do releaseAll reason; transition .closed; emit (.closed reason)).Plain :=
    .bind plain_releaseAll fun _ => .bind plain_transition fun _ => .tell
  refine .get_bind fun c => .ite .pure (.bind (.modify fun _ => rfl) fun _ => ?_)
  exact .ite (.bind (.call id) fun _ => closes) closes

theorem plain_failConnecting {e : LinkError} : (failConnecting e).Plain :=
  .bind .report fun _ => .bind plain_shutdown fun _ => .pure

theorem plain_noteLinkError {e : LinkError} : (noteLinkError e).Plain :=
  .bind .report fun _ => .ite plain_shutdown .pure

theorem plain_startPolling {channel : Channel} : (startPolling channel).Plain := by
  refine .get_bind fun c => ?_
  split
  next => exact .bind (.call id) fun _ => .pure
  next => exact .crash
  next => exact .pure

theorem plain_establish : establish.Plain := by
  have failed {e : LinkError} :
      (failConnecting e >>= fun r => pure (.error r : Except RpcError Unit)).Plain :=
    .bind plain_failConnecting fun _ => .pure
  refine .get_bind fun c => ?_
  split
  next => exact .pure
  next =>
    refine .bind plain_transition fun _ => .bind (.call id) fun a => ?_
    split
    next => exact failed
    next =>
      refine .bind (.modify fun _ => rfl) fun _ => .bind .report fun _ => ?_
      refine .bind plain_transition fun _ => ?_
      refine .bind (.call id) fun a => ?_
      split
      next => exact failed
      next =>
        split
        next => exact .bind .report fun _ => .bind plain_shutdown fun _ => .pure
        next =>
          refine .bind plain_startPolling fun r => ?_
          split
          next => exact failed
          next => exact .bind (.modify fun _ => rfl) fun _ => .bind plain_transition fun _ => .pure
  next => exact .pure

theorem plain_reportOutstanding : reportOutstanding.Plain := .get_bind fun _ => .report

theorem plain_route {m : Json} : (route m).Plain := by
  intro c
  obtain ⟨out, d, ends, delivers⟩ := route_eq m c
  rw [ends]
  generalize out.map Act.tell = told at delivers
  cases delivers <;> rfl

theorem plain_routeAll {ms : List Json} : (routeAll ms).Plain := by
  induction ms with
  | nil => exact .pure
  | cons m ms ih => exact .bind plain_route fun _ => ih

theorem plain_receive {chunk : List UInt8} : (receive chunk).Plain := by
  refine .get_bind fun c => .bind (.modify fun _ => rfl) fun _ => .bind .tell fun _ => ?_
  exact .bind plain_routeAll fun _ => plain_reportOutstanding

theorem plain_sweep {now : Nat} : (sweep now).Plain := by
  refine .get_bind fun c => ?_
  split
  next => exact .pure
  next =>
    refine .bind (.modify fun _ => rfl) fun _ => .bind .tell fun _ => ?_
    exact .ite .pure plain_reportOutstanding

/-! ### What is left to do after a failure -/

/-- What a connection that is ready has left to do when a call fails, if its reaction ends with
these outputs. -/
def givesUp (c : Connection) (e : LinkError) (last : List Output) : Progress Unit :=
  if e.isFatal then
    .waiting (c.blame e).detached [.shown (c.blame e).status] .disconnect fun _ =>
      .done () ((c.blame e).closed (.transportFailure e.message)).rested
        ((c.blame e).farewell (.transportFailure e.message) ++ last)
  else .done () (c.blame e).rested (.shown (c.blame e).status :: last)

theorem plain_givesUp {e : LinkError} {last : List Output} :
    (c.givesUp e last).Plain c.signals := by
  unfold givesUp
  split
  · exact ⟨id, rfl, fun _ => rfl⟩
  · rfl

theorem run_shutdown {reason : CloseReason} (ready : c.state = .ready) :
    shutdown reason c = .waiting c.detached [] .disconnect fun _ =>
      .done () (c.closed reason) (c.farewell reason) := by
  rw [shutdown, run_get_bind, if_neg (by simp [ready]), if_pos (by simp [ready]), ← farewell_eq]
  rfl

theorem run_noteLinkError {e : LinkError} (ready : c.state = .ready) :
    noteLinkError e c = if e.isFatal then
      .waiting (c.blame e).detached [.shown (c.blame e).status] .disconnect fun _ =>
        .done () ((c.blame e).closed (.transportFailure e.message))
          ((c.blame e).farewell (.transportFailure e.message))
      else .done () (c.blame e) [.shown (c.blame e).status] := by
  cases fatal : e.isFatal with
  | true =>
    rw [if_pos rfl, noteLinkError, if_pos fatal]
    change ((shutdown _) (c.blame e)).after [.shown (c.blame e).status] = _
    rw [run_shutdown (c := c.blame e) ready]
    rfl
  | false =>
    rw [noteLinkError, fatal]
    rfl

/-- A reaction that notes an error of the link and then ends. -/
theorem run_noteLinkError_bind {e : LinkError} {last : List Output}
    {f : Unit → Connection → Progress Unit} (ready : c.state = .ready)
    (ends : ∀ c, f () c = .done () c.rested last) :
    (noteLinkError e c).bind f = c.givesUp e last := by
  rw [run_noteLinkError ready, givesUp]
  split
  · simp only [Progress.bind, ends]
    rfl
  · simp only [Progress.bind, ends]
    rfl

/-! ### The handlers that carry bytes -/

/-- What is told last of a request whose frame was not written. -/
def unsent (n : Nat) (callback : Option Callback) (e : LinkError) : List Output :=
  callback.toList.map .discarded ++ [.reply n (.send (.error (.transport e)))]

theorem run_handle {x : Stimulus} :
    handle x c = (react x c).bind fun _ d => .done () d.rested [] := rfl

theorem plain_handle {x : Stimulus} (plain : (react x c).Plain c.signals) :
    (handle x c).Plain c.signals :=
  plain.bind fun _ _ same => same

theorem run_send {n : Nat} {method : String} {params : Json} {callback : Option Callback}
    {channel : Channel} (inUse : c.channel = some channel) (ready : c.state = .ready) :
    ∃ resume, handle (.command n (.send method params callback)) c =
        .waiting c.prepared []
          (.write channel.inbox
            (Frame.encode (Request.new c.correlator.nextId method params).document)) resume ∧
      (∀ a, (resume a).Plain c.signals) ∧
      ∀ time e, resume ⟨time, .error e⟩ = c.prepared.givesUp e (unsent n callback e) := by
  have sends : ∃ f, send method params callback c = (call (.write channel.inbox
        (Frame.encode (Request.new c.correlator.nextId method params).document)) >>= f)
          c.prepared ∧
      (∀ a, (f a).Plain) ∧ ∀ time e, f ⟨time, .error e⟩ = (do
        noteLinkError e
        tell (callback.toList.map .discarded)
        return .error (.transport e)) := by
    rw [send, run_get_bind]
    simp only [inUse, ready]
    refine ⟨_, rfl, fun a => ?_, fun _ _ => rfl⟩
    split
    next => exact .bind plain_noteLinkError fun _ => .bind .tell fun _ => .pure
    next =>
      refine .get_bind fun d => .bind (.modify fun _ => rfl) fun _ => .bind .tell fun _ => ?_
      exact .bind plain_reportOutstanding fun _ => .pure
  obtain ⟨f, begins, plain, fails⟩ := sends
  have reacts : react (.command n (.send method params callback)) c =
      (send method params callback c).bind fun r => tell [.reply n (.send r)] := run_get_bind
  rw [run_handle, reacts, begins]
  refine ⟨_, rfl, fun a => ?_, fun time e => ?_⟩
  · refine Progress.Plain.bind (Progress.Plain.bind (plain a c.prepared).after ?_) ?_
    · exact fun _ _ same => same
    · exact fun _ _ same => same
  · -- What follows the failure makes up the last outputs.
    have rest : (f ⟨time, .error e⟩ c.prepared).bind (fun r => tell [.reply n (.send r)]) =
        (noteLinkError e c.prepared).bind fun _ d => .done () d (unsent n callback e) := by
      rw [fails]
      refine (Progress.bind_bind (noteLinkError e c.prepared) _ _).trans ?_
      refine congrArg _ (funext fun _ => funext fun d => ?_)
      change Progress.done () d (_ ++ [] ++ [_]) = _
      rw [List.append_nil, unsent]
    calc (((f ⟨time, .error e⟩ c.prepared).after []).bind _).bind _
      _ = ((f ⟨time, .error e⟩ c.prepared).bind fun r => tell [.reply n (.send r)]).bind _ :=
        congrArg (fun p => (Progress.bind p _).bind _) (Progress.after_nil _)
      _ = (noteLinkError e c.prepared).bind _ :=
        (congrArg (Progress.bind · _) rest).trans (Progress.bind_bind ..)
      _ = c.prepared.givesUp e (unsent n callback e) :=
        run_noteLinkError_bind ready fun d => by simp [Progress.bind, Progress.after]

theorem rested_of_ready (ready : c.state = .ready) : c.rested = c := by
  have same : (c.sweeping && decide (c.state ≠ .closed)) = c.sweeping := by simp [ready]
  rw [rested, same]

theorem run_poll {channel : Channel} {tick : PollTick} (inUse : c.channel = some channel) :
    react (.poll tick) c = poll channel tick c := by
  refine run_get_bind.trans ?_
  simp only [inUse]

/-- A signal that announces nothing is counted, and that is all. -/
theorem run_signal_ignored {channel : Channel} {payload : List UInt8}
    (inUse : c.channel = some channel) (ready : c.state = .ready)
    (nothing : PollSignal.announced? payload = none) :
    handle (.poll (.signal payload)) c = .done () (c.counted payload) [] := by
  have signals : signal channel payload c = .done () (c.counted payload) [] := by
    rw [signal, nothing]
    rfl
  rw [run_handle, run_poll inUse, poll, signals]
  exact congrArg (Progress.done () · []) (rested_of_ready (c := c.counted payload) ready)

theorem run_signal {channel : Channel} {payload : List UInt8}
    (inUse : c.channel = some channel) (ready : c.state = .ready)
    (something : (PollSignal.announced? payload).isSome) :
    ∃ resume, handle (.poll (.signal payload)) c =
        .waiting (c.counted payload) [] (.read channel.inbox) resume ∧
      (∀ a, (resume a).Plain (c.counted payload).signals) ∧
      ∀ time e, resume ⟨time, .error e⟩ = (c.counted payload).givesUp e [] := by
  have signals : ∃ f, signal channel payload c =
        (call (.read channel.inbox) >>= f) (c.counted payload) ∧
      (∀ a, (f a).Plain) ∧ ∀ time e, f ⟨time, .error e⟩ = noteLinkError e := by
    rw [signal, if_pos something]
    refine ⟨_, rfl, fun a => ?_, fun _ _ => rfl⟩
    split
    next => exact plain_receive
    next => exact plain_noteLinkError
  obtain ⟨f, begins, plain, fails⟩ := signals
  rw [run_handle, run_poll inUse, poll, begins]
  refine ⟨_, rfl, fun a => ?_, fun time e => ?_⟩
  · exact Progress.Plain.bind (plain a _).after fun _ _ same => same
  · calc ((f ⟨time, .error e⟩ (c.counted payload)).after []).bind _
      _ = (noteLinkError e (c.counted payload)).bind _ := by
        rw [Progress.after_nil, fails]
      _ = (c.counted payload).givesUp e [] := run_noteLinkError_bind ready fun _ => rfl

theorem run_due {channel : Channel} (inUse : c.channel = some channel) (ready : c.state = .ready) :
    ∃ resume, handle (.poll .due) c = .waiting c [] (.read channel.pollSignal) resume ∧
      (∀ time payload, resume ⟨time, .ok payload⟩ = handle (.poll (.signal payload)) c) ∧
      ∀ time e, resume ⟨time, .error e⟩ = c.givesUp e [] := by
  rw [run_handle, run_poll inUse, poll]
  refine ⟨_, rfl, fun time payload => ?_, fun time e => ?_⟩
  · calc ((signal channel payload c).after []).bind _
      _ = (react (.poll (.signal payload)) c).bind _ := by
        rw [Progress.after_nil, run_poll inUse]
        rfl
  · calc ((noteLinkError e c).after []).bind _
      _ = (noteLinkError e c).bind _ := by rw [Progress.after_nil]
      _ = c.givesUp e [] := run_noteLinkError_bind ready fun _ => rfl

/-- What may make a connection carry bytes. -/
inductive Carries : Stimulus → Prop
  | send {n : Nat} {method : String} {params : Json} {callback : Option Callback} :
    Carries (.command n (.send method params callback))
  | signal {payload : List UInt8} : Carries (.poll (.signal payload))
  | due : Carries (.poll .due)

/-! ### Runs -/

/-- How the reaction to a stimulus that `c` takes comes to a call that carries bytes: what is done
before, the connection then, the call, and how the reaction goes on. -/
inductive Transfers (c : Connection) (channel : Channel) : Stimulus → History → Connection →
    (l : LinkCall) → (LinkAnswer l → Progress Unit) → Prop
  | write {n : Nat} {method : String} {params : Json} {callback : Option Callback}
    {resume : LinkAnswer (.write channel.inbox
      (Frame.encode (Request.new c.correlator.nextId method params).document)) → Progress Unit}
    (plain : ∀ a, (resume a).Plain c.signals)
    (fails : ∀ time e, resume ⟨time, .error e⟩ = c.prepared.givesUp e (unsent n callback e)) :
    c.Transfers channel (.command n (.send method params callback)) [] c.prepared _ resume
  | notified {payload : List UInt8} {resume : LinkAnswer (.read channel.inbox) → Progress Unit}
    (something : (PollSignal.announced? payload).isSome)
    (plain : ∀ a, (resume a).Plain (c.counted payload).signals)
    (fails : ∀ time e, resume ⟨time, .error e⟩ = (c.counted payload).givesUp e []) :
    c.Transfers channel (.poll (.signal payload)) [] (c.counted payload) _ resume
  | probe {resume : LinkAnswer (.read channel.pollSignal) → Progress Unit}
    (succeeds : ∀ time payload, resume ⟨time, .ok payload⟩ = handle (.poll (.signal payload)) c)
    (fails : ∀ time e, resume ⟨time, .error e⟩ = c.givesUp e []) :
    c.Transfers channel (.poll .due) [] c _ resume
  | probed {payload : List UInt8} {resume : LinkAnswer (.read channel.inbox) → Progress Unit}
    (time : Nat) (something : (PollSignal.announced? payload).isSome)
    (plain : ∀ a, (resume a).Plain (c.counted payload).signals)
    (fails : ∀ time e, resume ⟨time, .error e⟩ = (c.counted payload).givesUp e []) :
    c.Transfers channel (.poll .due)
      [.call (.read channel.pollSignal), .answer (.read channel.pollSignal) ⟨time, .ok payload⟩]
      (c.counted payload) _ resume

/-- A pause in a reaction that carries no bytes any more. -/
theorem not_reaches_of_plain {p : Progress Unit} {tally : SignalTally} {l : LinkCall}
    {resume : LinkAnswer l → Progress Unit} (plain : p.Plain tally)
    (reaches : p.Reaches h (.waiting d out l resume)) :
    ¬ l.Carries ∧ ∀ a, (resume a).Plain d.signals := by
  obtain ⟨other, same, rest⟩ := plain.reaches reaches
  exact ⟨other, fun a => same ▸ rest a⟩

/-- A request that is refused carries nothing. -/
theorem plain_send_of_unready {method : String} {params : Json} {callback : Option Callback}
    (unready : ¬ (c.state = .ready ∧ c.channel.isSome)) :
    (send method params callback c).Plain c.signals := by
  rw [send, run_get_bind]
  cases inUse : c.channel with
  | none => rfl
  | some channel =>
    cases state : c.state with
    | ready => exact (unready ⟨state, inUse ▸ rfl⟩).elim
    | disconnected | connecting | discovering | closed => rfl

/-- Only a connection that is ready carries bytes, and only for a request or on a tick. -/
theorem plain_or_carries {x : Stimulus}
    (serving : ∀ channel, c.channel = some channel → c.state = .ready) :
    (handle x c).Plain c.signals ∨ ∃ channel, c.channel = some channel ∧ c.state = .ready ∧
      Carries x := by
  have rests {y : Activity Unit} (is : react x c = y c) (plain : y.Plain) :
      (handle x c).Plain c.signals :=
    plain_handle (is ▸ plain c)
  cases x with
  | command n cmd =>
    cases cmd with
    | connect =>
      exact .inl (rests run_get_bind (.bind plain_establish fun _ => .tell))
    | send method params callback =>
      by_cases ready : c.state = .ready ∧ c.channel.isSome
      · obtain ⟨channel, inUse⟩ := Option.isSome_iff_exists.1 ready.2
        exact .inr ⟨channel, inUse, ready.1, .send⟩
      · have reacts : react (.command n (.send method params callback)) c =
            (send method params callback c).bind fun r => tell [.reply n (.send r)] := run_get_bind
        refine .inl (plain_handle ?_)
        rw [reacts]
        exact (plain_send_of_unready ready).bind fun _ _ same => same
    | close => exact .inl (rests run_get_bind (.bind plain_shutdown fun _ => .tell))
  | clientsGone => exact .inl (rests run_get_bind plain_shutdown)
  | linkLost => exact .inl (rests run_get_bind (.ite plain_shutdown .pure))
  | poll tick =>
    cases inUse : c.channel with
    | none =>
      refine .inl (rests (y := pure ()) ?_ .pure)
      refine run_get_bind.trans ?_
      simp only [inUse]
    | some channel =>
      cases tick with
      | signal payload => exact .inr ⟨channel, rfl, serving channel inUse, .signal⟩
      | due => exact .inr ⟨channel, rfl, serving channel inUse, .due⟩
      | ended => exact .inl (rests (run_poll inUse) plain_shutdown)
  | sweep now => exact .inl (rests run_get_bind (.ite plain_sweep .pure))

/-- A pause in the reaction to a signal. -/
theorem reaches_signal {channel : Channel} {payload : List UInt8} {part : History} {l : LinkCall}
    {resume : LinkAnswer l → Progress Unit} (inUse : c.channel = some channel)
    (ready : c.state = .ready)
    (reaches : (handle (.poll (.signal payload)) c).Reaches part (.waiting d out l resume)) :
    (¬ l.Carries ∧ ∀ a, (resume a).Plain d.signals) ∨
      ∃ resume', Progress.waiting d out l resume =
          .waiting (c.counted payload) [] (.read channel.inbox) resume' ∧ part = [] ∧
        (PollSignal.announced? payload).isSome ∧
        (∀ a, (resume' a).Plain (c.counted payload).signals) ∧
        ∀ time e, resume' ⟨time, .error e⟩ = (c.counted payload).givesUp e [] := by
  cases announced : PollSignal.announced? payload with
  | none =>
    rw [run_signal_ignored inUse ready announced] at reaches
    cases reaches
  | some n =>
    obtain ⟨resume', is, plain, fails⟩ :=
      run_signal inUse ready (Option.isSome_iff_exists.2 ⟨n, announced⟩)
    rw [is] at reaches
    rcases reaches.of_waiting with ⟨rfl, same⟩ | ⟨a, h', rfl, later⟩
    · exact .inr ⟨resume', same, rfl, rfl, plain, fails⟩
    · exact .inl (not_reaches_of_plain (plain a) later)

theorem Transfers.of_reaches {x : Stimulus} {part : History} {l : LinkCall}
    {resume : LinkAnswer l → Progress Unit}
    (serving : ∀ channel, c.channel = some channel → c.state = .ready)
    (reaches : (handle x c).Reaches part (.waiting d out l resume)) :
    (¬ l.Carries ∧ ∀ a, (resume a).Plain d.signals) ∨
      out = [] ∧ ∃ channel, c.channel = some channel ∧ c.Transfers channel x part d l resume := by
  rcases plain_or_carries (x := x) serving with plain | ⟨channel, inUse, ready, carries⟩
  · exact .inl (not_reaches_of_plain plain reaches)
  cases carries with
  | send =>
    obtain ⟨resume', is, plain, fails⟩ := run_send inUse ready
    rw [is] at reaches
    rcases reaches.of_waiting with ⟨rfl, same⟩ | ⟨a, h', rfl, later⟩
    · cases same
      exact .inr ⟨rfl, channel, inUse, .write plain fails⟩
    · exact .inl (not_reaches_of_plain (plain a) later)
  | signal =>
    rcases reaches_signal inUse ready reaches with plain | ⟨_, same, rfl, some, plain, fails⟩
    · exact .inl plain
    · cases same
      exact .inr ⟨rfl, channel, inUse, .notified some plain fails⟩
  | due =>
    obtain ⟨resume', is, succeeds, fails⟩ := run_due inUse ready
    rw [is] at reaches
    rcases reaches.of_waiting with ⟨rfl, same⟩ | ⟨⟨time, result⟩, h', rfl, later⟩
    · cases same
      exact .inr ⟨rfl, channel, inUse, .probe succeeds fails⟩
    · cases result with
      | error e =>
        rw [fails] at later
        exact .inl (not_reaches_of_plain plain_givesUp later)
      | ok payload =>
        rw [succeeds] at later
        rcases reaches_signal inUse ready later with plain | ⟨_, same, rfl, some, plain, fails⟩
        · exact .inl plain
        · cases same
          exact .inr ⟨rfl, channel, inUse, .probed time some plain fails⟩

namespace Run

variable {options : Options} {t : Standing}

/-- The characteristics that are in use are those of a connection that is ready. -/
theorem serving {channel : Channel} (run : Run options h (.idle c))
    (inUse : c.channel = some channel) :
    c.state = .ready ∧ channel.inbox.uuid = inboxUuid ∧
      channel.pollSignal.uuid = pollSignalUuid := by
  have stage := run.at_rest.steady.stage
  rw [inUse] at stage
  exact ⟨stage.of_inUse rfl, uuids_of_stage stage⟩

/-- A call that carries bytes is made in the middle of a reaction to a request or to a tick. -/
theorem transfers {l : LinkCall} {resume : LinkAnswer l → Progress Unit}
    (run : Run options h (.calling d l resume)) :
    (¬ l.Carries ∧ ∀ a, (resume a).Plain d.signals) ∨
      ∃ g x part c channel, h = g ++ .take x :: (part ++ [.call l]) ∧ Run options g (.idle c) ∧
        c.Awaits x ∧ c.channel = some channel ∧ c.Transfers channel x part d l resume := by
  have started : h ≠ [] := by
    intro none
    cases run.eq_start none
  obtain ⟨g, x, rest, rfl, untaken⟩ := History.exists_last_take started run.head
  obtain ⟨c, before, awaits, turn⟩ := run.exists_turn rfl
  generalize stands' : Standing.calling d l resume = t at turn
  cases turn with
  | past reacts => exact (untaken _ (List.mem_append_right _ List.mem_cons_self)).elim
  | @amid part q _ reaches stands =>
    subst stands'
    cases q with
    | waiting d' told l' resume' =>
      cases stands.elim id id
      rcases Transfers.of_reaches (fun _ inUse => (before.serving inUse).1) reaches with
        plain | ⟨rfl, channel, inUse, transfers⟩
      · exact .inl plain
      · exact .inr ⟨g, x, part, c, channel, rfl, before, awaits, inUse, transfers⟩
    | done =>
      rcases stands with is | is
      · cases is
      · cases x <;> cases is
    | crashed => cases stands.elim id id

end Run

end Connection

end GattRpc
