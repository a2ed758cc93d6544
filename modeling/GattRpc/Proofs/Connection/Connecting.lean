import GattRpc.Proofs.Connection.Discovery
import GattRpc.Proofs.Connection.Receipts
import GattRpc.Proofs.Connection.Turns

/-! # What comes of connecting

The first command to connect that a task takes makes it call the link, one step after the other. It
is replied to once every step has succeeded, or one has failed and the link is disconnected; then
the connection is ready, or it is closed. Every other command to connect finds it so and is replied
to at once (`Connection.Run.connecting`). -/

namespace GattRpc

open Connection History Activity

/-! ### The steps of connecting -/

/-- Each step succeeded, and these characteristics were found. -/
inductive Succeeds : PollMode → Channel → List Exchange → Prop
  | notify {peer : String} {services : List Service} {channel : Channel}
    (offers : Offers services channel) :
    Succeeds .notify channel
      [⟨.connect, .ok peer⟩, ⟨.discover, .ok services⟩, ⟨.subscribe channel.pollSignal, .ok ()⟩]
  | interval {peer : String} {services : List Service} {channel : Channel} {period : Nat}
    (offers : Offers services channel) :
    Succeeds (.interval period) channel [⟨.connect, .ok peer⟩, ⟨.discover, .ok services⟩]

/-- The last step failed with an error, or what it gave cannot be used, and the link was
disconnected. The caller is told, and the connection is closed for this reason. -/
inductive Fails : PollMode → LinkError → RpcError → CloseReason → List Exchange → Prop
  | connect {mode : PollMode} {e : LinkError} {r : Except LinkError Unit} :
    Fails mode e (.transport e) (.transportFailure e.message)
      [⟨.connect, .error e⟩, ⟨.disconnect, r⟩]
  | discover {mode : PollMode} {peer : String} {e : LinkError} {r : Except LinkError Unit} :
    Fails mode e (.transport e) (.transportFailure e.message)
      [⟨.connect, .ok peer⟩, ⟨.discover, .error e⟩, ⟨.disconnect, r⟩]
  | unusable {mode : PollMode} {peer : String} {services : List Service} {e : LinkError}
    {r : Except LinkError Unit} (lacks : Lacks services e) :
    Fails mode e (.configuration e.message) (.configuration e.message)
      [⟨.connect, .ok peer⟩, ⟨.discover, .ok services⟩, ⟨.disconnect, r⟩]
  | subscribe {peer : String} {services : List Service} {channel : Channel} {e : LinkError}
    {r : Except LinkError Unit} (offers : Offers services channel) :
    Fails .notify e (.transport e) (.transportFailure e.message)
      [⟨.connect, .ok peer⟩, ⟨.discover, .ok services⟩, ⟨.subscribe channel.pollSignal, .error e⟩,
        ⟨.disconnect, r⟩]

/-- What the link has still to answer, once it has answered the steps before. -/
inductive Underway (mode : PollMode) : List Exchange → LinkCall → Prop
  | connect : Underway mode [] .connect
  | discover {peer : String} : Underway mode [⟨.connect, .ok peer⟩] .discover
  | subscribe {peer : String} {services : List Service} {channel : Channel}
    (notified : mode = .notify) (offers : Offers services channel) :
    Underway mode [⟨.connect, .ok peer⟩, ⟨.discover, .ok services⟩] (.subscribe channel.pollSignal)
  | hangUp {xs : List Exchange} (setback : Setback mode xs) : Underway mode xs .disconnect

section

variable {mode : PollMode} {channel channel' : Channel} {xs ys : List Exchange} {e e' : LinkError}
  {err err' : RpcError} {reason reason' : CloseReason} {c c' d : Connection} {h own : History}
  {r : Except RpcError Unit}

theorem succeeds_iff_handshake : Succeeds mode channel xs ↔ Handshake mode channel xs := by
  constructor
  · intro k
    cases k with
    | notify offers => exact .notify (resolve_eq_ok.2 offers)
    | interval offers => exact .interval (resolve_eq_ok.2 offers)
  · intro k
    cases k with
    | notify usable => exact .notify (resolve_eq_ok.1 usable)
    | interval usable => exact .interval (resolve_eq_ok.1 usable)

theorem Underway.length_lt {l : LinkCall} (k : Underway mode xs l) : xs.length < 4 := by
  cases k with
  | connect | discover | subscribe => simp
  | hangUp setback => cases setback <;> simp

theorem Succeeds.unique (k : Succeeds mode channel xs) (k' : Succeeds mode channel' xs) :
    channel = channel' := by
  generalize same : xs = ys at k'
  cases k with
  | notify offers =>
    cases k' with
    | notify offers' =>
      obtain ⟨found, -⟩ := List.cons.inj (List.cons.inj same).2
      cases found
      exact offers.unique offers'
  | interval offers =>
    cases k' with
    | interval offers' =>
      cases same
      exact offers.unique offers'

theorem Fails.unique (k : Fails mode e err reason xs) (k' : Fails mode e' err' reason' xs) :
    e = e' ∧ err = err' ∧ reason = reason' := by
  generalize same : xs = ys at k'
  cases k with
  | connect =>
    cases k' with
    | connect =>
      cases same
      exact ⟨rfl, rfl, rfl⟩
    | discover | unusable | subscribe => cases same
  | discover =>
    cases k' with
    | discover =>
      cases same
      exact ⟨rfl, rfl, rfl⟩
    | connect | unusable | subscribe => cases same
  | unusable lacks =>
    cases k' with
    | unusable lacks' =>
      cases same
      obtain rfl := lacks.unique lacks'
      exact ⟨rfl, rfl, rfl⟩
    | connect | discover | subscribe => cases same
  | subscribe offers =>
    cases k' with
    | subscribe offers' =>
      obtain ⟨found, -⟩ := List.cons.inj (List.cons.inj same).2
      cases found
      obtain rfl := offers.unique offers'
      cases same
      exact ⟨rfl, rfl, rfl⟩
    | connect | discover | unusable => cases same

theorem Succeeds.connected (k : Succeeds mode channel xs) : .disconnect ∉ xs.map Exchange.call := by
  cases k <;> simp

theorem Fails.disconnected (k : Fails mode e err reason xs) :
    .disconnect ∈ xs.map Exchange.call := by
  cases k <;> simp

theorem Succeeds.not_fails (k : Succeeds mode channel xs) : ¬ Fails mode e err reason xs :=
  fun k' => k.connected k'.disconnected

/-! ### Where a command to connect leads -/

namespace Connection

/-- These characteristics are in use, and everybody sees that the connection is ready. -/
structure Serves (c : Connection) (channel : Channel) : Prop where
  state : c.state = .ready
  shown : c.status.state = .ready
  inUse : c.channel = some channel

/-- The connection is closed, and everybody sees the error and the reason. -/
structure GaveUp (c : Connection) (e : LinkError) (reason : CloseReason) : Prop where
  state : c.state = .closed
  shown : c.status.state = .closed
  blamed : c.status.lastError = some e.message
  recorded : c.status.closeReason = some reason

/-- What a connection is and what its caller is told when no step is left. -/
inductive Arrives (mode : PollMode) (c : Connection) : List Exchange → Except RpcError Unit → Prop
  | ready {xs : List Exchange} {channel : Channel} (succeeds : Succeeds mode channel xs)
    (serves : c.Serves channel) : Arrives mode c xs (.ok ())
  | closed {xs : List Exchange} {e : LinkError} {err : RpcError} {reason : CloseReason}
    (fails : Fails mode e err reason xs) (gaveUp : c.GaveUp e reason) : Arrives mode c xs (.error err)

theorem Shuts.gaveUp (k : (d.blame e).Shuts reason own c') (tried : d.state ≠ .disconnected)
    (unclosed : d.state ≠ .closed) :
    c'.GaveUp e reason ∧ ∃ r, own.exchanges = [⟨.disconnect, r⟩] := by
  cases k with
  | already closed => exact (unclosed closed).elim
  | now _ hangsUp =>
    refine ⟨⟨rfl, rfl, rfl, rfl⟩, ?_⟩
    cases hangsUp with
    | unconnected untried => exact (tried untried).elim
    | connected _ a => exact ⟨a.result, by simp⟩

theorem FindsService.arrives (peer : String) (k : d.FindsService own r c')
    (state : d.state = .discovering) :
    c'.Arrives d.options.pollMode (⟨.connect, .ok peer⟩ :: own.exchanges) r := by
  have tried : d.state ≠ .disconnected := by simp [state]
  have unclosed : d.state ≠ .closed := by simp [state]
  cases k with
  | lost result shuts =>
    obtain ⟨gaveUp, r, hungUp⟩ := shuts.gaveUp tried unclosed
    simpa [hungUp, result] using Arrives.closed .discover gaveUp
  | unusable result unusable shuts =>
    obtain ⟨gaveUp, r, hungUp⟩ := shuts.gaveUp tried unclosed
    simpa [hungUp, result] using Arrives.closed (.unusable (resolve_eq_error.1 unusable)) gaveUp
  | @unpolled a services channel e start h c' result usable starts shuts =>
    obtain ⟨gaveUp, r, hungUp⟩ := shuts.gaveUp tried unclosed
    have offers := resolve_eq_ok.1 usable
    generalize failed : (.error e : Except LinkError Unit) = started at starts
    cases starts with
    | notify mode a' =>
      have refused : a'.result = .error e := failed.symm
      rw [mode]
      simpa [hungUp, result, refused] using Arrives.closed (.subscribe offers) gaveUp
    | interval => cases failed
  | @found a services channel start result usable starts =>
    have offers := resolve_eq_ok.1 usable
    have serves : (d.opened channel).Serves channel := ⟨rfl, rfl, rfl⟩
    generalize succeeded : (.ok () : Except LinkError Unit) = started at starts
    cases starts with
    | notify mode a' =>
      have granted : a'.result = .ok () := succeeded.symm
      rw [mode]
      simpa [result, granted] using Arrives.ready (.notify offers) serves
    | interval mode =>
      rw [mode]
      simpa [result] using Arrives.ready (.interval offers) serves

theorem Establishes.arrives (k : c.Establishes own r c') (untried : c.state = .disconnected) :
    c'.Arrives c.options.pollMode own.exchanges r := by
  cases k with
  | already ready =>
    rw [untried] at ready
    cases ready
  | refused _ tried => exact (tried untried).elim
  | unreachable _ result shuts =>
    obtain ⟨gaveUp, r, hungUp⟩ := shuts.gaveUp nofun nofun
    simpa [hungUp, result] using Arrives.closed .connect gaveUp
  | @connected a peer h r c' _ result finds =>
    have arrives : c'.Arrives c.options.pollMode _ r := finds.arrives peer rfl
    simpa [result] using arrives

namespace Arrives

theorem ok_iff (k : c.Arrives mode xs r) : r = .ok () ↔ ∃ channel, Succeeds mode channel xs := by
  cases k with
  | ready succeeds => exact iff_of_true rfl ⟨_, succeeds⟩
  | closed fails => exact iff_of_false nofun fun ⟨_, succeeds⟩ => succeeds.not_fails fails

theorem error_iff (k : c.Arrives mode xs r) :
    r = .error err ↔ ∃ e reason, Fails mode e err reason xs := by
  cases k with
  | ready succeeds => exact iff_of_false nofun fun ⟨_, _, fails⟩ => succeeds.not_fails fails
  | closed fails =>
    constructor
    · intro is
      cases is
      exact ⟨_, _, fails⟩
    · rintro ⟨e, reason, fails'⟩
      rw [(fails.unique fails').2.1]

theorem serves_of_succeeds (k : c.Arrives mode xs r) (succeeds : Succeeds mode channel xs) :
    c.Serves channel := by
  cases k with
  | ready succeeds' serves => exact succeeds'.unique succeeds ▸ serves
  | closed fails => exact (succeeds.not_fails fails).elim

theorem gaveUp_of_fails (k : c.Arrives mode xs r) (fails : Fails mode e err reason xs) :
    c.GaveUp e reason := by
  cases k with
  | ready succeeds => exact (succeeds.not_fails fails).elim
  | closed fails' gaveUp =>
    obtain ⟨rfl, -, rfl⟩ := fails'.unique fails
    exact gaveUp

end Arrives

theorem Establishes.at_once (k : c.Establishes own r c') (tried : c.state ≠ .disconnected) :
    own = [] ∧ (c.state = .ready ∧ r = .ok () ∨
      c.state ≠ .ready ∧ r = .error (.notReady c.state)) := by
  cases k with
  | already ready => exact ⟨rfl, .inl ⟨ready, rfl⟩⟩
  | refused unready => exact ⟨rfl, .inr ⟨unready, rfl⟩⟩
  | unreachable untried | connected untried => exact (tried untried).elim

/-- Only a connection that has not been asked before calls the link on a command to connect, and it
goes from one step to the next. -/
def Tries (c : Connection) : Pausing := fun l h _ =>
  c.state = .disconnected ∧ ∀ next, l = some next →
    Underway c.options.pollMode h.exchanges next ∧ h.calls = h.exchanges.map Exchange.call ++ [next]

namespace Tries

theorem of_underway {l : LinkCall} (untried : c.state = .disconnected)
    (answered : h.calls = h.exchanges.map Exchange.call)
    (underway : Underway c.options.pollMode h.exchanges l) :
    Tries c (some l) (h ++ [.call l]) d := by
  refine ⟨untried, fun next is => ?_⟩
  cases is
  simp [answered, underway]

theorem shutdown_bind {α : Type} {a : α} (untried : c.state = .disconnected)
    (answered : h.calls = h.exchanges.map Exchange.call)
    (setback : Setback c.options.pollMode h.exchanges) :
    (shutdown reason >>= fun _ => pure a).Guarantees (Tries c) (fun _ _ _ => True) h d := by
  refine guarantees_then (guarantees_shutdown fun _ _ => ?_) fun _ _ _ => guarantees_pure.2 trivial
  exact of_underway untried answered (.hangUp setback)

theorem failConnecting_bind (untried : c.state = .disconnected)
    (answered : h.calls = h.exchanges.map Exchange.call)
    (setback : Setback c.options.pollMode h.exchanges) :
    (failConnecting e >>= fun err => pure (.error err : Except RpcError Unit)).Guarantees (Tries c)
      (fun _ _ _ => True) h d := by
  refine guarantees_then (guarantees_report_bind.2 ?_) fun _ _ _ => guarantees_pure.2 trivial
  refine shutdown_bind untried ?_ ?_
  · simpa using answered
  · simpa using setback

theorem startPolling {services : List Service} (untried : c.state = .disconnected)
    (same : d.options = c.options) (answered : h.calls = h.exchanges.map Exchange.call)
    (found : ∃ peer, h.exchanges = [⟨.connect, .ok peer⟩, ⟨.discover, .ok services⟩])
    (usable : resolve services = .ok channel) :
    (startPolling channel).Guarantees (Tries c)
      (fun r h _ => h.calls = h.exchanges.map Exchange.call ∧
        ∀ e, r = .error e → Setback c.options.pollMode h.exchanges) h d := by
  obtain ⟨peer, found⟩ := found
  refine guarantees_get_bind.2 ?_
  rw [same]
  split
  next notified =>
    refine guarantees_call_bind.2 ⟨of_underway untried answered ?_, fun a => guarantees_pure.2 ?_⟩
    · rw [found]
      exact .subscribe notified (resolve_eq_ok.1 usable)
    · refine ⟨by simp [answered], fun e result => ?_⟩
      have refused : a.result = .error e := result
      rw [notified]
      simpa [found, refused] using Setback.subscribe usable
  next => exact guarantees_crash.2 ⟨untried, nofun⟩
  next => exact guarantees_pure.2 ⟨answered, nofun⟩

theorem establish (untouched : c.state = .disconnected → h.calls = [] ∧ h.exchanges = []) :
    establish.Guarantees (Tries c) (fun _ _ _ => True) h c := by
  refine guarantees_get_bind.2 ?_
  split
  next => exact guarantees_pure.2 trivial
  next untried =>
    obtain ⟨uncalled, unanswered⟩ := untouched untried
    simp only [guarantees_transition_bind, guarantees_call_bind]
    refine ⟨of_underway untried ?_ ?_, fun a => ?_⟩
    · simp [uncalled, unanswered]
    · simpa [unanswered] using Underway.connect
    split
    next e result =>
      refine failConnecting_bind untried ?_ ?_
      · simp [uncalled, unanswered]
      · simpa [unanswered, result] using Setback.connect
    next peer result =>
      simp only [guarantees_modify_bind, guarantees_report_bind, guarantees_transition_bind,
        guarantees_call_bind]
      refine ⟨of_underway untried ?_ ?_, fun a' => ?_⟩
      · simp [uncalled, unanswered]
      · simpa [unanswered, result] using Underway.discover
      split
      next e result' =>
        refine failConnecting_bind untried ?_ ?_
        · simp [uncalled, unanswered]
        · simpa [unanswered, result, result'] using Setback.discover
      next services result' =>
        split
        next e unusable =>
          refine guarantees_report_bind.2 (shutdown_bind untried ?_ ?_)
          · simp [uncalled, unanswered]
          · simpa [unanswered, result, result'] using Setback.unusable unusable
        next channel usable =>
          refine (startPolling untried ?_ ?_ ⟨peer, ?_⟩ usable).bind fun r h d k => ?_
          · rfl
          · simp [uncalled, unanswered]
          · simp [unanswered, result, result']
          cases r with
          | error e => exact failConnecting_bind untried k.1 (k.2 e rfl)
          | ok =>
            simp only [guarantees_modify_bind, guarantees_transition_bind]
            exact guarantees_pure.2 trivial
  next => exact guarantees_pure.2 trivial

end Tries

end Connection

/-! ### After the steps of connecting -/

/-- What was called after a handshake that succeeded. -/
theorem Handshake.goes_on (k : Handshake mode channel xs) (course : Course mode (xs ++ ys)) :
    ∀ y ∈ ys, Transfer mode channel y.call ∨ y.call = .disconnect := by
  generalize same : xs ++ ys = all at course
  have serves {zs : List Exchange} {r : Except LinkError Unit}
      (transfers : ∀ y ∈ zs, Transfer mode channel y.call) :
      ∀ y ∈ zs ++ [⟨.disconnect, r⟩], Transfer mode channel y.call ∨ y.call = .disconnect := by
    intro y hy
    rcases List.mem_append.1 hy with hy | hy
    · exact .inl (transfers y hy)
    · rw [List.mem_singleton.1 hy]
      exact .inr rfl
  cases k with
  | notify usable =>
    cases course with
    | unconnected => cases same
    | failed setback =>
      cases setback with
      | connect | discover | unusable => cases same
      | subscribe usable' =>
        obtain ⟨found, same⟩ := List.cons.inj (List.cons.inj same).2
        cases found
        cases usable.symm.trans usable'
        cases same
    | served handshake transfers =>
      cases handshake with
      | notify usable' =>
        obtain ⟨found, same⟩ := List.cons.inj (List.cons.inj same).2
        cases found
        cases usable.symm.trans usable'
        cases same
        exact serves transfers
  | interval usable =>
    cases course with
    | unconnected => cases same
    | failed setback =>
      cases setback with
      | connect | discover => cases same
      | unusable unusable =>
        cases same
        cases usable.symm.trans unusable
    | served handshake transfers =>
      cases handshake with
      | interval usable' =>
        cases same
        cases usable.symm.trans usable'
        exact serves transfers

/-- A call that is made to connect, once only. -/
def LinkCall.isHandshake : LinkCall → Bool
  | connect | discover | subscribe _ => true
  | write _ _ | read _ | disconnect => false

theorem Transfer.not_handshake {l : LinkCall} (k : Transfer mode channel l) :
    l.isHandshake = false := by
  cases k <;> rfl

theorem Setback.handshakes (k : Setback mode xs) :
    ∃ ch, (xs.map Exchange.call).filter LinkCall.isHandshake <+:
      [.connect, .discover, .subscribe ch] := by
  cases k with
  | connect => exact ⟨⟨pollSignalUuid, 0⟩, [.discover, .subscribe _], rfl⟩
  | discover | unusable => exact ⟨⟨pollSignalUuid, 0⟩, [.subscribe _], rfl⟩
  | subscribe => exact ⟨_, List.prefix_rfl⟩

theorem Handshake.handshakes (k : Handshake mode channel xs) :
    (xs.map Exchange.call).filter LinkCall.isHandshake <+:
      [.connect, .discover, .subscribe channel.pollSignal] := by
  cases k with
  | notify => exact List.prefix_rfl
  | interval => exact ⟨[.subscribe channel.pollSignal], rfl⟩

/-- Each step of connecting is taken once at most. -/
theorem Course.handshakes (k : Course mode xs) :
    ∃ ch, (xs.map Exchange.call).filter LinkCall.isHandshake <+:
      [.connect, .discover, .subscribe ch] := by
  cases k with
  | unconnected => exact ⟨⟨pollSignalUuid, 0⟩, List.nil_prefix⟩
  | failed setback => simpa [LinkCall.isHandshake] using setback.handshakes
  | @served channel xs ys r handshake transfers =>
    have none : (ys.map Exchange.call).filter LinkCall.isHandshake = [] := by
      simpa using fun y hy => (transfers y hy).not_handshake
    refine ⟨channel.pollSignal, ?_⟩
    simpa [none, LinkCall.isHandshake] using handshake.handshakes

end

/-! ### Runs -/

/-- A command to connect, taken after `g`, was replied to after `own`, when the task awaited a
stimulus again. Nobody had asked before. -/
structure Attempted (options : Options) (g : History) (n : Nat) (own : History)
    (r : Except RpcError Unit) (c : Connection) (later : History) : Prop where
  stands : Run options
    (g ++ .take (.command n .connect) :: (own ++ [.tell (.reply n (.connect r))])) (.idle c)
  answered : own.calls = own.exchanges.map Exchange.call
  ok_iff : r = .ok () ↔ ∃ channel, Succeeds options.pollMode channel own.exchanges
  error_iff : ∀ err, r = .error err ↔ ∃ e reason, Fails options.pollMode e err reason own.exchanges
  /-- Only these characteristics are used from then on. -/
  ready : ∀ channel, Succeeds options.pollMode channel own.exchanges →
    c.Serves channel ∧ ∀ l ∈ later.calls, Transfer options.pollMode channel l ∨ l = .disconnect
  /-- Nothing is called any more. -/
  closed : ∀ e err reason, Fails options.pollMode e err reason own.exchanges →
    c.GaveUp e reason ∧ later.calls = []

/-- What comes of commands to connect. -/
structure Connecting (options : Options) (h : History) (t : Standing) : Prop where
  /-- The first one calls the link, and waits for it or is replied to. -/
  first : ∀ (g : History) n (rest : History), h = g ++ .take (.command n .connect) :: rest →
    g.state = .disconnected → g.calls = [] ∧
      ((∃ c l resume, t = .calling c l resume ∧ Underway options.pollMode rest.exchanges l ∧
        rest.exchanges.length < 4 ∧ rest.calls = rest.exchanges.map Exchange.call ++ [l] ∧
          rest.replies = []) ∨
      ∃ own r c later, rest = own ++ .tell (.reply n (.connect r)) :: later ∧
        Attempted options g n own r c later)
  /-- Any other one is replied to at once. -/
  others : ∀ (g : History) n rest, h = g ++ .take (.command n .connect) :: rest →
    g.state ≠ .disconnected → ∃ r later, rest = .tell (.reply n (.connect r)) :: later ∧
      (g.state = .ready ∧ r = .ok () ∨ g.state = .closed ∧ r = .error (.notReady .closed))
  once : ∃ ch, h.calls.filter LinkCall.isHandshake <+: [.connect, .discover, .subscribe ch]

namespace Connection.Run

variable {options : Options} {channel : Channel} {c d : Connection} {g h own later rest : History}
  {t : Standing} {n : Nat} (mode : options.pollMode ≠ .interval 0)

theorem unasked (before : Run options g (.idle c)) (untried : c.state = .disconnected) :
    g.calls = [] ∧ g.exchanges = [] := by
  have steady := before.at_rest.steady
  obtain ⟨none, -⟩ := (untried ▸ steady.stage).of_disconnected
  exact ⟨by rw [steady.answered, none]; rfl, none⟩

/-- A task that waits for the link on a command to connect has come so far. -/
theorem underway (run : Run options (g ++ .take (.command n .connect) :: rest) t)
    (untaken : ∀ y, .take y ∉ rest) (calling : t.isCalling = true) :
    g.state = .disconnected ∧ ∃ c l resume, t = .calling c l resume ∧
      Underway options.pollMode rest.exchanges l ∧
        rest.calls = rest.exchanges.map Exchange.call ++ [l] := by
  obtain ⟨c, before, -, turn⟩ := run.exists_turn rfl
  cases turn with
  | past => exact (untaken _ (List.mem_append_right _ List.mem_cons_self)).elim
  | @amid h q _ reaches stands =>
    have tries : (handle (.command n .connect)).Guarantees (Tries c) (fun _ _ _ => True)
        (g ++ [.take (.command n .connect)]) c := by
      refine guarantees_then (guarantees_get_bind.2 ?_) fun _ _ _ => guarantees_modify.2 trivial
      refine guarantees_then (Tries.establish fun untried => ?_) fun _ _ _ =>
        guarantees_tell.2 trivial
      simpa using before.unasked untried
    have here := reaches.guarantees tries
    cases q with
    | done u d out =>
      obtain rfl : t = .idle d := stands.elim id id
      cases calling
    | crashed d out =>
      obtain rfl : t = .ended d := stands.elim id id
      cases calling
    | waiting d out l resume =>
      obtain rfl : t = .calling d l resume := stands.elim id id
      obtain ⟨untried, next⟩ := here.1
      obtain ⟨uncalled, unanswered⟩ := before.unasked untried
      obtain ⟨underway, calls⟩ := next l rfl
      refine ⟨before.at_rest.steady.entered.trans untried, d, l, resume, rfl, ?_, ?_⟩
      · rw [← before.at_rest.steady.configured]
        simpa [unanswered, Progress.acts] using underway
      · simpa [uncalled, unanswered, Progress.acts] using calls

include mode

/-- What is called after a handshake is the transfers that it allows, until it is hung up. -/
theorem calls_after (idle : Run options g (.idle c)) (run : Run options (g ++ later) t)
    (handshake : Handshake options.pollMode channel g.exchanges) :
    ∀ l ∈ later.calls, Transfer options.pollMode channel l ∨ l = .disconnect := by
  obtain ⟨more, c', steady⟩ := exists_steady mode run
  obtain ⟨course, k, tail, rfl⟩ := steady.stage.exists_course
  have answered := steady.answered
  rw [List.append_assoc, calls_append, exchanges_append, List.map_append,
    idle.at_rest.steady.answered] at answered
  have answered : History.calls (later ++ more) = (History.exchanges (later ++ more)).map _ :=
    List.append_cancel_left answered
  rw [List.append_assoc, exchanges_append, List.append_assoc] at k
  intro l hl
  have called : l ∈ History.calls (later ++ more) := by
    rw [calls_append]
    exact List.mem_append_left _ hl
  rw [answered] at called
  obtain ⟨y, hy, rfl⟩ := List.mem_map.1 called
  exact handshake.goes_on k y (List.mem_append_left _ hy)

theorem attempted (run : Run options (g ++ .take (.command n .connect) :: (own ++ later)) t)
    (idle : Run options (g ++ .take (.command n .connect) :: own) (.idle d.rested))
    (before : Run options g (.idle c)) (untried : c.state = .disconnected)
    (reacts : c.Reacts (.command n .connect) own d) :
    ∃ own' r, own = own' ++ [.tell (.reply n (.connect r))] ∧
      Attempted options g n own' r d.rested later := by
  obtain ⟨uncalled, unanswered⟩ := before.unasked untried
  cases reacts with
  | @connect _ own r _ establishes =>
    refine ⟨own, r, rfl, ?_⟩
    have arrives := establishes.arrives untried
    rw [before.at_rest.steady.configured] at arrives
    have exchanges : History.exchanges (g ++ .take (.command n .connect) ::
        (own ++ [.tell (.reply n (.connect r))])) = own.exchanges := by simp [unanswered]
    have answered := idle.at_rest.steady.answered
    refine
      { stands := idle
        answered := ?_
        ok_iff := arrives.ok_iff
        error_iff := fun _ => arrives.error_iff
        ready := fun channel succeeds => ?_
        closed := fun e err reason fails => ?_ }
    · rw [exchanges] at answered
      simpa [uncalled] using answered
    · obtain ⟨state, shown, inUse⟩ := arrives.serves_of_succeeds succeeds
      refine ⟨⟨state, shown, inUse⟩, ?_⟩
      rw [← List.cons_append, ← List.append_assoc] at run
      refine calls_after mode idle run ?_
      rw [exchanges]
      exact succeeds_iff_handshake.1 succeeds
    · obtain ⟨state, shown, blamed, recorded⟩ := arrives.gaveUp_of_fails fails
      refine ⟨⟨state, shown, blamed, recorded⟩, ?_⟩
      rw [← List.cons_append, ← List.append_assoc] at run
      refine calls_nil_of_closed mode idle ?_ (run.path_from idle)
      exact idle.at_rest.steady.entered.trans state

/-- What comes of every command to connect. -/
theorem connecting (run : Run options h t) : Connecting options h t where
  first g n rest is untried := by
    subst is
    obtain ⟨c, before, outcome⟩ := run.carriedOut mode
    rw [before.at_rest.steady.entered] at untried
    refine ⟨(before.unasked untried).1, ?_⟩
    rcases outcome with ⟨own, later, d, rfl, reacts, idle⟩ | ⟨calling, paused⟩
    · obtain ⟨own, r, rfl, attempted⟩ := attempted mode run idle before untried reacts
      exact .inr ⟨own, r, _, later, by simp, attempted⟩
    · have untaken : ∀ y, .take y ∉ rest := fun y hy => paused.spares.neutral _ hy
      have unreplied : rest.replies = [] :=
        List.filterMap_eq_nil_iff.2 fun a ha => (paused.spares.neutral a ha).unreplied.2
      obtain ⟨-, d, l, resume, stands, underway, calls⟩ := run.underway untaken calling
      exact .inl ⟨d, l, resume, stands, underway, underway.length_lt, calls, unreplied⟩
  others g n rest is tried := by
    subst is
    obtain ⟨c, before, ⟨own, later, d, rfl, reacts, -⟩ | ⟨calling, paused⟩⟩ := run.carriedOut mode
    · have steady := before.at_rest.steady
      rw [steady.entered] at tried ⊢
      cases reacts with
      | @connect _ own r _ establishes =>
        obtain ⟨rfl, is⟩ := establishes.at_once tried
        refine ⟨r, later, rfl, is.imp_right ?_⟩
        rintro ⟨unready, rfl⟩
        have closed : c.state = .closed :=
          (steady.stage.settled.resolve_left tried).resolve_left unready
        exact ⟨closed, by rw [closed]⟩
    -- Only the first command to connect can wait for the link.
    · have untaken : ∀ y, .take y ∉ rest := fun y hy => paused.spares.neutral _ hy
      exact (tried (run.underway untaken calling).1).elim
  once := by
    obtain ⟨xs, course, -, calls⟩ := exists_course mode run
    obtain ⟨ch, handshakes⟩ := course.handshakes
    exact ⟨ch, (calls.filter _).trans handshakes⟩

end Connection.Run

end GattRpc
