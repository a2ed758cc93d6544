import GattRpc.Proofs.Connection.Receipts
import GattRpc.Proofs.Connection.Turns

/-! # Why a connection was closed

A connection is closed in one reaction. What that reaction was to, or what failed in it, is the
reason, and whoever waited when it began is released for that reason (`Connection.Run.closing`). -/

namespace GattRpc

open Connection History

/-- What is done when a reaction goes on after the connection was closed. -/
def Act.Parting : Act → Prop
  | tell (.discarded _) | tell (.reply _ _) => True
  | take _ | call _ | answer _ _ | tell _ => False

/-- On this stimulus a connection closes for this reason if it does these acts. -/
inductive Cause (own : History) : Stimulus → CloseReason → Prop
  | requested {n : Nat} : Cause own (.command n .close) .requested
  | clientsGone : Cause own .clientsGone .handleDropped
  | linkLost : Cause own .linkLost .linkLost
  | ended : Cause own (.poll .ended) .linkLost
  | unwritten {n : Nat} {method : String} {params : Json} {callback : Option Callback}
    {ch : Characteristic} {data : List UInt8} {a : LinkAnswer (.write ch data)} {e : LinkError}
    (answered : .answer _ a ∈ own) (result : a.result = .error e) (fatal : e.isFatal = true) :
    Cause own (.command n (.send method params callback)) (.transportFailure e.message)
  | unread {tick : PollTick} {ch : Characteristic} {a : LinkAnswer (.read ch)} {e : LinkError}
    (answered : .answer _ a ∈ own) (result : a.result = .error e) (fatal : e.isFatal = true) :
    Cause own (.poll tick) (.transportFailure e.message)
  | unreachable {n : Nat} {a : LinkAnswer .connect} {e : LinkError} (answered : .answer _ a ∈ own)
    (result : a.result = .error e) : Cause own (.command n .connect) (.transportFailure e.message)
  | undiscovered {n : Nat} {a : LinkAnswer .discover} {e : LinkError} (answered : .answer _ a ∈ own)
    (result : a.result = .error e) : Cause own (.command n .connect) (.transportFailure e.message)
  | unsubscribed {n : Nat} {ch : Characteristic} {a : LinkAnswer (.subscribe ch)} {e : LinkError}
    (answered : .answer _ a ∈ own) (result : a.result = .error e) :
    Cause own (.command n .connect) (.transportFailure e.message)
  | unusable {n : Nat} {a : LinkAnswer .discover} {services : List Service} {e : LinkError}
    (answered : .answer _ a ∈ own) (result : a.result = .ok services)
    (unusable : resolve services = .error e) :
    Cause own (.command n .connect) (.configuration e.message)

theorem Cause.mono {own own' : History} {x : Stimulus} {reason : CloseReason}
    (k : Cause own x reason) (sub : own ⊆ own') : Cause own' x reason := by
  cases k with
  | requested => exact .requested
  | clientsGone => exact .clientsGone
  | linkLost => exact .linkLost
  | ended => exact .ended
  | unwritten answered result fatal => exact .unwritten (sub answered) result fatal
  | unread answered result fatal => exact .unread (sub answered) result fatal
  | unreachable answered result => exact .unreachable (sub answered) result
  | undiscovered answered result => exact .undiscovered (sub answered) result
  | unsubscribed answered result => exact .unsubscribed (sub answered) result
  | unusable answered result unusable => exact .unusable (sub answered) result unusable

namespace Connection

variable {options : Options} {c c' d : Connection} {g h pre post own rest : History}
  {x : Stimulus} {t : Standing} {reason : CloseReason} {e : LinkError} {p : Pending}

/-- A reaction in which the connection is closed. Before that it spares the requests. -/
inductive Closes (reason : CloseReason) : Connection → History → Connection → Prop
  | now {c : Connection} {hang : History} (unclosed : c.state ≠ .closed)
    (hangsUp : c.HangsUp hang) :
    Closes reason c (hang ++ (c.farewell reason).map .tell) (c.closed reason)
  | later {c d c' : Connection} {pre own : History} (spares : c.Spares pre d)
    (closes : Closes reason d own c') : Closes reason c (pre ++ own) c'
  | before {c c' : Connection} {own post : History} (closes : Closes reason c own c')
    (parting : ∀ a ∈ post, a.Parting) : Closes reason c (own ++ post) c'

/-- The reaction closes the connection for a cause, or not at all. -/
def ClosesFor (c : Connection) (x : Stimulus) (own : History) (c' : Connection) : Prop :=
  own.closings = [] ∨ ∃ reason, Closes reason c own c' ∧ Cause own x reason

theorem closings_parting (parting : ∀ a ∈ post, a.Parting) : post.closings = [] := by
  refine closings_eq_nil fun a ha => ?_
  have k := parting a ha
  unfold Act.closing?
  split
  · exact k.elim
  · rfl

/-! ### What every reaction that closes does -/

namespace Closes

theorem unclosed (k : Closes reason c own c') : c.state ≠ .closed := by
  induction k with
  | now unclosed => exact unclosed
  | later spares _ ih => exact fun is => ih (spares.closed.2 is)
  | before _ _ ih => exact ih

theorem closings (k : Closes reason c own c') : own.closings = [reason] := by
  induction k with
  | @now c hang unclosed hangsUp =>
    have silent : hang.closings = [] := by cases hangsUp <;> rfl
    rw [closings_append, silent, closings_farewell]
    rfl
  | later spares _ ih =>
    rw [closings_append, closings_eq_nil fun a ha => (spares.neutral a ha).closing?, ih]
    rfl
  | before _ parting ih => rw [closings_append, ih, closings_parting parting, List.append_nil]

/-- A connection bids farewell with the requests that it had. -/
theorem exists_farewell (k : Closes reason c own c') : ∃ (d : Connection) (pre post : History),
    own = pre ++ ((d.farewell reason).map .tell ++ post) ∧
      d.correlator.outstanding = c.correlator.outstanding ∧
        d.correlator.policy = c.correlator.policy := by
  induction k with
  | @now c hang unclosed hangsUp => exact ⟨c, hang, [], by rw [List.append_nil], rfl, rfl⟩
  | @later c d c' pre own spares _ ih =>
    obtain ⟨e, before, post, rfl, same, policy⟩ := ih
    exact ⟨e, pre ++ before, post, (List.append_assoc ..).symm, same.trans spares.outstanding,
      policy.trans spares.policy⟩
  | @before c c' own post _ _ ih =>
    obtain ⟨e, pre, after, rfl, same, policy⟩ := ih
    exact ⟨e, pre, after ++ post, by simp only [List.append_assoc], same, policy⟩

/-- Whoever waited is released right after something was told, and finds the reason. -/
theorem released (k : Closes reason c own c') (waits : p ∈ c.correlator.outstanding) :
    ∃ (first : History) (o : Output) (rest : History),
      own = first ++ .tell o :: .tell (c.parting reason p) :: rest ∧
      ∀ g : History, (g ++ (first ++ [Act.tell o])).status.closeReason = some reason := by
  obtain ⟨d, pre, post, rfl, same, policy⟩ := k.exists_farewell
  rw [← same] at waits
  have waits : p ∈ d.options.drain.order d.correlator.outstanding := Drain.mem_order.2 waits
  obtain ⟨earlier, later, split⟩ := List.append_of_mem waits
  have unshown : History.statuses ((earlier.map (d.parting reason)).map .tell) = [] := by
    refine List.filterMap_eq_nil_iff.2 ?_
    simp only [List.forall_mem_map]
    intro q _
    unfold parting
    cases d.correlator.policy <;> rfl
  have own_parting : c.parting reason p = d.parting reason p := by rw [parting, parting, policy]
  -- The last output before is one of those, or the one that shows the reason.
  obtain ⟨init, o, last⟩ : ∃ init o, Output.shown { d.status with closeReason := some reason } ::
      earlier.map (d.parting reason) = init ++ [o] :=
    ⟨_, _, (List.dropLast_append_getLast (List.cons_ne_nil _ _)).symm⟩
  have found (g : History) :
      (g ++ ((pre ++ init.map Act.tell) ++ [Act.tell o])).status.closeReason = some reason := by
    have told : init.map Act.tell ++ [.tell o] =
        .tell (.shown { d.status with closeReason := some reason }) ::
          (earlier.map (d.parting reason)).map .tell := by
      rw [← List.map_singleton, ← List.map_append, ← last, List.map_cons]
    rw [List.append_assoc, told, status_append, statuses_append, statuses_cons, unshown]
    simp
  let rest := later.map (d.parting reason) ++ [Output.shown (d.emptied reason).status,
    .shown (d.closed reason).status, .event (.stateChanged .closed), .event (.closed reason)]
  have whole : d.farewell reason = init ++ o :: d.parting reason p :: rest :=
    calc d.farewell reason
      _ = (.shown { d.status with closeReason := some reason } ::
            earlier.map (d.parting reason)) ++ d.parting reason p :: rest := by
        rw [farewell, released_eq, split]
        simp [rest]
      _ = init ++ o :: d.parting reason p :: rest := by
        rw [last]
        simp
  refine ⟨pre ++ init.map .tell, o, rest.map .tell ++ post, ?_, found⟩
  rw [whole, own_parting]
  simp

end Closes

/-! ### Which reactions close -/

namespace ClosesFor

theorem nil : c.ClosesFor x [] c' := .inl rfl

theorem later (spares : c.Spares pre d) (k : d.ClosesFor x own c') :
    c.ClosesFor x (pre ++ own) c' := by
  rcases k with none | ⟨reason, closes, cause⟩
  · refine .inl ?_
    rw [closings_append, closings_eq_nil fun a ha => (spares.neutral a ha).closing?, none]
    rfl
  · exact .inr ⟨reason, .later spares closes, cause.mono (List.subset_append_right _ _)⟩

theorem before (k : c.ClosesFor x own c') (parting : ∀ a ∈ post, a.Parting) :
    c.ClosesFor x (own ++ post) c' := by
  rcases k with none | ⟨reason, closes, cause⟩
  · refine .inl ?_
    rw [closings_append, none, closings_parting parting]
    rfl
  · exact .inr ⟨reason, .before closes parting, cause.mono (List.subset_append_left _ _)⟩

end ClosesFor

theorem Shuts.closes (s : d.Shuts reason own c') (spares : c.Spares pre d)
    (cause : Cause pre x reason) : c.ClosesFor x (pre ++ own) c' := by
  cases s with
  | already => exact .later spares .nil
  | now unclosed hangsUp =>
    refine .inr ⟨reason, .later spares (.now unclosed hangsUp), ?_⟩
    exact cause.mono (List.subset_append_left _ _)

/-- An error is shown, and then the connection closes. -/
theorem Shuts.closes_blamed (s : (d.blame e).Shuts reason own c') (spares : c.Spares pre d)
    (cause : Cause pre x reason) :
    c.ClosesFor x (pre ++ .tell (.shown (d.blame e).status) :: own) c' := by
  rw [List.append_cons]
  exact s.closes (spares.trans .blame) (cause.mono (List.subset_append_left _ _))

theorem NotesError.closes (n : d.NotesError e own c') (spares : c.Spares pre d)
    (cause : e.isFatal = true → Cause pre x (.transportFailure e.message)) :
    c.ClosesFor x (pre ++ own) c' := by
  cases n with
  | harmless =>
    rw [← List.append_nil (pre ++ _)]
    exact .later (spares.trans .blame) .nil
  | fatal fatal shuts => exact shuts.closes_blamed spares (cause fatal)

theorem StartsPolling.spares {channel : Channel} {r : Except LinkError Unit}
    (s : c.StartsPolling channel own r) : c.Spares own c := by
  cases s with
  | notify => exact .exchange rfl trivial
  | interval => exact { neutral := List.forall_mem_nil _ }

theorem FindsService.closes {n : Nat} {r : Except RpcError Unit} (f : c.FindsService own r c') :
    c.ClosesFor (.command n .connect) own c' := by
  cases f with
  | @lost a _ _ _ result shuts =>
    refine shuts.closes_blamed (.exchange (a := a) rfl trivial) ?_
    exact .undiscovered (List.mem_cons_of_mem _ List.mem_cons_self) result
  | @unusable a _ _ _ _ result unusable shuts =>
    refine shuts.closes_blamed (.exchange (a := a) rfl trivial) ?_
    exact .unusable (List.mem_cons_of_mem _ List.mem_cons_self) result unusable
  | @unpolled a services channel e start h _ result usable starts shuts =>
    have found : c.Spares [.call .discover, .answer .discover a] c := .exchange rfl trivial
    have closes := shuts.closes_blamed (x := .command n .connect) (found.trans starts.spares) ?_
    · rw [List.append_assoc] at closes
      exact closes
    · generalize failed : (Except.error e : Except LinkError Unit) = r at starts
      cases starts with
      | notify mode a' => exact .unsubscribed (by simp) failed.symm
      | interval => cases failed
  | found result usable starts =>
    refine .inl (closings_eq_nil ?_)
    intro a ha
    simp only [List.mem_cons, List.mem_append, List.not_mem_nil, or_false] at ha
    rcases ha with rfl | rfl | ha | rfl | rfl
    · rfl
    · rfl
    · exact (starts.spares.neutral a ha).closing?
    · rfl
    · rfl

theorem Establishes.closes {n : Nat} {r : Except RpcError Unit} (k : c.Establishes own r c') :
    c.ClosesFor (.command n .connect) own c' := by
  have connecting (untried : c.state = .disconnected) :
      c.Spares [.tell (.shown (c.enter .connecting).status),
        .tell (.event (.stateChanged .connecting))] (c.enter .connecting) :=
    .enters .disconnected .connecting untried (by decide)
  cases k with
  | already | refused => exact .nil
  | @unreachable a e h _ untried result shuts =>
    have called := (connecting untried).trans (.exchange (l := .connect) (a := a) rfl trivial)
    exact shuts.closes_blamed called (.unreachable (by simp) result)
  | @connected a peer h _ _ untried result finds =>
    have called := (connecting untried).trans (.exchange (l := .connect) (a := a) rfl trivial)
    have discovering := (Spares.peer (c := c.enter .connecting) peer).trans
      (.enters .connecting .discovering rfl (by decide))
    exact .later (called.trans discovering) finds.closes

theorem parting_drop {ds : List Callback} :
    ∀ a ∈ (ds.map Output.discarded).map Act.tell, a.Parting := by
  intro a ha
  obtain ⟨o, ho, rfl⟩ := List.mem_map.1 ha
  obtain ⟨d, -, rfl⟩ := List.mem_map.1 ho
  trivial

theorem Sends.closes {n : Nat} {method : String} {params : Json} {callback : Option Callback}
    {r : Except RpcError RequestId} (s : c.Sends method params callback own r c') :
    c.ClosesFor (.command n (.send method params callback)) own c' := by
  cases s with
  | refused => exact .inl (closings_parting parting_drop)
  | @failed channel request e _ _ state inUse is a result notes =>
    have written := (Spares.write (c := c) channel.inbox (Frame.encode request.document)).trans
      (.answer (a := a) ⟨e, result⟩)
    have closes := notes.closes (x := .command n (.send method params callback)) written
      fun fatal => .unwritten (List.mem_cons_of_mem _ List.mem_cons_self) result fatal
    exact closes.before parting_drop
  | written state inUse is a result =>
    refine .inl ?_
    show closings ([.call _, .answer _ a] ++ (_ ++ [.tell (.shown _)])) = []
    rw [closings_append, closings_append, closings_parting parting_drop]
    rfl

theorem Pulls.closes {channel : Channel} {tick : PollTick} (k : d.Pulls channel own c')
    (spares : c.Spares pre d) : c.ClosesFor (.poll tick) (pre ++ own) c' := by
  cases k with
  | received a result delivers =>
    refine .later spares (.inl (closings_eq_nil ?_))
    rw [List.forall_mem_cons, List.forall_mem_cons]
    exact ⟨rfl, rfl, delivers.forall_received (fun _ => rfl) (fun _ _ => rfl) (fun _ => rfl)
      (fun _ _ => rfl) rfl⟩
  | failed a result notes =>
    have read := spares.trans (.exchange (a := a) rfl fun _ => ⟨_, result⟩)
    have closes := notes.closes (x := .poll tick) read fun fatal =>
      .unread (List.mem_append_right _ (List.mem_cons_of_mem _ List.mem_cons_self)) result fatal
    rw [List.append_assoc] at closes
    exact closes

theorem Signals.closes {channel : Channel} {payload : List UInt8} {tick : PollTick}
    (k : d.Signals channel payload own c') (spares : c.Spares pre d) :
    c.ClosesFor (.poll tick) (pre ++ own) c' := by
  cases k with
  | ignored => exact .later spares .nil
  | announced something pulls =>
    have counted : d.Spares [] (d.counted payload) := { neutral := List.forall_mem_nil _ }
    exact pulls.closes (by simpa using spares.trans counted)

theorem Polls.closes {channel : Channel} {tick : PollTick} (k : c.Polls channel tick own c')
    (apart : channel.pollSignal.uuid ≠ inboxUuid) : c.ClosesFor (.poll tick) own c' := by
  have nothing : c.Spares [] c := { neutral := List.forall_mem_nil _ }
  cases k with
  | signal signals => exact signals.closes nothing
  | due a result signals =>
    exact signals.closes (.exchange (a := a) rfl fun same => (apart same).elim)
  | failed a result notes =>
    refine notes.closes (.exchange (a := a) rfl fun same => (apart same).elim) fun fatal => ?_
    exact .unread (List.mem_cons_of_mem _ List.mem_cons_self) result fatal
  | ended shuts => exact shuts.closes nothing .ended

theorem Resting.closes (r : Resting options h c) (reacts : c.Reacts x own c') :
    c.ClosesFor x own c' := by
  have nothing : c.Spares [] c := { neutral := List.forall_mem_nil _ }
  have replies (n : Nat) (y : Reply) : ∀ a ∈ [Act.tell (.reply n y)], a.Parting := by
    simp [Act.Parting]
  cases reacts with
  | connect establishes => exact establishes.closes.before (replies _ _)
  | send sends => exact sends.closes.before (replies _ _)
  | close shuts => exact (shuts.closes nothing .requested).before (replies _ _)
  | clientsGone shuts => exact shuts.closes nothing .clientsGone
  | linkLost shuts => exact shuts.closes nothing .linkLost
  | poll inUse polls =>
    have stage := r.steady.stage
    rw [inUse] at stage
    refine polls.closes ?_
    rw [(uuids_of_stage stage).2]
    decide
  | sweep => exact .inl (closings_eq_nil (forall_expiry (fun _ => rfl) fun _ => rfl))
  | unlimited => exact .nil

/-! ### The reaction that closed -/

/-- Callbacks are cancelled only for the reason that is recorded. -/
theorem Deeds.cancelled {u : Option Stimulus} (d : Deeds options u h c) :
    ∀ y, .settled y ∈ h.outputs → y.outcome = .failed (.cancelled reason) →
      c.status.closeReason = some reason := by
  have passes {g own : History} {c c' : Connection}
      (ih : ∀ y, .settled y ∈ g.outputs → y.outcome = .failed (.cancelled reason) →
        c.status.closeReason = some reason)
      (same : c'.status.closeReason = c.status.closeReason)
      (other : ∀ a ∈ own, ∀ y, a.settlement? = some y → y.outcome ≠ .failed (.cancelled reason)) :
      ∀ y, .settled y ∈ History.outputs (g ++ own) → y.outcome = .failed (.cancelled reason) →
        c'.status.closeReason = some reason := by
    intro y hy cancelled
    rw [outputs_append] at hy
    rcases List.mem_append.1 hy with hy | hy
    · rw [same]
      exact ih y hy cancelled
    · exact (other _ (mem_of_mem_outputs hy) y rfl cancelled).elim
  have silent {a : Act} (none : a.settlement? = none) :
      ∀ y, a.settlement? = some y → y.outcome ≠ .failed (.cancelled reason) := by
    intro y is
    rw [none] at is
    cases is
  induction d with
  | start =>
    intro y hy
    cases hy
  | takes x deeds ih => exact passes ih rfl (by simp)
  | spares deeds k ih =>
    refine passes ih k.closeReason fun a ha y is => ?_
    rw [(k.neutral a ha).silent.2.1] at is
    cases is
  | @closes u h c reason' deeds unclosed ih =>
    intro y hy cancelled
    rw [outputs_append, outputs_tell] at hy
    rcases List.mem_append.1 hy with hy | hy
    · have closed := deeds.agrees.closeReason.1 (by rw [ih y hy cancelled]; rfl)
      exact (unclosed closed).elim
    · rcases List.mem_cons.1 hy with hy | hy
      · cases hy
      · rcases List.mem_append.1 hy with hy | hy
        · obtain ⟨p, -, is | is⟩ := mem_released hy
          · cases is
            cases cancelled
            rfl
          · cases is
        · simp at hy
  | @receives u g h c c' ch chunk deeds ready inbox a result delivers ih =>
    have same : c'.tallied.status.closeReason = c.status.closeReason := by
      rw [delivers.eq]
      rfl
    refine passes ih same ?_
    refine List.forall_mem_cons.2 ⟨silent rfl, delivers.forall_received (fun _ => silent rfl)
      (fun p r y is cancelled => ?_) (fun _ => silent rfl) (fun _ _ => silent rfl) (silent rfl)⟩
    cases is
    cases cancelled
  | expires now deeds limited ih =>
    refine passes ih ?_ (forall_expiry (fun _ => silent rfl) fun p y is cancelled => ?_)
    · unfold expired
      dsimp only
      split <;> rfl
    · cases is
      cases cancelled
  | registers deeds ready is a result ih =>
    refine passes ih rfl ?_
    simp only [List.forall_mem_cons]
    exact ⟨silent rfl, silent rfl, silent rfl,
      forall_registered (fun _ => silent rfl) (silent rfl) (silent rfl)⟩
  | refuses e deeds ih =>
    exact passes ih rfl (forall_dropped (fun _ => silent rfl) (silent rfl))
  | replies deeds answers other ih => exact passes ih rfl (by simp)
  | rests deeds other ih => exact ih

/-- The reaction to `x`, after `g`, closed the connection `c`. -/
structure ClosedBy (options : Options) (h g : History) (x : Stimulus) (own : History)
    (reason : CloseReason) (c : Connection) : Prop where
  before : Run options g (.idle c)
  awaits : c.Awaits x
  done : g ++ .take x :: own <+: h
  cause : Cause own x reason
  closes : ∃ d, c.Closes reason own d

/-- What was closed was closed in a reaction to one stimulus. -/
theorem Run.closing (run : Run options h t) (closed : reason ∈ h.closings) :
    ∃ g x own c, ClosedBy options h g x own reason c := by
  obtain ⟨a, ha, is⟩ := List.mem_filterMap.1 closed
  obtain rfl : a = .tell (.event (.closed reason)) := by
    unfold Act.closing? at is
    split at is
    · cases is
      rfl
    · cases is
  obtain ⟨before, after, rfl⟩ := List.append_of_mem ha
  obtain ⟨g, x, c, part, rfl, idle, awaits, ⟨more, later, d, rfl, reacts, -⟩ | neutral⟩ := run.told
  · have mem : reason ∈ History.closings (part ++ .tell (.event (.closed reason)) :: more) :=
      List.mem_filterMap.2 ⟨_, List.mem_append_right _ List.mem_cons_self, rfl⟩
    rcases idle.at_rest.closes reacts with none | ⟨reason', closes, cause⟩
    · rw [none] at mem
      cases mem
    · rw [closes.closings] at mem
      obtain rfl := List.mem_singleton.1 mem
      refine ⟨g, x, _, c, idle, awaits, ⟨later, by simp⟩, cause, d, closes⟩
  · exact neutral.elim

end Connection

end GattRpc
