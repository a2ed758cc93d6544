import GattRpc.Proofs.Connection.Guarantees
import GattRpc.Proofs.Connection.Replies
import GattRpc.Proofs.Table

/-! # The deeds of a task

All that a task does with requests and with the bytes of the inbox comes in a few kinds. `Deeds`
lists them, with what each leaves; the rest is neutral to both. Whatever a task has done, wherever
it stands, and even if it has crashed, it has done such deeds one after the other
(`Connection.Run.performs`). So what is kept by each deed holds all along a run. -/

namespace GattRpc

/-- Neither is a stimulus taken, nor a command replied to. No request is registered or settled, no
record begun or ended, and the connection is not closed. -/
def Act.Neutral : Act → Prop
  | call _ => True
  | answer (.read ch) a => ch.uuid = inboxUuid → ∃ e, a.result = .error e
  | answer (.write _ _) a => ∃ e, a.result = .error e
  | answer .connect _ | answer .discover _ | answer (.subscribe _) _ | answer .disconnect _ => True
  | tell (.event (.stateChanged s)) => s ≠ .closed
  | tell (.shown _) => True
  | take _ | tell _ => False

namespace Connection

open History

/-- What is done spares the requests and the bytes of the inbox. -/
structure Spares (c : Connection) (h : History) (c' : Connection) : Prop where
  neutral : ∀ a ∈ h, a.Neutral
  options : c'.options = c.options := by rfl
  accumulator : c'.accumulator = c.accumulator := by rfl
  policy : c'.correlator.policy = c.correlator.policy := by rfl
  outstanding : c'.correlator.outstanding = c.correlator.outstanding := by rfl
  nextId : c'.correlator.nextId = c.correlator.nextId + .ofNat h.frames.length := by
    exact (UInt64.add_zero _).symm
  shown : c'.status.outstanding = c.status.outstanding := by rfl
  closeReason : c'.status.closeReason = c.status.closeReason := by rfl
  status : h.statuses.getLastD c.status = c'.status := by rfl
  reasons : ∀ s ∈ h.statuses, s.closeReason = c.status.closeReason := by exact List.forall_mem_nil _
  sweeping : c'.sweeping = true → c.sweeping = true := by exact id
  closed : c'.state = .closed ↔ c.state = .closed := by rfl
  ready : c.state = .ready → c'.state = .ready := by exact id
  visible : c.status.state = c.state → c'.status.state = c'.state := by exact id
  travels : Travels c.state h.states c'.state := by exact .refl

/-- What a task may have done: the stimulus that it reacts to, if it still does, its history, and
what has become of its connection. -/
inductive Deeds (options : Options) : Option Stimulus → History → Connection → Prop
  | start : Deeds options none [] (.new options)
  | takes {h : History} {c : Connection} (x : Stimulus) (deeds : Deeds options none h c) :
    Deeds options (some x) (h ++ [.take x]) c
  | spares {u : Option Stimulus} {g h : History} {c c' : Connection} (deeds : Deeds options u g c)
    (spares : c.Spares h c') : Deeds options u (g ++ h) c'
  | closes {u : Option Stimulus} {h : History} {c : Connection} (reason : CloseReason)
    (deeds : Deeds options u h c) (unclosed : c.state ≠ .closed) :
    Deeds options u (h ++ (c.farewell reason).map .tell) (c.closed reason)
  | receives {u : Option Stimulus} {g h : History} {c c' : Connection} {ch : Characteristic}
    {chunk : List UInt8} (deeds : Deeds options u g c) (ready : c.state = .ready)
    (inbox : ch.uuid = inboxUuid) (a : LinkAnswer (.read ch)) (result : a.result = .ok chunk)
    (delivers : (c.fed chunk).DeliversAll (c.finished chunk) h c') :
    Deeds options u
      (g ++ .answer (.read ch) a ::
        (((c.spoiled chunk).map fun d => .event (.frameDropped d)).map .tell ++ h ++
          [.tell (.shown c'.tallied.status)])) c'.tallied
  | expires {u : Option Stimulus} {h : History} {c : Connection} {timeout : Nat} (now : Nat)
    (deeds : Deeds options u h c) (limited : options.requestTimeout = some timeout) :
    Deeds options u (h ++ (c.expiry now timeout).map .tell) (c.expired now timeout)
  | registers {h : History} {c : Connection} {n : Nat} {method : String} {params : Json}
    {callback : Option Callback} {request : Request} {ch : Characteristic}
    (deeds : Deeds options none h c) (ready : c.state = .ready)
    (is : request = .new c.correlator.nextId method params)
    (a : LinkAnswer (.write ch (Frame.encode request.document))) (result : a.result = .ok ()) :
    Deeds options none
      (h ++ .take (.command n (.send method params callback)) ::
        .call (.write ch (Frame.encode request.document)) :: .answer _ a ::
        (((c.prepared.correlator.register a.time request callback).2.toList.map .discarded).map
          .tell ++ [.tell (.shown (c.prepared.registered a.time request callback).status),
            .tell (.reply n (.send (.ok request.id)))]))
      (c.prepared.registered a.time request callback)
  | refuses {h : History} {c : Connection} {n : Nat} {method : String} {params : Json}
    {callback : Option Callback} (e : RpcError)
    (deeds : Deeds options (some (.command n (.send method params callback))) h c) :
    Deeds options none
      (h ++ ((callback.toList.map .discarded).map .tell ++ [.tell (.reply n (.send (.error e)))])) c
  | replies {h : History} {c : Connection} {n : Nat} {cmd : Command} {r : Reply}
    (deeds : Deeds options (some (.command n cmd)) h c) (answers : r.Answers cmd)
    (other : ∀ method params callback, cmd ≠ .send method params callback) :
    Deeds options none (h ++ [.tell (.reply n r)]) c
  | rests {h : History} {c : Connection} {x : Stimulus} (deeds : Deeds options (some x) h c)
    (other : ∀ n cmd, x ≠ .command n cmd) : Deeds options none h c

variable {options : Options} {u : Option Stimulus} {x : Stimulus} {c c' c'' : Connection}
  {g h : History}

/-! ### What is told along the way -/

theorem DeliversAll.eq {ms : List Json} (d : c.DeliversAll ms h c') :
    c' = { c with correlator := c'.correlator } := by
  induction d with
  | nil => rfl
  | cons first rest ih =>
    rw [ih]
    cases first <;> rfl

theorem DeliversAll.policy {ms : List Json} (d : c.DeliversAll ms h c') :
    c'.correlator.policy = c.correlator.policy := by
  induction d with
  | nil => rfl
  | cons first rest ih =>
    rw [ih]
    cases first <;> rfl

theorem DeliversAll.forall_told {P : Act → Prop} {ms : List Json} (d : c.DeliversAll ms h c')
    (settled : ∀ (p : Pending) r, P (.tell (.settled (p.settle (.answered r)))))
    (orphan : ∀ id, P (.tell (.event (.orphanResponse id))))
    (notification : ∀ method params, P (.tell (.event (.notification method params)))) :
    ∀ a ∈ h, P a := by
  induction d with
  | nil => exact List.forall_mem_nil _
  | cons first rest ih =>
    refine List.forall_mem_append.2 ⟨?_, ih⟩
    cases first with
    | answered => exact List.forall_mem_singleton.2 (settled _ _)
    | orphan => exact List.forall_mem_singleton.2 (orphan _)
    | notification => exact List.forall_mem_singleton.2 (notification _ _)
    | unrecognized => exact List.forall_mem_nil _

/-- What is told of a chunk. -/
theorem DeliversAll.forall_received {P : Act → Prop} {ms : List Json} {ds : List Frame.Dropped}
    {s : LinkStatus} (d : c.DeliversAll ms h c')
    (dropped : ∀ d, P (.tell (.event (.frameDropped d))))
    (settled : ∀ (p : Pending) r, P (.tell (.settled (p.settle (.answered r)))))
    (orphan : ∀ id, P (.tell (.event (.orphanResponse id))))
    (notification : ∀ method params, P (.tell (.event (.notification method params))))
    (shown : P (.tell (.shown s))) :
    ∀ a ∈ (ds.map fun d => .event (.frameDropped d)).map .tell ++ h ++ [.tell (.shown s)], P a := by
  refine List.forall_mem_append.2 ⟨List.forall_mem_append.2 ⟨?_, ?_⟩,
    List.forall_mem_singleton.2 shown⟩
  · simpa using fun d _ => dropped d
  · exact d.forall_told settled orphan notification

/-- What the callback of an outstanding request comes to when the connection closes. -/
def parting (c : Connection) (reason : CloseReason) (p : Pending) : Output :=
  match c.correlator.policy with
  | .notify => .settled (p.settle (.failed (.cancelled reason)))
  | .drop => .discarded p.callback

theorem released_eq {reason : CloseReason} :
    c.released reason = (c.options.drain.order c.correlator.outstanding).map (c.parting reason) := by
  unfold released parting Correlator.cancelAll
  cases c.correlator.policy <;> simp [Function.comp_def]

theorem mem_released {reason : CloseReason} {o : Output} (ho : o ∈ c.released reason) :
    ∃ p ∈ c.correlator.outstanding, o = .settled (p.settle (.failed (.cancelled reason))) ∨
      o = .discarded p.callback := by
  rw [released_eq] at ho
  obtain ⟨p, hp, rfl⟩ := List.mem_map.1 ho
  refine ⟨p, Drain.mem_order.1 hp, ?_⟩
  unfold parting
  cases c.correlator.policy
  · exact .inl rfl
  · exact .inr rfl

theorem forall_released {P : Act → Prop} {reason : CloseReason}
    (settled : ∀ p : Pending, P (.tell (.settled (p.settle (.failed (.cancelled reason))))))
    (discarded : ∀ d, P (.tell (.discarded d))) :
    ∀ a ∈ (c.released reason).map Act.tell, P a := by
  intro a ha
  obtain ⟨o, ho, rfl⟩ := List.mem_map.1 ha
  obtain ⟨p, -, rfl | rfl⟩ := mem_released ho
  · exact settled p
  · exact discarded p.callback

theorem forall_farewell {P : Act → Prop} {reason : CloseReason}
    (shown : ∀ s, P (.tell (.shown s)))
    (settled : ∀ p : Pending, P (.tell (.settled (p.settle (.failed (.cancelled reason))))))
    (discarded : ∀ d, P (.tell (.discarded d)))
    (stateChanged : P (.tell (.event (.stateChanged .closed))))
    (closed : P (.tell (.event (.closed reason)))) :
    ∀ a ∈ (c.farewell reason).map Act.tell, P a := by
  rw [farewell, List.map_cons, List.map_append]
  refine List.forall_mem_cons.2 ⟨shown _, List.forall_mem_append.2 ⟨?_, ?_⟩⟩
  · exact forall_released settled discarded
  · simp [shown, stateChanged, closed]

theorem forall_expiry {P : Act → Prop} {now timeout : Nat} (shown : ∀ s, P (.tell (.shown s)))
    (settled : ∀ p : Pending, P (.tell (.settled (p.settle (.failed (.timedOut p.id)))))) :
    ∀ a ∈ (c.expiry now timeout).map Act.tell, P a := by
  intro a ha
  obtain ⟨o, ho, rfl⟩ := List.mem_map.1 ha
  rcases mem_expiry ho with ⟨x, hx, rfl⟩ | rfl
  · obtain ⟨p, -, rfl⟩ := List.mem_map.1 hx
    exact settled p
  · exact shown _

theorem forall_dropped {P : Act → Prop} {ds : List Callback} {n : Nat} {r : Reply}
    (discarded : ∀ d, P (.tell (.discarded d))) (reply : P (.tell (.reply n r))) :
    ∀ a ∈ (ds.map .discarded).map .tell ++ [.tell (.reply n r)], P a := by
  refine List.forall_mem_append.2 ⟨fun a ha => ?_, List.forall_mem_singleton.2 reply⟩
  obtain ⟨o, ho, rfl⟩ := List.mem_map.1 ha
  obtain ⟨d, -, rfl⟩ := List.mem_map.1 ho
  exact discarded d

theorem forall_registered {P : Act → Prop} {ds : List Callback} {s : LinkStatus} {n : Nat}
    {r : Reply} (discarded : ∀ d, P (.tell (.discarded d))) (shown : P (.tell (.shown s)))
    (reply : P (.tell (.reply n r))) :
    ∀ a ∈ (ds.map .discarded).map .tell ++ [.tell (.shown s), .tell (.reply n r)], P a := by
  intro a ha
  rw [List.append_cons, List.append_assoc, List.mem_append, List.mem_append] at ha
  have told : a ∈ (ds.map .discarded).map .tell ++ [.tell (.reply n r)] → P a :=
    forall_dropped discarded reply a
  rw [List.mem_append] at told
  rcases ha with ha | ha | ha
  · exact told (.inl ha)
  · rw [List.mem_singleton.1 ha]
    exact shown
  · exact told (.inr ha)

/-! ### What spares requests and bytes -/

namespace Spares

theorem trans (s : c.Spares g c') (t : c'.Spares h c'') : c.Spares (g ++ h) c'' where
  neutral := List.forall_mem_append.2 ⟨s.neutral, t.neutral⟩
  options := t.options.trans s.options
  accumulator := t.accumulator.trans s.accumulator
  policy := t.policy.trans s.policy
  outstanding := t.outstanding.trans s.outstanding
  nextId := by
    rw [t.nextId, s.nextId, frames_append, List.length_append, UInt64.ofNat_add, UInt64.add_assoc]
  shown := t.shown.trans s.shown
  closeReason := t.closeReason.trans s.closeReason
  status := by
    rw [statuses_append, ← t.status, ← s.status]
    cases h.statuses using List.reverseRecOn <;> simp [List.getLastD_eq_getLast?]
  reasons := by
    rw [statuses_append]
    exact List.forall_mem_append.2 ⟨s.reasons, fun x hx => (t.reasons x hx).trans s.closeReason⟩
  sweeping on := s.sweeping (t.sweeping on)
  closed := t.closed.trans s.closed
  ready is := t.ready (s.ready is)
  visible is := t.visible (s.visible is)
  travels := by
    rw [states_append]
    exact s.travels.trans t.travels

theorem call {l : LinkCall} (unwritten : History.frames [.call l] = []) :
    c.Spares [.call l] c where
  neutral := by simp [Act.Neutral]
  nextId := by rw [unwritten]; exact (UInt64.add_zero _).symm

theorem write (ch : Characteristic) (data : List UInt8) :
    c.Spares [.call (.write ch data)] c.prepared where
  neutral := by simp [Act.Neutral]
  nextId := rfl

theorem answer {l : LinkCall} {a : LinkAnswer l} (neutral : (Act.answer l a).Neutral) :
    c.Spares [.answer l a] c where
  neutral := List.forall_mem_singleton.2 neutral

/-- A call that is not to the inbox, and its answer. -/
theorem exchange {l : LinkCall} {a : LinkAnswer l} (unwritten : History.frames [.call l] = [])
    (neutral : (Act.answer l a).Neutral) : c.Spares [.call l, .answer l a] c :=
  (Spares.call unwritten).trans (.answer neutral)

/-- Something is shown, but nothing of the requests. -/
theorem shows (k : c.Spares [] { c' with status := c.status })
    (shown : c'.status.outstanding = c.status.outstanding := by rfl)
    (closeReason : c'.status.closeReason = c.status.closeReason := by rfl)
    (visible : c'.status.state = c.status.state := by rfl) :
    c.Spares [.tell (.shown c'.status)] c' where
  neutral := List.forall_mem_singleton.2 trivial
  options := k.options
  accumulator := k.accumulator
  policy := k.policy
  outstanding := k.outstanding
  nextId := k.nextId
  shown := shown
  closeReason := closeReason
  reasons := List.forall_mem_singleton.2 closeReason
  sweeping := k.sweeping
  closed := k.closed
  ready := k.ready
  visible is := visible.trans (k.visible is)
  travels := k.travels

theorem blame {e : LinkError} : c.Spares [.tell (.shown (c.blame e).status)] (c.blame e) :=
  .shows { neutral := List.forall_mem_nil _ }

theorem peer (peer : String) : c.Spares [.tell (.shown { c.status with peer := some peer })]
    { c with watching := true, status := { c.status with peer := some peer } } := by
  let found := { c with watching := true, status := { c.status with peer := some peer } }
  have shown : c.Spares [.tell (.shown found.status)] found :=
    .shows { neutral := List.forall_mem_nil _ }
  exact shown

/-- A step of connecting, which shows the state that it leads to. -/
theorem enters (before next : ConnectionState) (was : c.state = before)
    (apart : next ≠ .closed ∧ before ≠ .closed ∧ before ≠ .ready)
    (move : Moves before next := by constructor) :
    c.Spares [.tell (.shown (c.enter next).status), .tell (.event (.stateChanged next))]
      (c.enter next) where
  neutral := List.forall_mem_cons.2 ⟨trivial, List.forall_mem_singleton.2 apart.1⟩
  nextId := (UInt64.add_zero _).symm
  reasons := List.forall_mem_singleton.2 rfl
  closed := by rw [was]; exact iff_of_false apart.1 apart.2.1
  ready is := (apart.2.2 (was.symm.trans is)).elim
  visible _ := rfl
  travels := by
    rw [was]
    exact .move move

end Spares

namespace Deeds

theorem silent (d : Deeds options u h c) (k : c.Spares [] c') : Deeds options u h c' := by
  simpa using d.spares k

theorem configured (d : Deeds options u h c) : c.options = options := by
  induction d with
  | start => rfl
  | takes x deeds ih => exact ih
  | spares deeds k ih => exact k.options.trans ih
  | closes reason deeds unclosed ih => exact ih
  | receives deeds ready inbox a result delivers ih =>
    exact (SameLink.deliversAll delivers).options.trans ih
  | expires now deeds limited ih => exact ih
  | registers deeds ready is a result ih => exact ih
  | refuses e deeds ih => exact ih
  | replies deeds answers other ih => exact ih
  | rests deeds other ih => exact ih

theorem policy (d : Deeds options u h c) : c.correlator.policy = options.cancelPolicy := by
  induction d with
  | start => rfl
  | spares deeds k ih => exact k.policy.trans ih
  | closes reason deeds unclosed ih =>
    rw [closed_correlator, (Correlator.cancelAll_eq reason _).1]
    exact ih
  | receives deeds ready inbox a result delivers ih => exact delivers.policy.trans ih
  | registers deeds ready is a result ih => exact Correlator.register_policy.trans ih
  | takes x deeds ih | expires now deeds limited ih | refuses e deeds ih
  | replies deeds answers other ih | rests deeds other ih => exact ih

end Deeds

/-! ### What a stimulus makes a task do -/

open Activity

/-- A task that awaits an answer is amid its reaction to a stimulus, and not closed. It crashes only
if it is to poll without a pause. -/
def Amid (options : Options) : Pausing := fun l h c =>
  ∃ x, Deeds options (some x) h c ∧ (l = none → options.pollMode = .interval 0) ∧
    (l ≠ none → c.state ≠ .closed)

/-- The activity does such deeds, and leaves the reaction to a stimulus unfinished. -/
abbrev Performs {α : Type} (options : Options) (x : Stimulus) (y : Activity α) (h : History)
    (c : Connection) : Prop :=
  y.Guarantees (Amid options) (fun _ => Deeds options (some x)) h c

theorem guarantees_transition_bind {α : Type} {K : Pausing} {next : ConnectionState}
    {f : Unit → Activity α} {post : α → History → Connection → Prop} :
    (transition next >>= f).Guarantees K post h c ↔
      (f ()).Guarantees K post
        (h ++ [.tell (.shown (c.enter next).status), .tell (.event (.stateChanged next))])
        (c.enter next) :=
  guarantees_bind_of_done transition_eq

namespace Deeds

theorem amid {l : LinkCall} (d : Deeds options (some x) h c) (unclosed : c.state ≠ .closed) :
    Amid options (some l) h c :=
  ⟨x, d, nofun, fun _ => unclosed⟩

theorem shutdown {reason : CloseReason} (d : Deeds options (some x) h c) :
    Performs options x (shutdown reason) h c := by
  have closing {h : History} (d : Deeds options (some x) h c.detached)
      (unclosed : c.state ≠ .closed) :
      Performs options x (do releaseAll reason; transition .closed; emit (.closed reason)) h
        c.detached :=
    guarantees_of_done farewell_eq (d.closes reason unclosed)
  refine guarantees_get_bind.2 ?_
  split
  next => exact guarantees_pure.2 d
  next unclosed =>
    refine guarantees_modify_bind.2 ?_
    have d : Deeds options (some x) h c.detached := d.silent { neutral := List.forall_mem_nil _ }
    split
    next tried =>
      refine guarantees_call_bind.2 ⟨(d.spares (.call rfl)).amid unclosed, fun a => ?_⟩
      exact closing (d.spares (.exchange rfl trivial)) unclosed
    next => exact closing d unclosed

theorem blame {e : LinkError} (d : Deeds options u h c) :
    Deeds options u (h ++ [.tell (.shown (c.blame e).status)]) (c.blame e) :=
  d.spares .blame

theorem noteLinkError {e : LinkError} (d : Deeds options (some x) h c) :
    Performs options x (noteLinkError e) h c := by
  refine guarantees_report_bind.2 ?_
  split
  next => exact d.blame.shutdown
  next => exact guarantees_pure.2 d.blame

theorem failConnecting_bind {e : LinkError} (d : Deeds options (some x) h c) :
    Performs options x
      (failConnecting e >>= fun r => pure (.error r : Except RpcError Unit)) h c := by
  have failed : Performs options x (failConnecting e) h c :=
    guarantees_report_bind.2 (d.blame.shutdown.bind fun _ h c d => guarantees_pure.2 d)
  exact failed.bind fun r h c d => guarantees_pure.2 d

theorem linked (d : Deeds options u h c) (peer : String) (connecting : c.state = .connecting) :
    Deeds options u
      (h ++ [.tell (.shown { c.status with peer := some peer })] ++
        [.tell (.shown (c.linked peer).status), .tell (.event (.stateChanged .discovering))])
      (c.linked peer) :=
  (d.spares (.peer peer)).spares (.enters .connecting .discovering connecting (by decide))

theorem opened (d : Deeds options u h c) (channel : Channel) (discovering : c.state = .discovering) :
    Deeds options u
      (h ++ [.tell (.shown (c.opened channel).status), .tell (.event (.stateChanged .ready))])
      (c.opened channel) :=
  have inUse : Deeds options u h { c with channel := some channel } :=
    d.silent { neutral := List.forall_mem_nil _ }
  inUse.spares (.enters .discovering .ready discovering (by decide))

theorem startPolling {channel : Channel} (d : Deeds options (some x) h c)
    (unclosed : c.state ≠ .closed) :
    (startPolling channel).Guarantees (Amid options)
      (fun _ h c' => Deeds options (some x) h c' ∧ c' = c) h c := by
  refine guarantees_get_bind.2 ?_
  split
  next =>
    refine guarantees_call_bind.2
      ⟨(d.spares (.call rfl)).amid unclosed, fun a => guarantees_pure.2 ?_⟩
    exact ⟨d.spares (.exchange rfl trivial), rfl⟩
  next zero =>
    rw [d.configured] at zero
    exact guarantees_crash.2 ⟨x, d, fun _ => zero, fun call => (call rfl).elim⟩
  next => exact guarantees_pure.2 ⟨d, rfl⟩

theorem establish (d : Deeds options (some x) h c) : Performs options x establish h c := by
  refine guarantees_get_bind.2 ?_
  split
  next => exact guarantees_pure.2 d
  next untried =>
    have d : Deeds options (some x) _ (c.enter .connecting) :=
      d.spares (.enters .disconnected .connecting untried (by decide))
    refine guarantees_transition_bind.2 (guarantees_call_bind.2 ⟨?_, fun a => ?_⟩)
    · exact (d.spares (.call rfl)).amid nofun
    split
    next => exact failConnecting_bind (d.spares (.exchange (a := a) rfl trivial))
    next peer connected =>
      have d := (d.spares (.exchange (a := a) rfl trivial)).linked peer rfl
      refine guarantees_modify_bind.2 (guarantees_report_bind.2 (guarantees_transition_bind.2 ?_))
      refine guarantees_call_bind.2 ⟨(d.spares (.call rfl)).amid nofun, fun a' => ?_⟩
      have d := d.spares (.exchange (a := a') rfl trivial)
      split
      next => exact d.failConnecting_bind
      next services found =>
        split
        next =>
          refine guarantees_report_bind.2 ?_
          exact d.blame.shutdown.bind fun _ h c d => guarantees_pure.2 d
        next channel usable =>
          refine (d.startPolling (by rintro ⟨⟩)).bind fun r h c' d => ?_
          obtain ⟨d, rfl⟩ := d
          cases r with
          | error e => exact d.failConnecting_bind
          | ok =>
            refine guarantees_modify_bind.2 (guarantees_transition_bind.2 (guarantees_pure.2 ?_))
            exact d.opened channel rfl
  next => exact guarantees_pure.2 d

theorem send {n : Nat} {method : String} {params : Json} {callback : Option Callback}
    (before : Deeds options none g c) :
    (send method params callback).Guarantees (Amid options)
      (fun r h c => Deeds options none (h ++ [.tell (.reply n (.send r))]) c)
      (g ++ [.take (.command n (.send method params callback))]) c := by
  have taken := before.takes (.command n (.send method params callback))
  have refused {h : History} {c : Connection} (e : RpcError)
      (d : Deeds options (some (.command n (.send method params callback))) h c) :
      Guarantees (Amid options)
        (fun r h c => Deeds options none (h ++ [.tell (.reply n (.send r))]) c)
        (do tell (callback.toList.map .discarded); return .error e) h c := by
    refine guarantees_tell_bind.2 (guarantees_pure.2 ?_)
    rw [List.append_assoc]
    exact d.refuses e
  refine guarantees_get_bind.2 ?_
  split
  next channel _ state =>
    have d := taken.spares (.write channel.inbox
      (Frame.encode (Request.new c.correlator.nextId method params).document))
    have unclosed : c.state ≠ .closed := by rw [state]; nofun
    refine guarantees_modify_bind.2 (guarantees_call_bind.2 ⟨d.amid unclosed, fun a => ?_⟩)
    split
    next e result =>
      have d := d.spares (.answer (a := a) ⟨e, result⟩)
      rw [List.append_assoc] at d
      exact d.noteLinkError.bind fun _ h c d => refused _ d
    next result =>
      simp only [guarantees_get_bind, guarantees_modify_bind, guarantees_tell_bind,
        guarantees_bind_of_done reportOutstanding_eq]
      refine guarantees_pure.2 ?_
      simp only [List.append_assoc]
      exact before.registers state rfl a result
  next => exact refused _ taken

end Deeds

theorem guarantees_route {K : Pausing} {m : Json} :
    (route m).Guarantees K (fun _ h' c' => ∃ told, h' = h ++ told ∧ c.Delivers m told c') h c := by
  unfold route
  split
  next r is =>
    refine guarantees_get_bind.2 (guarantees_modify_bind.2 ?_)
    cases found : c.correlator.find? r.id with
    | some p => exact guarantees_tell.2 ⟨_, rfl, .answered is found⟩
    | none => exact guarantees_tell.2 ⟨_, rfl, .orphan is found⟩
  next is => exact guarantees_tell.2 ⟨_, rfl, .notification is⟩
  next is => exact guarantees_pure.2 ⟨[], (List.append_nil _).symm, .unrecognized is⟩

theorem guarantees_routeAll {K : Pausing} {ms : List Json} :
    (routeAll ms).Guarantees K
      (fun _ h' c' => ∃ told, h' = h ++ told ∧ c.DeliversAll ms told c') h c := by
  induction ms generalizing h c with
  | nil => exact guarantees_pure.2 ⟨[], (List.append_nil _).symm, .nil⟩
  | cons m ms ih =>
    refine guarantees_route.bind fun _ h' c' first => ?_
    obtain ⟨told, rfl, first⟩ := first
    refine ih.mono fun _ h' c'' rest => ?_
    obtain ⟨more, rfl, rest⟩ := rest
    exact ⟨told ++ more, List.append_assoc .., .cons first rest⟩

namespace Deeds

theorem receive {ch : Characteristic} {chunk : List UInt8} (d : Deeds options (some x) h c)
    (ready : c.state = .ready) (inbox : ch.uuid = inboxUuid) (a : LinkAnswer (.read ch))
    (result : a.result = .ok chunk) :
    Performs options x (receive chunk) (h ++ [.answer (.read ch) a]) c := by
  refine guarantees_get_bind.2 (guarantees_modify_bind.2 (guarantees_tell_bind.2 ?_))
  refine guarantees_routeAll.bind fun _ h' c' routed => ?_
  obtain ⟨told, rfl, routed⟩ := routed
  refine guarantees_of_done reportOutstanding_eq ?_
  have d := d.receives ready inbox a result routed
  rw [spoiled, List.map_filterMap] at d
  simp only [List.append_assoc] at d ⊢
  exact d

theorem signal {channel : Channel} {payload : List UInt8} (d : Deeds options (some x) h c)
    (ready : c.state = .ready) (inbox : channel.inbox.uuid = inboxUuid) :
    Performs options x (signal channel payload) h c := by
  refine guarantees_modify_bind.2 ?_
  have d : Deeds options (some x) h (c.counted payload) :=
    d.silent { neutral := List.forall_mem_nil _ }
  split
  next =>
    have d := d.spares (.call (l := .read channel.inbox) rfl)
    have unclosed : (c.counted payload).state ≠ .closed := by
      rw [show (c.counted payload).state = .ready from ready]
      nofun
    refine guarantees_call_bind.2 ⟨d.amid unclosed, fun a => ?_⟩
    rw [List.append_cons]
    split
    next chunk result => exact d.receive ready inbox a result
    next e result => exact noteLinkError (d.spares (.answer fun _ => ⟨e, result⟩))
  next => exact guarantees_pure.2 d

theorem poll {channel : Channel} {tick : PollTick} (d : Deeds options (some x) h c)
    (ready : c.state = .ready) (inbox : channel.inbox.uuid = inboxUuid)
    (pollSignal : channel.pollSignal.uuid = pollSignalUuid) :
    Performs options x (poll channel tick) h c := by
  cases tick with
  | signal payload => exact d.signal ready inbox
  | due =>
    have unclosed : c.state ≠ .closed := by rw [ready]; nofun
    refine guarantees_call_bind.2 ⟨(d.spares (.call rfl)).amid unclosed, fun a => ?_⟩
    have other : channel.pollSignal.uuid ≠ inboxUuid := by
      rw [pollSignal]
      decide
    have d := d.spares (.exchange (a := a) rfl fun same => (other same).elim)
    split
    next => exact d.signal ready inbox
    next => exact d.noteLinkError
  | ended => exact d.shutdown

theorem sweep {now : Nat} (d : Deeds options (some x) h c) :
    Performs options x (Connection.sweep now) h c := by
  refine guarantees_get_bind.2 ?_
  split
  next => exact guarantees_pure.2 d
  next timeout limited =>
    rw [d.configured] at limited
    have d := d.expires now limited
    refine guarantees_modify_bind.2 (guarantees_tell_bind.2 ?_)
    split
    next none =>
      rw [(expired_of_none none).1, (expired_of_none none).2] at d
      exact guarantees_pure.2 d
    next some =>
      rw [(expired_of_some some).1, (expired_of_some some).2, List.map_append,
        ← List.append_assoc] at d
      exact guarantees_of_done reportOutstanding_eq d

end Deeds

/-! ### Runs -/

theorem resolve_uuids {services : List Service} {channel : Channel}
    (usable : resolve services = .ok channel) :
    channel.inbox.uuid = inboxUuid ∧ channel.pollSignal.uuid = pollSignalUuid := by
  unfold resolve at usable
  split at usable
  next => cases usable
  next s _ =>
    split at usable
    next => cases usable
    next => cases usable
    next inbox pollSignal first second =>
      cases usable
      exact ⟨by simpa using List.find?_some first, by simpa using List.find?_some second⟩

theorem uuids_of_stage {mode : PollMode} {xs : List Exchange} {state : ConnectionState}
    {channel : Channel} (s : Stage mode xs state (some channel)) :
    channel.inbox.uuid = inboxUuid ∧ channel.pollSignal.uuid = pollSignalUuid := by
  cases s with
  | serving handshake transfers =>
    cases handshake with
    | notify usable => exact resolve_uuids usable
    | interval usable => exact resolve_uuids usable

theorem Deeds.react (before : Deeds options none h c) (s : Steady options h c)
    (awaits : c.Awaits x) :
    (react x).Guarantees (Amid options) (fun _ => Deeds options none) (h ++ [.take x]) c := by
  have taken := before.takes x
  refine guarantees_get_bind.2 ?_
  cases x with
  | command n cmd =>
    cases cmd with
    | connect =>
      refine taken.establish.bind fun r h c d => guarantees_tell.2 ?_
      exact d.replies .connect nofun
    | send method params callback => exact before.send.bind fun r h c d => guarantees_tell.2 d
    | close =>
      refine taken.shutdown.bind fun _ h c d => guarantees_tell.2 ?_
      exact d.replies .close nofun
  | clientsGone => exact taken.shutdown.mono fun _ h c d => d.rests nofun
  | linkLost =>
    simp only [show c.watching = true from awaits, if_true]
    exact taken.shutdown.mono fun _ h c d => d.rests nofun
  | poll tick =>
    cases inUse : c.channel with
    | some channel =>
      have stage := s.stage
      rw [inUse] at stage
      obtain ⟨inbox, pollSignal⟩ := uuids_of_stage stage
      exact (taken.poll (stage.of_inUse rfl) inbox pollSignal).mono fun _ h c d => d.rests nofun
    | none => exact guarantees_pure.2 (taken.rests nofun)
  | sweep now =>
    simp only [show c.sweeping = true from awaits, if_true]
    exact taken.sweep.mono fun _ h c d => d.rests nofun

/-- A connection that awaits a stimulus. -/
structure Resting (options : Options) (h : History) (c : Connection) : Prop where
  steady : Steady options h c
  deeds : Deeds options none h c
  sweeping : c.sweeping = true → c.state ≠ .closed

theorem Resting.new : Resting options [] (.new options) := ⟨.new, .start, nofun⟩

theorem Resting.handle (r : Resting options h c) (awaits : c.Awaits x) :
    (handle x).Guarantees (Amid options) (fun _ => Resting options) (h ++ [.take x]) c := by
  have performs : (Connection.handle x).Guarantees (Amid options) (fun _ => Deeds options none)
      (h ++ [.take x]) c := by
    refine (r.deeds.react r.steady awaits).bind fun _ h' c' d => guarantees_modify.2 ?_
    refine d.silent { neutral := List.forall_mem_nil _, sweeping := fun on => ?_ }
    exact (Bool.and_eq_true_iff.1 on).1
  refine Progress.Guarantees.at_ends performs fun h' _ c' ends deeds => ?_
  obtain ⟨d, reacts, rfl⟩ := reacts_of_ends awaits ends
  refine ⟨?_, deeds, fun on => ?_⟩
  · rw [List.append_assoc]
    exact r.steady.reacts awaits reacts
  · exact of_decide_eq_true (Bool.and_eq_true_iff.1 on).2

/-- Wherever a task stands, it has done such deeds, and it is amid a reaction or at rest. -/
theorem Run.performs {t : Standing} (run : Run options h t) :
    t.Keeps (Resting options) (Amid options) h :=
  run.keeps .new fun before awaits => before.handle awaits

theorem Run.exists_deeds {t : Standing} (run : Run options h t) :
    ∃ u, Deeds options u h t.connection := by
  have k := run.performs
  cases t with
  | idle c => exact ⟨none, k.deeds⟩
  | calling c l resume =>
    obtain ⟨⟨x, d, -⟩, -⟩ := k
    exact ⟨some x, d⟩
  | ended c =>
    rcases k with k | ⟨x, d, -⟩
    · exact ⟨none, k.deeds⟩
    · exact ⟨some x, d⟩

/-- A task that polls with a pause is at rest whenever it does not await an answer. -/
theorem Run.resting {t : Standing} (mode : options.pollMode ≠ .interval 0) (run : Run options h t)
    (rest : t.isCalling = false) : Resting options h t.connection := by
  have k := run.performs
  cases t with
  | idle c => exact k
  | calling c l resume => cases rest
  | ended c =>
    rcases k with k | ⟨x, -, crashed, -⟩
    · exact k
    · exact (mode (crashed rfl)).elim

/-! ### A connection that becomes ready -/

def sampleChannel : Channel := ⟨⟨inboxUuid, 1⟩, ⟨pollSignalUuid, 2⟩⟩

def sampleOptions (limit : Nat) : Options := { maxFrameLen := limit }

/-- What is done to connect, when each call of the link succeeds. -/
def sampleHandshake : History :=
  [.take (.command 0 .connect), .tell (.shown { state := .connecting }),
    .tell (.event (.stateChanged .connecting)), .call .connect, .answer .connect ⟨0, .ok "peer"⟩,
    .tell (.shown { state := .connecting, peer := some "peer" }),
    .tell (.shown { state := .discovering, peer := some "peer" }),
    .tell (.event (.stateChanged .discovering)), .call .discover,
    .answer .discover
      ⟨0, .ok [⟨rpcService, [sampleChannel.inbox, sampleChannel.pollSignal]⟩]⟩,
    .call (.subscribe sampleChannel.pollSignal),
    .answer (.subscribe sampleChannel.pollSignal) ⟨0, .ok ()⟩,
    .tell (.shown { state := .ready, peer := some "peer" }),
    .tell (.event (.stateChanged .ready)), .tell (.reply 0 (.connect (.ok ())))]

/-- The connection that this makes ready. -/
def sampleReady (limit : Nat) : Connection :=
  { Connection.new (sampleOptions limit) with
    state := .ready, channel := some sampleChannel, watching := true
    status := { state := .ready, peer := some "peer" } }

theorem Run.sample (limit : Nat) :
    Run (sampleOptions limit) sampleHandshake (.idle (sampleReady limit)) := by
  have idle : Run (sampleOptions limit) [] (.idle (.new (sampleOptions limit))) := .start
  have connecting := idle.step (.take (s := .command 0 .connect) trivial)
  have discovering := connecting.step (.answer (l := .connect) ⟨0, .ok "peer"⟩)
  have subscribing := discovering.step (.answer (l := .discover)
    ⟨0, .ok [⟨rpcService, [sampleChannel.inbox, sampleChannel.pollSignal]⟩]⟩)
  exact subscribing.step (.answer (l := .subscribe sampleChannel.pollSignal) ⟨0, .ok ()⟩)

end Connection

end GattRpc
