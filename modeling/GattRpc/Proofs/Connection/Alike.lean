import GattRpc.Proofs.Connection.Inbox

/-! # What a connection sees of the inbox

A connection looks at the bytes that it holds of the inbox only when more bytes come. So connections
that differ in nothing else do the same as long as they are given the same; and of messages that
nobody waits for they only tell (`Connection.alike_handle`). -/

namespace GattRpc

/-- Neither bytes of the inbox, nor what is told of a message that no callback is told or of a
record that is no message. -/
def Act.isPlain : Act → Bool
  | tell (.event (.frameDropped _)) | tell (.event (.orphanResponse _)) => false
  | tell (.event (.notification _ _)) => false
  | a => a.chunk?.isNone

/-- What was done, up to the bytes of the inbox and what is told of stray messages and records. -/
def History.plain (h : History) : History := h.filter Act.isPlain

/-- The connections differ only in the bytes that they hold of the inbox. -/
def Connection.Twin (c c' : Connection) : Prop := ∃ a, c' = { c with accumulator := a }

/-- A request is outstanding under this id. -/
def Correlator.Holds (c : Correlator) (id : RequestId) : Prop := ∃ p ∈ c.outstanding, p.id = id

/-- No callback is told of the message while these ids are awaited. -/
def Stray (awaited : RequestId → Prop) (m : Json) : Prop :=
  ∀ r, Inbound.classify m = .response r → ¬ awaited r.id

/-- What is awaited once a message was routed. -/
def awaitedAfter (awaited : RequestId → Prop) (m : Json) (id : RequestId) : Prop :=
  awaited id ∧ ∀ r, Inbound.classify m = .response r → id ≠ r.id

/-- The same messages, with stray ones among them. -/
inductive Strewn : (RequestId → Prop) → List Json → List Json → Prop
  | nil {awaited : RequestId → Prop} : Strewn awaited [] []
  | kept {awaited : RequestId → Prop} {m : Json} {ms ms' : List Json}
    (rest : Strewn (awaitedAfter awaited m) ms ms') : Strewn awaited (m :: ms) (m :: ms')
  | stray {awaited : RequestId → Prop} {m : Json} {ms ms' : List Json} (stray : Stray awaited m)
    (rest : Strewn awaited ms ms') : Strewn awaited ms (m :: ms')

/-- The link gives two connections the same answer, or it gives the second some stray messages
more. -/
inductive Feeds (c c' : Connection) : (l : LinkCall) → LinkAnswer l → LinkAnswer l → Prop
  | same {l : LinkCall} {a : LinkAnswer l} (other : (Act.answer l a).chunk? = none) :
    Feeds c c' l a a
  | strewn {ch : Characteristic} {time : Nat} {chunk chunk' : List UInt8}
    (inbox : ch.uuid = inboxUuid)
    (strewn : Strewn c'.correlator.Holds (c.finished chunk) (c'.finished chunk')) :
    Feeds c c' (.read ch) ⟨time, .ok chunk⟩ ⟨time, .ok chunk'⟩

/-- Both have come equally far with equal results, and will go on alike when the link feeds them
alike. -/
inductive Progress.Alike {α : Type} : Progress α → Progress α → Prop
  | done {v : α} {c c' : Connection} {out out' : List Output} (twin : c.Twin c')
    (told : History.plain (out.map .tell) = History.plain (out'.map .tell)) :
    Alike (.done v c out) (.done v c' out')
  | waiting {c c' : Connection} {out out' : List Output} {l : LinkCall}
    {resume resume' : LinkAnswer l → Progress α} (twin : c.Twin c')
    (told : History.plain (out.map .tell) = History.plain (out'.map .tell))
    (go : ∀ a a', Feeds c c' l a a' → Alike (resume a) (resume' a')) :
    Alike (.waiting c out l resume) (.waiting c' out' l resume')
  | crashed {c c' : Connection} {out out' : List Output} (twin : c.Twin c')
    (told : History.plain (out.map .tell) = History.plain (out'.map .tell)) :
    Alike (.crashed c out) (.crashed c' out')

/-- It does the same whatever bytes of the inbox are held. -/
def Activity.Blind {α : Type} (x : Activity α) : Prop :=
  ∀ ⦃c c'⦄, c.Twin c' → (x c).Alike (x c')

variable {α β : Type} {c c' : Connection} {g h : History}

theorem History.plain_append : plain (g ++ h) = plain g ++ plain h := List.filter_append ..

/-! ### How activities are put together -/

namespace Progress

theorem Alike.after {p p' : Progress α} {out out' : List Output} (k : p.Alike p')
    (told : History.plain (out.map .tell) = History.plain (out'.map .tell)) :
    (p.after out).Alike (p'.after out') := by
  have more {more more' : List Output}
      (rest : History.plain (more.map .tell) = History.plain (more'.map .tell)) :
      History.plain ((out ++ more).map .tell) = History.plain ((out' ++ more').map .tell) := by
    rw [List.map_append, List.map_append, History.plain_append, History.plain_append, told, rest]
  cases k with
  | done twin rest => exact .done twin (more rest)
  | waiting twin rest go => exact .waiting twin (more rest) go
  | crashed twin rest => exact .crashed twin (more rest)

theorem Alike.bind {p p' : Progress α} {f f' : α → Connection → Progress β} (k : p.Alike p')
    (next : ∀ v c c', c.Twin c' → (f v c).Alike (f' v c')) : (p.bind f).Alike (p'.bind f') := by
  induction k with
  | done twin told => exact (next _ _ _ twin).after told
  | waiting twin told go ih => exact .waiting twin told ih
  | crashed twin told => exact .crashed twin told

end Progress

namespace Activity

open Connection

theorem run_get_bind {f : Connection → Activity α} : (get >>= f) c = f c c :=
  Progress.after_nil _

namespace Blind

theorem pure {v : α} : (Pure.pure v : Activity α).Blind := fun _ _ twin => .done twin rfl

theorem crash : (crash : Activity α).Blind := fun _ _ twin => .crashed twin rfl

theorem bind {x : Activity α} {f : α → Activity β} (first : x.Blind) (next : ∀ v, (f v).Blind) :
    (x >>= f).Blind :=
  fun _ _ twin => (first twin).bind fun v _ _ twin => next v twin

theorem get_bind {f : Connection → Activity α} (same : ∀ c a, f { c with accumulator := a } = f c)
    (next : ∀ c, (f c).Blind) : (get >>= f).Blind := by
  rintro c _ ⟨a, rfl⟩
  have twin : c.Twin { c with accumulator := a } := ⟨a, rfl⟩
  rw [run_get_bind, run_get_bind, same c a]
  exact next c twin

theorem modify {f : Connection → Connection}
    (same : ∀ c a, (f c).Twin (f { c with accumulator := a })) : (modify f).Blind := by
  rintro c _ ⟨a, rfl⟩
  exact .done (same c a) rfl

/-- What is shown says nothing of the bytes. -/
theorem report {f : LinkStatus → LinkStatus} : (report f).Blind := by
  rintro c _ ⟨a, rfl⟩
  exact .done ⟨a, rfl⟩ rfl

theorem tell {out : List Output} : (tell out).Blind := fun _ _ twin => .done twin rfl

/-- A call that is not to the inbox. -/
theorem call {l : LinkCall} (other : ∀ ch, l = .read ch → ch.uuid ≠ inboxUuid) :
    (call l).Blind := by
  intro c c' twin
  refine .waiting twin rfl fun a a' feeds => ?_
  cases feeds with
  | same => exact .done twin rfl
  | strewn inbox => exact (other _ rfl inbox).elim

theorem ite {p : Prop} [Decidable p] {x y : Activity α} (yes : x.Blind) (no : y.Blind) :
    (if p then x else y).Blind := by
  split
  · exact yes
  · exact no

end Blind

end Activity

namespace Connection

open Activity

/-! ### The handlers -/

theorem blind_transition {next : ConnectionState} : (transition next).Blind :=
  .bind (.modify fun _ _ => ⟨_, rfl⟩) fun _ => .bind .report fun _ => .tell

theorem blind_releaseAll {reason : CloseReason} : (releaseAll reason).Blind := by
  refine .bind (.modify fun c a => ⟨a.reset, rfl⟩) fun _ => .bind .report fun _ => ?_
  refine .get_bind (fun _ _ => rfl) fun c => .bind (.modify fun _ _ => ⟨_, rfl⟩) fun _ => ?_
  exact .bind .tell fun _ => .report

theorem blind_shutdown {reason : CloseReason} : (shutdown reason).Blind := by
  have closes : (do releaseAll reason; transition .closed; emit (.closed reason)).Blind :=
    .bind blind_releaseAll fun _ => .bind blind_transition fun _ => .tell
  refine .get_bind (fun _ _ => rfl) fun c => .ite .pure ?_
  refine .bind (.modify fun _ _ => ⟨_, rfl⟩) fun _ => ?_
  exact .ite (.bind (.call nofun) fun _ => closes) closes

theorem blind_failConnecting {e : LinkError} : (failConnecting e).Blind :=
  .bind .report fun _ => .bind blind_shutdown fun _ => .pure

theorem blind_noteLinkError {e : LinkError} : (noteLinkError e).Blind :=
  .bind .report fun _ => .ite blind_shutdown .pure

theorem blind_startPolling {channel : Channel} : (startPolling channel).Blind := by
  refine .get_bind (fun _ _ => rfl) fun c => ?_
  split
  next => exact .bind (.call nofun) fun _ => .pure
  next => exact .crash
  next => exact .pure

theorem blind_establish : establish.Blind := by
  have failed {e : LinkError} :
      (failConnecting e >>= fun r => pure (.error r : Except RpcError Unit)).Blind :=
    .bind blind_failConnecting fun _ => .pure
  refine .get_bind (fun _ _ => rfl) fun c => ?_
  split
  next => exact .pure
  next =>
    refine .bind blind_transition fun _ => .bind (.call nofun) fun a => ?_
    split
    next => exact failed
    next =>
      refine .bind (.modify fun _ _ => ⟨_, rfl⟩) fun _ => .bind .report fun _ => ?_
      refine .bind blind_transition fun _ => .bind (.call nofun) fun a => ?_
      split
      next => exact failed
      next =>
        split
        next => exact .bind .report fun _ => .bind blind_shutdown fun _ => .pure
        next =>
          refine .bind blind_startPolling fun r => ?_
          split
          next => exact failed
          next =>
            refine .bind (.modify fun _ _ => ⟨_, rfl⟩) fun _ => ?_
            exact .bind blind_transition fun _ => .pure
  next => exact .pure

theorem blind_reportOutstanding : reportOutstanding.Blind :=
  .get_bind (fun _ _ => rfl) fun _ => .report

theorem blind_send {method : String} {params : Json} {callback : Option Callback} :
    (send method params callback).Blind := by
  refine .get_bind (fun _ _ => rfl) fun c => ?_
  split
  next =>
    refine .bind (.modify fun _ _ => ⟨_, rfl⟩) fun _ => .bind (.call nofun) fun a => ?_
    split
    next => exact .bind blind_noteLinkError fun _ => .bind .tell fun _ => .pure
    next =>
      refine .get_bind (fun _ _ => rfl) fun c => .bind (.modify fun _ _ => ⟨_, rfl⟩) fun _ => ?_
      refine .bind .tell fun _ => ?_
      exact .bind blind_reportOutstanding fun _ => .pure
  next => exact .bind .tell fun _ => .pure

theorem blind_route {m : Json} : (route m).Blind := by
  unfold route
  split
  next =>
    refine .get_bind (fun _ _ => rfl) fun c => .bind (.modify fun _ _ => ⟨_, rfl⟩) fun _ => ?_
    split
    next => exact .tell
    next => exact .tell
  next => exact .tell
  next => exact .pure

theorem blind_sweep {now : Nat} : (sweep now).Blind := by
  refine .get_bind (fun _ _ => rfl) fun c => ?_
  split
  next => exact .pure
  next =>
    refine .bind (.modify fun _ _ => ⟨_, rfl⟩) fun _ => ?_
    exact .bind .tell fun _ => .ite .pure blind_reportOutstanding

theorem blind_command {n : Nat} {cmd : Command} : (command n cmd).Blind := by
  cases cmd with
  | connect => exact .bind blind_establish fun _ => .tell
  | send => exact .bind blind_send fun _ => .tell
  | close => exact .bind blind_shutdown fun _ => .tell

/-! ### The inbox -/

theorem route_eq (m : Json) (c : Connection) :
    ∃ out c', route m c = .done () c' out ∧ c.Delivers m (out.map .tell) c' := by
  have routed : (route m).Guarantees (fun _ _ _ => False) _ [] c := guarantees_route
  unfold Activity.Guarantees at routed
  cases run : route m c with
  | done u c' out =>
    rw [run] at routed
    obtain ⟨told, is, delivers⟩ := routed
    rw [show told = out.map .tell from is.symm] at delivers
    exact ⟨out, c', rfl, delivers⟩
  | waiting =>
    rw [run] at routed
    exact routed.1.elim
  | crashed =>
    rw [run] at routed
    exact routed.elim

theorem Delivers.stray {m : Json} (d : c.Delivers m h c') (stray : Stray c.correlator.Holds m) :
    c' = c ∧ h.plain = [] := by
  cases d with
  | @answered r p is found =>
    obtain ⟨hp, same⟩ := Correlator.mem_of_find? found
    exact (stray r is ⟨p, hp, same⟩).elim
  | orphan | notification | unrecognized => exact ⟨rfl, rfl⟩

theorem Delivers.holds {awaited : RequestId → Prop} {m : Json} (d : c.Delivers m h c')
    (holds : ∀ id, c.correlator.Holds id → awaited id) :
    ∀ id, c'.correlator.Holds id → awaitedAfter awaited m id := by
  rintro id ⟨p, hp, rfl⟩
  cases d with
  | @answered r q is found =>
    obtain ⟨hp, other⟩ := List.mem_filter.1 hp
    refine ⟨holds _ ⟨p, hp, rfl⟩, fun r' is' => ?_⟩
    rw [is] at is'
    cases is'
    exact of_decide_eq_true other
  | @orphan r is unknown =>
    refine ⟨holds _ ⟨p, hp, rfl⟩, fun r' is' => ?_⟩
    rw [is] at is'
    cases is'
    exact Correlator.find?_eq_none.1 unknown p hp
  | notification is | unrecognized is =>
    refine ⟨holds _ ⟨p, hp, rfl⟩, fun r' is' => ?_⟩
    rw [is] at is'
    cases is'

theorem alike_routeAll {awaited : RequestId → Prop} {ms ms' : List Json}
    (strewn : Strewn awaited ms ms') (twin : c.Twin c')
    (holds : ∀ id, c'.correlator.Holds id → awaited id) :
    (routeAll ms c).Alike (routeAll ms' c') := by
  induction strewn generalizing c c' with
  | nil => exact .done twin rfl
  | @kept awaited m ms ms' rest ih =>
    obtain ⟨out, c₁, eq, -⟩ := route_eq m c
    obtain ⟨out', c₁', eq', d'⟩ := route_eq m c'
    have alike := blind_route (m := m) twin
    rw [eq, eq'] at alike
    cases alike with
    | done twin told =>
      have all : ((route m c).bind fun _ => routeAll ms).Alike
          ((route m c').bind fun _ => routeAll ms') := by
        rw [eq, eq']
        exact (ih twin (d'.holds holds)).after told
      exact all
  | @stray awaited m ms ms' stray rest ih =>
    obtain ⟨out', c₁', eq', d'⟩ := route_eq m c'
    -- Only the second routes this one, and it stays the twin that it was.
    obtain ⟨same, silent⟩ := d'.stray fun r is held => stray r is (holds _ held)
    rw [same] at eq'
    have all : ((routeAll ms c).after []).Alike ((route m c').bind fun _ => routeAll ms') := by
      rw [eq']
      exact (ih twin holds).after silent.symm
    rw [Progress.after_nil] at all
    exact all

theorem alike_receive {chunk chunk' : List UInt8} (twin : c.Twin c')
    (strewn : Strewn c'.correlator.Holds (c.finished chunk) (c'.finished chunk')) :
    (receive chunk c).Alike (receive chunk' c') := by
  have run (c : Connection) (chunk : List UInt8) : receive chunk c =
      ((routeAll (c.finished chunk) >>= fun _ => reportOutstanding) (c.fed chunk)).after
        ((c.spoiled chunk).map fun d => .event (.frameDropped d)) := by
    rw [spoiled, List.map_filterMap]
    exact (Progress.after_nil _).trans (Progress.after_nil _)
  have reports (ds : List Frame.Dropped) :
      History.plain ((ds.map fun d => .event (.frameDropped d)).map .tell) = [] := by
    simp [History.plain, Act.isPlain]
  have fed : (c.fed chunk).Twin (c'.fed chunk') := by
    obtain ⟨a, rfl⟩ := twin
    exact ⟨_, rfl⟩
  rw [run, run]
  refine Progress.Alike.after ?_ (by rw [reports, reports])
  exact (alike_routeAll strewn fed fun _ => id).bind fun _ _ _ twin => blind_reportOutstanding twin

theorem blind_signal {channel : Channel} {payload : List UInt8}
    (inbox : channel.inbox.uuid = inboxUuid) : (signal channel payload).Blind := by
  refine .bind (.modify fun _ _ => ⟨_, rfl⟩) fun _ => .ite (fun c c' twin => ?_) .pure
  refine .waiting twin rfl fun a a' feeds => ?_
  cases feeds with
  | strewn _ strewn => exact (alike_receive twin strewn).after rfl
  | same other =>
    obtain ⟨time, r⟩ := a
    cases r with
    | ok chunk =>
      have read : Act.chunk? (.answer (.read channel.inbox) ⟨time, .ok chunk⟩) = some chunk :=
        if_pos inbox
      rw [read] at other
      cases other
    | error e => exact (blind_noteLinkError twin).after rfl

theorem blind_poll {channel : Channel} {tick : PollTick} (inbox : channel.inbox.uuid = inboxUuid)
    (pollSignal : channel.pollSignal.uuid = pollSignalUuid) : (poll channel tick).Blind := by
  cases tick with
  | signal payload => exact blind_signal inbox
  | due =>
    refine .bind (.call ?_) fun a => ?_
    · rintro _ ⟨⟩
      rw [pollSignal]
      decide
    · split
      next => exact blind_signal inbox
      next => exact blind_noteLinkError
  | ended => exact blind_shutdown

/-- Whatever they react to, twins do the same when they are fed alike. -/
theorem alike_handle {x : Stimulus} (twin : c.Twin c')
    (uuids : ∀ channel ∈ c.channel, channel.inbox.uuid = inboxUuid ∧
      channel.pollSignal.uuid = pollSignalUuid) : (handle x c).Alike (handle x c') := by
  have rests : (modify rested).Blind := .modify fun _ _ => ⟨_, rfl⟩
  have react : (react x c).Alike (react x c') := by
    obtain ⟨a, rfl⟩ := twin
    have twin : c.Twin { c with accumulator := a } := ⟨a, rfl⟩
    rw [Connection.react, run_get_bind, run_get_bind]
    cases x with
    | command n cmd => exact blind_command twin
    | clientsGone => exact blind_shutdown twin
    | linkLost => exact Blind.ite blind_shutdown .pure twin
    | poll tick =>
      obtain ⟨_, _, _, _, _, channel, _, _, _⟩ := c
      cases channel with
      | none => exact Blind.pure twin
      | some channel =>
        obtain ⟨inbox, pollSignal⟩ := uuids channel rfl
        exact blind_poll inbox pollSignal twin
    | sweep now => exact Blind.ite blind_sweep .pure twin
  exact react.bind fun _ _ _ twin => rests twin

end Connection

end GattRpc
