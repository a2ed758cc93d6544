import GattRpc.Proofs.Connection.Handlers

/-! # What a connection does on a stimulus

The rest of the handlers, and with them `Reacts`: all that a connection may do on a stimulus that it
awaits. -/

namespace GattRpc

namespace Connection

open Activity

/-- The connection once a signal is counted. -/
def counted (c : Connection) (payload : List UInt8) : Connection :=
  { c with signals := c.signals.count payload }

/-- The connection once the number of its outstanding requests is shown. -/
def tallied (c : Connection) : Connection :=
  { c with status := { c.status with outstanding := c.correlator.count } }

/-- The connection once the requests that are too old have failed. If there are none, nothing else
is shown. -/
def expired (c : Connection) (now timeout : Nat) : Connection :=
  let (correlator, settled) := c.correlator.expire now timeout
  { c with
    correlator
    status :=
      if settled.isEmpty then c.status else { c.status with outstanding := correlator.count } }

/-- What is told when requests are checked for their age. -/
def expiry (c : Connection) (now timeout : Nat) : List Output :=
  let settled := (c.correlator.expire now timeout).2
  settled.map .settled ++
    if settled.isEmpty then [] else [.shown (c.expired now timeout).status]

/-- The connection once it has checked whether it still needs to check for old requests. -/
def rested (c : Connection) : Connection :=
  { c with sweeping := c.sweeping && c.state ≠ .closed }

/-- What the bytes of a chunk spoil. -/
def spoiled (c : Connection) (chunk : List UInt8) : List Frame.Dropped :=
  (c.accumulator.feed chunk).2.filterMap Frame.Outcome.dropped?

/-- What the bytes of a chunk finish. -/
def finished (c : Connection) (chunk : List UInt8) : List Json :=
  (c.accumulator.feed chunk).2.filterMap Frame.Outcome.message?

/-- The connection once it holds the bytes of a chunk. -/
def fed (c : Connection) (chunk : List UInt8) : Connection :=
  { c with accumulator := (c.accumulator.feed chunk).1 }

/-! ### What is done -/

/-- How a message is delivered. -/
inductive Delivers (c : Connection) (m : Json) : History → Connection → Prop
  | answered {r : Response} {p : Pending} (is : Inbound.classify m = .response r)
    (found : c.correlator.find? r.id = some p) :
    c.Delivers m [.tell (.settled (p.settle (.answered r)))]
      { c with correlator := c.correlator.filter fun q => q.id ≠ r.id }
  | orphan {r : Response} (is : Inbound.classify m = .response r)
    (unknown : c.correlator.find? r.id = none) :
    c.Delivers m [.tell (.event (.orphanResponse r.id))] c
  | notification {method : String} {params : Json}
    (is : Inbound.classify m = .notification method params) :
    c.Delivers m [.tell (.event (.notification method params))] c
  | unrecognized {v : Json} (is : Inbound.classify m = .unrecognized v) : c.Delivers m [] c

/-- How messages are delivered, one after the other. -/
inductive DeliversAll : Connection → List Json → History → Connection → Prop
  | nil {c : Connection} : c.DeliversAll [] [] c
  | cons {c c₁ c' : Connection} {m : Json} {ms : List Json} {h₁ h₂ : History}
    (first : c.Delivers m h₁ c₁) (rest : c₁.DeliversAll ms h₂ c') :
    c.DeliversAll (m :: ms) (h₁ ++ h₂) c'

/-- How the inbox is read once. -/
inductive Pulls (c : Connection) (channel : Channel) : History → Connection → Prop
  | received {chunk : List UInt8} {h : History} {c' : Connection}
    (a : LinkAnswer (.read channel.inbox)) (result : a.result = .ok chunk)
    (delivers : (c.fed chunk).DeliversAll (c.finished chunk) h c') :
    c.Pulls channel
      (.call (.read channel.inbox) :: .answer (.read channel.inbox) a ::
        (((c.spoiled chunk).map fun d => .event (.frameDropped d)).map .tell ++ h ++
          [.tell (.shown c'.tallied.status)])) c'.tallied
  | failed {e : LinkError} {h : History} {c' : Connection}
    (a : LinkAnswer (.read channel.inbox)) (result : a.result = .error e)
    (notes : c.NotesError e h c') :
    c.Pulls channel (.call (.read channel.inbox) :: .answer (.read channel.inbox) a :: h) c'

inductive Signals (c : Connection) (channel : Channel) (payload : List UInt8) :
    History → Connection → Prop
  | ignored (nothing : PollSignal.announced? payload = none) :
    c.Signals channel payload [] (c.counted payload)
  | announced {n : Nat} {h : History} {c' : Connection}
    (something : PollSignal.announced? payload = some n)
    (pulls : (c.counted payload).Pulls channel h c') : c.Signals channel payload h c'

inductive Polls (c : Connection) (channel : Channel) : PollTick → History → Connection → Prop
  | signal {payload : List UInt8} {h : History} {c' : Connection}
    (signals : c.Signals channel payload h c') : c.Polls channel (.signal payload) h c'
  | due {payload : List UInt8} {h : History} {c' : Connection}
    (a : LinkAnswer (.read channel.pollSignal)) (result : a.result = .ok payload)
    (signals : c.Signals channel payload h c') :
    c.Polls channel .due
      (.call (.read channel.pollSignal) :: .answer (.read channel.pollSignal) a :: h) c'
  | failed {e : LinkError} {h : History} {c' : Connection}
    (a : LinkAnswer (.read channel.pollSignal)) (result : a.result = .error e)
    (notes : c.NotesError e h c') :
    c.Polls channel .due
      (.call (.read channel.pollSignal) :: .answer (.read channel.pollSignal) a :: h) c'
  | ended {h : History} {c' : Connection} (shuts : c.Shuts .linkLost h c') :
    c.Polls channel .ended h c'

/-- What is done on a stimulus that is awaited. -/
inductive Reacts (c : Connection) : Stimulus → History → Connection → Prop
  | connect {ticket : Nat} {h : History} {r : Except RpcError Unit} {c' : Connection}
    (establishes : c.Establishes h r c') :
    c.Reacts (.command ticket .connect) (h ++ [.tell (.reply ticket (.connect r))]) c'
  | send {ticket : Nat} {method : String} {params : Json} {callback : Option Callback}
    {h : History} {r : Except RpcError RequestId} {c' : Connection}
    (sends : c.Sends method params callback h r c') :
    c.Reacts (.command ticket (.send method params callback))
      (h ++ [.tell (.reply ticket (.send r))]) c'
  | close {ticket : Nat} {h : History} {c' : Connection} (shuts : c.Shuts .requested h c') :
    c.Reacts (.command ticket .close) (h ++ [.tell (.reply ticket .close)]) c'
  | clientsGone {h : History} {c' : Connection} (shuts : c.Shuts .handleDropped h c') :
    c.Reacts .clientsGone h c'
  | linkLost {h : History} {c' : Connection} (shuts : c.Shuts .linkLost h c') :
    c.Reacts .linkLost h c'
  | poll {channel : Channel} {tick : PollTick} {h : History} {c' : Connection}
    (inUse : c.channel = some channel) (polls : c.Polls channel tick h c') :
    c.Reacts (.poll tick) h c'
  | sweep {now timeout : Nat} (limited : c.options.requestTimeout = some timeout) :
    c.Reacts (.sweep now) ((c.expiry now timeout).map .tell) (c.expired now timeout)
  | unlimited {now : Nat} (unlimited : c.options.requestTimeout = none) :
    c.Reacts (.sweep now) [] c

/-! ### Inversion -/

variable {c c' : Connection} {h : History}

theorem expired_of_none {now timeout : Nat}
    (none : (c.correlator.expire now timeout).2.isEmpty = true) :
    c.expired now timeout = { c with correlator := (c.correlator.expire now timeout).1 } ∧
      c.expiry now timeout = (c.correlator.expire now timeout).2.map .settled := by
  simp only [expired, expiry, if_pos none, List.append_nil, and_self]

theorem expired_of_some {now timeout : Nat}
    (some : ¬ (c.correlator.expire now timeout).2.isEmpty = true) :
    c.expired now timeout = { c with correlator := (c.correlator.expire now timeout).1 }.tallied ∧
      c.expiry now timeout = (c.correlator.expire now timeout).2.map .settled ++
        [.shown { c with correlator := (c.correlator.expire now timeout).1 }.tallied.status] := by
  simp only [expired, expiry, if_neg some, tallied, and_self]

theorem expiry_eq (now timeout : Nat) : ∃ shown : List LinkStatus,
    c.expiry now timeout =
      (c.correlator.expire now timeout).2.map .settled ++ shown.map .shown := by
  cases none : (c.correlator.expire now timeout).2.isEmpty with
  | true => exact ⟨[], by simp [expiry, none]⟩
  | false => exact ⟨[(c.expired now timeout).status], by simp [expiry, none]⟩

theorem mem_expiry {now timeout : Nat} {o : Output} (ho : o ∈ c.expiry now timeout) :
    (∃ x ∈ (c.correlator.expire now timeout).2, o = .settled x) ∨
      o = .shown (c.expired now timeout).status := by
  unfold expiry at ho
  rcases List.mem_append.1 ho with ho | ho
  · obtain ⟨x, hx, rfl⟩ := List.mem_map.1 ho
    exact .inl ⟨x, hx, rfl⟩
  · split at ho
    · cases ho
    · exact .inr (List.mem_singleton.1 ho)

theorem reportOutstanding_eq :
    reportOutstanding c = .done () c.tallied [.shown c.tallied.status] := rfl

theorem Delivers.of_ends {m : Json} {u : Unit} (e : (route m).Ends c h u c') :
    c.Delivers m h c' := by
  unfold route at e
  split at e
  next r is =>
    simp only [ends_get_bind, ends_modify_bind, Correlator.dispatch] at e
    cases found : c.correlator.find? r.id with
    | some p =>
      simp only [found, ends_tell] at e
      obtain ⟨rfl, rfl⟩ := e
      exact .answered is found
    | none =>
      simp only [found, emit, ends_tell] at e
      obtain ⟨rfl, rfl⟩ := e
      exact .orphan is found
  next is =>
    obtain ⟨rfl, rfl⟩ := ends_tell.1 e
    exact .notification is
  next is =>
    obtain ⟨rfl, -, rfl⟩ := ends_pure.1 e
    exact .unrecognized is

theorem DeliversAll.of_ends {ms : List Json} {u : Unit} (e : (routeAll ms).Ends c h u c') :
    c.DeliversAll ms h c' := by
  induction ms generalizing c h with
  | nil =>
    obtain ⟨rfl, -, rfl⟩ := ends_pure.1 e
    exact .nil
  | cons m ms ih =>
    obtain ⟨h₁, v, c₁, h₂, first, rest, rfl⟩ := ends_bind.1 e
    exact .cons (.of_ends first) (ih rest)

theorem Pulls.of_ends {channel : Channel} {u : Unit}
    (ends : Ends (do
      match (← call (.read channel.inbox)).result with
      | .ok chunk => receive chunk
      | .error e => noteLinkError e) c h u c') : c.Pulls channel h c' := by
  obtain ⟨a, h', rfl, e⟩ := ends_call_bind.1 ends
  split at e
  next chunk result =>
    simp only [receive, ends_get_bind, ends_modify_bind, ends_tell_bind] at e
    obtain ⟨h₁, rfl, e⟩ := e
    obtain ⟨h₂, v, c₁, h₃, delivers, tally, rfl⟩ := ends_bind.1 e
    obtain ⟨rfl, -, rfl⟩ := (ends_of_done reportOutstanding_eq).1 tally
    rw [← List.map_filterMap, ← List.append_assoc]
    exact .received a result (.of_ends delivers)
  next result => exact .failed a result (.of_ends e)

theorem Signals.of_ends {channel : Channel} {payload : List UInt8} {u : Unit}
    (e : (signal channel payload).Ends c h u c') : c.Signals channel payload h c' := by
  rw [signal, ends_modify_bind] at e
  cases something : PollSignal.announced? payload with
  | none =>
    simp only [something, Option.isSome_none, Bool.false_eq_true, if_false] at e
    obtain ⟨rfl, -, rfl⟩ := ends_pure.1 e
    exact .ignored something
  | some n =>
    simp only [something, Option.isSome_some, if_true] at e
    exact .announced something (.of_ends e)

theorem Polls.of_ends {channel : Channel} {tick : PollTick} {u : Unit}
    (e : (poll channel tick).Ends c h u c') : c.Polls channel tick h c' := by
  cases tick with
  | signal payload => exact .signal (.of_ends e)
  | due =>
    obtain ⟨a, h', rfl, e'⟩ := ends_call_bind.1 e
    split at e'
    next result => exact .due a result (.of_ends e')
    next result => exact .failed a result (.of_ends e')
  | ended => exact .ended (.of_ends e)

theorem Reacts.of_ends {s : Stimulus} {u : Unit} (awaits : c.Awaits s)
    (e : (react s).Ends c h u c') : c.Reacts s h c' := by
  rw [react, ends_get_bind] at e
  cases s with
  | command ticket cmd =>
    cases cmd with
    | connect =>
      obtain ⟨h₁, r, c₁, h₂, establishes, reply, rfl⟩ := ends_bind.1 e
      obtain ⟨rfl, rfl⟩ := ends_tell.1 reply
      exact .connect (.of_ends establishes)
    | send method params callback =>
      obtain ⟨h₁, r, c₁, h₂, sends, reply, rfl⟩ := ends_bind.1 e
      obtain ⟨rfl, rfl⟩ := ends_tell.1 reply
      exact .send (.of_ends sends)
    | close =>
      obtain ⟨h₁, v, c₁, h₂, shuts, reply, rfl⟩ := ends_bind.1 e
      obtain ⟨rfl, rfl⟩ := ends_tell.1 reply
      exact .close (.of_ends shuts)
  | clientsGone => exact .clientsGone (.of_ends e)
  | linkLost =>
    simp only [show c.watching = true from awaits, if_true] at e
    exact .linkLost (.of_ends e)
  | poll tick =>
    cases inUse : c.channel with
    | some channel =>
      simp only [inUse] at e
      exact .poll inUse (.of_ends e)
    | none => cases tick <;> simp [Awaits, inUse] at awaits
  | sweep now =>
    simp only [show c.sweeping = true from awaits, if_true] at e
    rw [Connection.sweep, ends_get_bind] at e
    split at e
    next unlimited =>
      obtain ⟨rfl, -, rfl⟩ := ends_pure.1 e
      exact .unlimited unlimited
    next timeout limited =>
      rw [ends_modify_bind, ends_tell_bind] at e
      obtain ⟨h', rfl, e⟩ := e
      have swept : c.Reacts (.sweep now) _ _ := .sweep limited
      split at e
      next none =>
        obtain ⟨rfl, -, rfl⟩ := ends_pure.1 e
        rw [(expired_of_none none).1, (expired_of_none none).2] at swept
        rw [List.append_nil]
        exact swept
      next some =>
        obtain ⟨rfl, -, rfl⟩ := (ends_of_done reportOutstanding_eq).1 e
        rw [(expired_of_some some).1, (expired_of_some some).2, List.map_append] at swept
        exact swept

/-- All that a connection may do on a stimulus that it awaits. -/
theorem reacts_of_ends {s : Stimulus} {u : Unit} (awaits : c.Awaits s)
    (e : (handle s).Ends c h u c') : ∃ c₁, c.Reacts s h c₁ ∧ c' = c₁.rested := by
  obtain ⟨h₁, v, c₁, h₂, reacts, rest, rfl⟩ := ends_bind.1 e
  obtain ⟨rfl, rfl⟩ := ends_modify.1 rest
  rw [List.append_nil]
  exact ⟨c₁, .of_ends awaits reacts, rfl⟩

end Connection

end GattRpc
