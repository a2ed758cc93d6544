import GattRpc.Proofs.Connection.Deeds
import GattRpc.Proofs.Frame.Split

/-! # The stream of the inbox

The bytes of all reads of the inbox make up one stream, however they were cut and whatever happened
between the reads. Its records are judged one by one, in order: the messages among them are routed,
the others are reported dropped, and what the stream has not ended yet is held
(`Connection.Run.streamed`). -/

namespace GattRpc

namespace Act

/-- The bytes that a read of the inbox gave. -/
@[simp] def chunk? : Act → Option (List UInt8)
  | answer (.read ch) ⟨_, .ok chunk⟩ => if ch.uuid = inboxUuid then some chunk else none
  | _ => none

@[simp] def drop? : Act → Option Frame.Dropped
  | tell (.event (.frameDropped d)) => some d
  | _ => none

/-- What a message that was routed came to. -/
@[simp] def delivery? : Act → Option Output
  | tell (.settled ⟨callback, request, .answered r⟩) =>
    some (.settled ⟨callback, request, .answered r⟩)
  | tell (.event (.orphanResponse id)) => some (.event (.orphanResponse id))
  | tell (.event (.notification method params)) => some (.event (.notification method params))
  | _ => none

/-- Neither bytes of the inbox, nor anything that comes of them. -/
structure Offstream (a : Act) : Prop where
  chunk : a.chunk? = none := by rfl
  drop : a.drop? = none := by rfl
  delivery : a.delivery? = none := by rfl

end Act

namespace History

variable {g h : History} {a : Act}

/-- The bytes of all reads of the inbox, one read after the other. -/
def inbox (h : History) : List UInt8 := (h.filterMap Act.chunk?).flatten

/-- The records that were reported dropped. -/
def drops (h : History) : List Frame.Dropped := h.filterMap Act.drop?

/-- What the messages that were routed came to. -/
def deliveries (h : History) : List Output := h.filterMap Act.delivery?

theorem inbox_append : inbox (g ++ h) = inbox g ++ inbox h := by
  rw [inbox, List.filterMap_append, List.flatten_append, inbox, inbox]

theorem drops_append : drops (g ++ h) = drops g ++ drops h := List.filterMap_append

theorem deliveries_append : deliveries (g ++ h) = deliveries g ++ deliveries h :=
  List.filterMap_append

theorem append_of_offstream (off : ∀ a ∈ h, a.Offstream) : inbox (g ++ h) = inbox g ∧
    drops (g ++ h) = drops g ∧ deliveries (g ++ h) = deliveries g := by
  have inbox' : inbox h = [] := by
    rw [inbox, List.filterMap_eq_nil_iff.2 fun a ha => (off a ha).chunk]
    rfl
  have drops' : drops h = [] := List.filterMap_eq_nil_iff.2 fun a ha => (off a ha).drop
  have deliveries' : deliveries h = [] :=
    List.filterMap_eq_nil_iff.2 fun a ha => (off a ha).delivery
  rw [inbox_append, drops_append, deliveries_append, inbox', drops', deliveries', List.append_nil,
    List.append_nil, List.append_nil]
  exact ⟨rfl, rfl, rfl⟩

theorem of_read {ch : Characteristic} {a : LinkAnswer (.read ch)} {chunk : List UInt8}
    (is : ch.uuid = inboxUuid) (result : a.result = .ok chunk) :
    inbox [.answer (.read ch) a] = chunk ∧ drops [.answer (.read ch) a] = [] ∧
      deliveries [.answer (.read ch) a] = [] := by
  obtain ⟨time, r⟩ := a
  obtain rfl : r = .ok chunk := result
  have read : Act.chunk? (.answer (.read ch) ⟨time, .ok chunk⟩) = some chunk := if_pos is
  refine ⟨?_, rfl, rfl⟩
  rw [inbox, List.filterMap_cons_some read]
  exact List.append_nil chunk

theorem of_reports (ds : List Frame.Dropped) :
    let reports := (ds.map fun d => .event (.frameDropped d)).map .tell
    inbox reports = [] ∧ drops reports = ds ∧ deliveries reports = [] := by
  induction ds with
  | nil => exact ⟨rfl, rfl, rfl⟩
  | cons d ds ih => exact ⟨ih.1, congrArg (d :: ·) ih.2.1, ih.2.2⟩

theorem append_of_chunk {ch : Characteristic} {a : LinkAnswer (.read ch)} {chunk : List UInt8}
    {ds : List Frame.Dropped} {s : LinkStatus} (is : ch.uuid = inboxUuid)
    (result : a.result = .ok chunk) (silent : ∀ b ∈ h, b.chunk? = none ∧ b.drop? = none) :
    let more := .answer (.read ch) a ::
      ((ds.map fun d => .event (.frameDropped d)).map .tell ++ h ++ [.tell (.shown s)])
    inbox (g ++ more) = inbox g ++ chunk ∧ drops (g ++ more) = drops g ++ ds ∧
      deliveries (g ++ more) = deliveries g ++ deliveries h := by
  intro more
  obtain ⟨read, undropped, unrouted⟩ := of_read is result
  obtain ⟨reported, dropped, unrouted'⟩ := of_reports ds
  have inbox' : inbox h = [] := by
    rw [inbox, List.filterMap_eq_nil_iff.2 fun b hb => (silent b hb).1]
    rfl
  have drops' : drops h = [] := List.filterMap_eq_nil_iff.2 fun b hb => (silent b hb).2
  have shown : ∀ b ∈ [Act.tell (.shown s)], b.Offstream := List.forall_mem_singleton.2 {}
  have offstream := append_of_offstream (g := g ++ ([.answer (.read ch) a] ++
    ((ds.map fun d => .event (.frameDropped d)).map .tell ++ h))) shown
  rw [List.append_assoc, List.append_assoc] at offstream
  rw [show more = [.answer (.read ch) a] ++
    ((ds.map fun d => .event (.frameDropped d)).map .tell ++ h ++ [.tell (.shown s)]) from rfl]
  refine ⟨offstream.1.trans ?_, offstream.2.1.trans ?_, offstream.2.2.trans ?_⟩
  · rw [inbox_append, inbox_append, inbox_append, read, reported, inbox', List.append_nil,
      List.append_nil]
  · rw [drops_append, drops_append, drops_append, undropped, dropped, drops', List.append_nil,
      List.nil_append]
  · rw [deliveries_append, deliveries_append, deliveries_append, unrouted, unrouted',
      List.nil_append, List.nil_append]

end History

/-- What a message comes to when it is routed: a response settles the callback of a request of its
id or is reported, and a notification is passed on. -/
inductive Inbound.Conveyed : Inbound → Output → Prop
  | answered {r : Response} {x : Settlement} (outcome : x.outcome = .answered r)
    (same : x.request.id = r.id) : Conveyed (.response r) (.settled x)
  | orphan {r : Response} : Conveyed (.response r) (.event (.orphanResponse r.id))
  | notification {method : String} {params : Json} :
    Conveyed (.notification method params) (.event (.notification method params))

/-- The messages have come to these outputs, each message to one and in order. A message that is not
recognized comes to nothing. -/
inductive Routed : List Json → List Output → Prop
  | nil : Routed [] []
  | conveyed {m : Json} {ms : List Json} {o : Output} {os : List Output}
    (conveyed : (Inbound.classify m).Conveyed o) (rest : Routed ms os) : Routed (m :: ms) (o :: os)
  | unrecognized {m v : Json} {ms : List Json} {os : List Output}
    (is : Inbound.classify m = .unrecognized v) (rest : Routed ms os) : Routed (m :: ms) os

theorem Routed.append {ms ms' : List Json} {os os' : List Output} (r : Routed ms os)
    (r' : Routed ms' os') : Routed (ms ++ ms') (os ++ os') := by
  induction r with
  | nil => exact r'
  | conveyed conveyed rest ih => exact .conveyed conveyed ih
  | unrecognized is rest ih => exact .unrecognized is ih

/-- A notification that comes alone is passed on. -/
theorem Routed.of_notification {m params : Json} {method : String} {os : List Output}
    (r : Routed [m] os) (is : Inbound.classify m = .notification method params) :
    os = [.event (.notification method params)] := by
  cases r with
  | conveyed conveyed rest =>
    rw [is] at conveyed
    cases conveyed
    cases rest
    rfl
  | unrecognized other => cases is.symm.trans other

/-- What has become of the bytes of the inbox. -/
structure Streamed (options : Options) (h : History) (c : Connection) : Prop where
  routed : Routed ((Frame.records h.inbox).filterMap (Frame.message? options.maxFrameLen))
    h.deliveries
  drops : h.drops = (Frame.records h.inbox).filterMap (Frame.dropped? options.maxFrameLen)
  /-- Only what the stream has not ended is held, until the connection is closed. -/
  held : c.accumulator = .holding options.maxFrameLen h.drops.length
    (if c.state = .closed then [] else Frame.remainder h.inbox)

open Connection History

variable {options : Options} {u : Option Stimulus} {c c' : Connection} {g h : History}
  {t : Standing}

theorem Act.Neutral.offstream {a : Act} (n : a.Neutral) : a.Offstream := by
  cases a with
  | take => exact n.elim
  | call => constructor <;> rfl
  | answer l a =>
    cases l with
    | read ch =>
      obtain ⟨time, r⟩ := a
      cases r with
      | error e => constructor <;> rfl
      | ok chunk =>
        have other : ch.uuid ≠ inboxUuid := fun inbox => by
          obtain ⟨e, result⟩ := n inbox
          cases result
        exact { chunk := if_neg other }
    | connect | discover | subscribe | write | disconnect => constructor <;> rfl
  | tell o =>
    cases o with
    | event e =>
      cases e with
      | stateChanged => constructor <;> rfl
      | notification | frameDropped | orphanResponse | closed => exact n.elim
    | shown => constructor <;> rfl
    | settled | discarded | reply => exact n.elim

theorem Connection.DeliversAll.routed {ms : List Json} (d : c.DeliversAll ms h c') :
    Routed ms h.deliveries := by
  induction d with
  | nil => exact .nil
  | cons first rest ih =>
    rw [deliveries_append]
    cases first with
    | answered is found =>
      refine Routed.conveyed ?_ ih
      rw [is]
      exact .answered rfl (Correlator.mem_of_find? found).2
    | orphan is unknown =>
      refine Routed.conveyed ?_ ih
      rw [is]
      exact .orphan
    | notification is =>
      refine Routed.conveyed ?_ ih
      rw [is]
      exact .notification
    | unrecognized is => exact .unrecognized is ih

/-- What an accumulator makes of a chunk that continues the record which it holds. -/
theorem Connection.feeds {limit n : Nat} {p : List UInt8} (chunk : List UInt8)
    (held : c.accumulator = .holding limit n p) (unended : Frame.delimiter ∉ p) :
    c.finished chunk = (Frame.records (p ++ chunk)).filterMap (Frame.message? limit) ∧
      c.spoiled chunk = (Frame.records (p ++ chunk)).filterMap (Frame.dropped? limit) ∧
      (c.fed chunk).accumulator =
        .holding limit (n + (c.spoiled chunk).length) (Frame.remainder (p ++ chunk)) := by
  have feed : (Accumulator.holding limit n p).feed chunk = _ := Accumulator.feed_holding unended
  rw [← held] at feed
  refine ⟨?_, ?_, ?_⟩
  · rw [finished, feed, Frame.outcomes, List.filterMap_map]
    exact congrArg (List.filterMap · _) (funext fun r => Frame.outcome_message?)
  · rw [spoiled, feed, Frame.outcomes, List.filterMap_map]
    exact congrArg (List.filterMap · _) (funext fun r => Frame.outcome_dropped?)
  · rw [fed, spoiled, feed]
    rfl

namespace Streamed

theorem new : Streamed options [] (.new options) := by
  refine ⟨.nil, rfl, ?_⟩
  rw [if_neg nofun]
  exact Accumulator.holding_nil.symm

theorem offstream (s : Streamed options g c) (off : ∀ a ∈ h, a.Offstream)
    (held : c'.accumulator = .holding options.maxFrameLen g.drops.length
      (if c'.state = .closed then [] else Frame.remainder g.inbox)) :
    Streamed options (g ++ h) c' := by
  obtain ⟨inbox, drops, deliveries⟩ := append_of_offstream (g := g) off
  refine ⟨?_, ?_, ?_⟩
  · rw [inbox, deliveries]
    exact s.routed
  · rw [inbox, drops]
    exact s.drops
  · rw [inbox, drops]
    exact held

theorem tells (s : Streamed options g c) (off : ∀ a ∈ h, a.Offstream) :
    Streamed options (g ++ h) c :=
  s.offstream off s.held

theorem closes {reason : CloseReason} (s : Streamed options g c) :
    Streamed options (g ++ (c.farewell reason).map .tell) (c.closed reason) := by
  refine s.offstream ?_ ?_
  · exact forall_farewell (fun _ => {}) (fun _ => {}) (fun _ => {}) {} {}
  · show c.accumulator.reset = _
    rw [s.held, Accumulator.reset_holding, closed_state, if_pos rfl]

/-- A chunk goes on where the last one ended. -/
theorem receives {ch : Characteristic} {chunk : List UInt8} {told : History}
    (s : Streamed options g c) (ready : c.state = .ready) (is : ch.uuid = inboxUuid)
    (a : LinkAnswer (.read ch)) (result : a.result = .ok chunk)
    (d : (c.fed chunk).DeliversAll (c.finished chunk) told c') :
    Streamed options
      (g ++ .answer (.read ch) a ::
        (((c.spoiled chunk).map fun d => .event (.frameDropped d)).map .tell ++ told ++
          [.tell (.shown c'.tallied.status)]))
      c'.tallied := by
  -- Of the stream before this chunk only the remainder is held, which the chunk continues.
  have unclosed : c.state ≠ .closed := by rw [ready]; nofun
  have held := s.held
  rw [if_neg unclosed] at held
  obtain ⟨finished, spoiled, fed⟩ := feeds chunk held (Frame.eq_framed g.inbox).2.1
  have silent : ∀ b ∈ told, b.chunk? = none ∧ b.drop? = none :=
    d.forall_told (fun _ _ => ⟨rfl, rfl⟩) (fun _ => ⟨rfl, rfl⟩) fun _ _ => ⟨rfl, rfl⟩
  obtain ⟨inbox, drops, deliveries⟩ := append_of_chunk (g := g) is result silent
  refine ⟨?_, ?_, ?_⟩
  · rw [inbox, deliveries, Frame.records_append, List.filterMap_append]
    refine s.routed.append ?_
    rw [← finished]
    exact d.routed
  · rw [inbox, drops, Frame.records_append, List.filterMap_append, ← s.drops, spoiled]
  · have open' : c'.tallied.state ≠ .closed := by
      rw [d.eq]
      exact unclosed
    rw [inbox, drops, Frame.remainder_append, List.length_append, if_neg open', ← fed, d.eq]
    rfl

end Streamed

theorem Connection.Deeds.stream (d : Deeds options u h c) : Streamed options h c := by
  induction d with
  | start => exact .new
  | takes x deeds ih => exact ih.tells (List.forall_mem_singleton.2 {})
  | @spares u g h c c' deeds k ih =>
    refine ih.offstream (fun a ha => (k.neutral a ha).offstream) ?_
    rw [k.accumulator, ih.held]
    simp only [k.closed]
  | closes reason deeds unclosed ih => exact ih.closes
  | receives deeds ready inbox a result delivers ih =>
    exact ih.receives ready inbox a result delivers
  | expires now deeds limited ih =>
    exact ih.offstream (forall_expiry (fun _ => {}) fun _ => {}) ih.held
  | registers deeds ready is a result ih =>
    refine ih.offstream ?_ ih.held
    simp only [List.forall_mem_cons]
    exact ⟨{}, {}, {}, forall_registered (fun _ => {}) {} {}⟩
  | refuses e deeds ih => exact ih.tells (forall_dropped (fun _ => {}) {})
  | @replies h c n cmd r deeds answers other ih =>
    refine ih.tells (List.forall_mem_singleton.2 ?_)
    constructor <;> rfl
  | rests deeds other ih => exact ih

/-- Whatever happens, the bytes of the inbox make up one stream. While the connection is ready, what
the stream has not ended yet is held. -/
theorem Connection.Run.streamed (run : Run options h t) :
    Streamed options h t.connection ∧ (t.connection.state = .ready →
      t.connection.accumulator.pending = (Frame.remainder h.inbox).length ∧
      t.connection.accumulator.dropped = h.drops.length ∧
      ((Frame.remainder h.inbox).length ≤ options.maxFrameLen →
        t.connection.accumulator.buffer.toList = Frame.remainder h.inbox)) := by
  obtain ⟨u, d⟩ := run.exists_deeds
  have s := d.stream
  refine ⟨s, fun ready => ?_⟩
  have held := s.held
  rw [if_neg (by rw [ready]; nofun)] at held
  rw [held]
  refine ⟨Accumulator.pending_holding, Accumulator.dropped_holding, fun fits => ?_⟩
  rw [Accumulator.holding, if_pos fits]

/-- A run that reads a record that is too long, in two pieces, a notification, and one byte of the
next record. -/
theorem Connection.Run.streamed_split :
    let tick := Frame.encode (.object [("method", .string "tick")])
    ∃ h t, Run (sampleOptions 17) h t ∧ t.connection.state = .ready ∧
      h.inbox = List.replicate 18 0x41 ++ [Frame.delimiter] ++ tick ++ [0x43] ∧
      h.drops = [.oversized 18] ∧ h.deliveries = [.event (.notification "tick" .null)] ∧
      Streamed (sampleOptions 17) h t.connection ∧ t.connection.accumulator.pending = 1 := by
  intro tick
  have signalled := (sample 17).step (.take (s := .poll (.signal [0, 0, 0, 1])) ⟨rfl, rfl⟩)
  have begun := signalled.step (.answer (l := .read sampleChannel.inbox) ⟨0, .ok [0x41]⟩)
  have again := begun.step (.take (s := .poll (.signal [0, 0, 0, 37])) ⟨rfl, rfl⟩)
  have ended := again.step (.answer (l := .read sampleChannel.inbox)
    ⟨0, .ok (List.replicate 17 0x41 ++ [Frame.delimiter] ++ tick ++ [0x43])⟩)
  obtain ⟨streamed, held⟩ := ended.streamed
  refine ⟨_, _, ended, by decide +kernel, by decide +kernel, by decide +kernel, ?_, streamed, ?_⟩
  · refine Routed.of_notification (m := .object [("method", .string "tick")]) ?_ rfl
    refine Eq.mp (congrArg (fun ms => Routed ms _) ?_) streamed.routed
    decide +kernel
  · exact (held (by decide +kernel)).1.trans (by decide +kernel)

end GattRpc
