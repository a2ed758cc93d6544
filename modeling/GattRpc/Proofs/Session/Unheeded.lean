import GattRpc.Proofs.Connection.Events
import GattRpc.Proofs.Connection.Turns
import GattRpc.Proofs.Session.Reception
import GattRpc.Proofs.Session.Runs

/-! # Whoever receives the events

In `Session.Heard` the events of a session are received one by one, at any time, also while a step
is taken, until the receiver goes away. Nothing that a session does depends on that. A step that is
taken with another channel is the same step (`Session.Step.via`), and what is given to a session
determines its steps (`Session.Step.determined`). -/

namespace GattRpc

theorem History.events_outputs {h : History} : h.outputs.filterMap Output.event? = h.events := by
  rw [outputs, events, List.filterMap_filterMap]
  congr 1
  funext a
  cases a with
  | tell o => cases o <;> rfl
  | take | call | answer => rfl

namespace Record

/-- The receiver of the events does this. -/
def isReceipt : Record → Bool
  | eventsRead _ | eventsDropped => true
  | began _ _ | refused _ _ | queued _ _ | clientDropped | waited _ | act _ => false

/-- What is read of the events. -/
def read : Record → List Event
  | eventsRead es => es
  | began _ _ | refused _ _ | queued _ _ | clientDropped | eventsDropped | waited _ | act _ => []

/-- This is done to the session, rather than by it: a call or the end of the client, a call that is
the next to queue its command, a lapse of time, a stimulus that comes next or an answer of the
link. -/
def isGiven : Record → Bool
  | began _ _ | queued _ _ | clientDropped | waited _ | act (.take _) | act (.answer _ _) => true
  | refused _ _ | eventsRead _ | eventsDropped | act (.call _) | act (.tell _) => false

end Record

/-- What is given to a session. -/
def Journal.given (j : Journal) : Journal := j.filter Record.isGiven

theorem Journal.given_append {i j : Journal} : given (i ++ j) = given i ++ given j :=
  List.filter_append ..

/-- What was emitted. -/
abbrev Journal.events (j : Journal) : List Event := j.history.events

open EventChannel (Use)
open Connection (sampleOptions)

variable {L : Type} {options : Options} {j more more' : Journal} {us : List Use}
  {p : Record} {ch : EventChannel}

namespace Session

/-- The courses of a session whose events are received at any time, with what is done with its
channel. -/
inductive Heard (options : Options) : Journal → List Use → Session Unit → Prop
  | start {s : Session Unit} (opened : Session.open? () options = some s) : Heard options [] [] s
  /-- A step that is not the receiver's. What it emits is offered to the channel, one event after
  the other, and the receiver may do anything before, between and after. -/
  | step {j more : Journal} {us : List Use} {s s' : Session Unit} (heard : Heard options j us s)
      (step : Step s more s') (own : ∀ r ∈ more, r.isReceipt = false) (now : List Use)
      (offers : EventChannel.offered now = more.events) :
    Heard options (j ++ more) (us ++ now) { s' with channel := s.channel.after now }
  /-- The receiver does anything between two steps. -/
  | receive {j : Journal} {us : List Use} {s : Session Unit} (heard : Heard options j us s)
      (now : List Use) (silent : EventChannel.offered now = []) :
    Heard options j (us ++ now) { s with channel := s.channel.after now }

/-! ### A session with another channel -/

section Channels

variable {s s' s'' : Session L}

/-- The session with another channel. -/
def via (s : Session L) (ch : EventChannel) : Session L := { s with channel := ch }

theorem endOrphans_via : (s.via ch).endOrphans = s.endOrphans.via ch := by
  unfold endOrphans
  have ended : (s.via ch).engine.ended = s.engine.ended := rfl
  rw [ended]
  split <;> rfl

theorem note_via {o : Output} :
    (s.via ch).note o = (s.note o).via (ch.after (o.event?.toList.map .offer)) := by
  have runningCall {d : Callback} : (s.via ch).runningCall? d = s.runningCall? d := rfl
  have running : (s.via ch).running = s.running := rfl
  cases o with
  | shown | event => rfl
  | settled x =>
    simp only [note, runningCall]
    split
    · rfl
    · split <;> rfl
  | discarded d =>
    simp only [note, runningCall]
    split <;> rfl
  | reply n r =>
    cases r with
    | connect | close => rfl
    | send r =>
      cases r with
      | error => rfl
      | ok id =>
        simp only [note, running]
        split
        · rfl
        · split <;> rfl

theorem foldl_note_via {out : List Output} :
    out.foldl note (s.via ch) =
      (out.foldl note s).via (ch.after ((out.filterMap Output.event?).map .offer)) := by
  induction out generalizing s ch with
  | nil => rfl
  | cons o out ih =>
    rw [List.foldl_cons, note_via, ih, ← EventChannel.after_append, ← List.map_append,
      List.foldl_cons]
    cases o <;> rfl

theorem proceed_via {queue : List (Nat × Command)} {acts : History} {t : Standing} :
    (s.via ch).proceed queue acts t =
      (s.proceed queue acts t).via (ch.after (acts.events.map .offer)) := by
  rw [← History.events_outputs, proceed, proceed, ← endOrphans_via, ← foldl_note_via]
  rfl

theorem submit_via {n : Nat} {call : ClientCall} :
    (s.via ch).submit n call = (s.submit n call).via ch :=
  endOrphans_via (s := { s with running := s.running ++ [⟨n, call, .room⟩] })

theorem begin_via {call : ClientCall} : (s.via ch).begin call = (s.begin call).via ch := by
  rw [begin, begin, show (s.via ch).refusal? call = s.refusal? call from rfl]
  cases s.refusal? call with
  | some e => rfl
  | none => exact submit_via (s := { s with made := s.made + 1 })

/-- A step of the session does not depend on its channel, and offers to it what it emits. -/
theorem Step.via (step : s.Step more s') (own : ∀ r ∈ more, r.isReceipt = false)
    (ch : EventChannel) :
    (s.via ch).Step more (s'.via (ch.after (more.events.map .offer))) := by
  cases step with
  | begin call held =>
    rw [Journal.events, (records_begin call).1]
    have step : (s.via ch).Step _ _ := .begin call held
    rw [begin_via] at step
    exact step
  | enter runs waits room => exact .enter (s := s.via ch) runs waits room
  | dropClient => exact .dropClient
  | readEvents | dropEvents => cases own _ List.mem_cons_self
  | wait ms => exact .wait ms
  | @serve x queue acts t offers step =>
    rw [Journal.events, Journal.history_act]
    have offers : (s.via ch).Offers x queue := by cases x <;> exact offers
    have step : (s.via ch).Step _ _ := .serve offers step
    rw [proceed_via] at step
    exact step
  | answer time step =>
    rw [Journal.events, Journal.history_act]
    have step : (s.via ch).Step _ _ := .answer (s := s.via ch) time step
    rw [proceed_via] at step
    exact step

/-- What a step begins with, which is given to the session, determines what it does. -/
theorem Step.determined (step : s.Step (p :: more) s') (step' : s.Step (p :: more') s'') :
    more = more' ∧ s' = s'' := by
  generalize is : p :: more = done at step
  generalize is' : p :: more' = done' at step'
  cases step with
  | begin call held =>
    cases is
    cases step' <;> cases is'
    exact ⟨rfl, rfl⟩
  | @enter r =>
    cases is
    cases step' with
    | @enter r' =>
      obtain ⟨same, none⟩ := List.cons.inj is'
      injection same with number command
      rw [Session.enter, Session.enter, number, command]
      exact ⟨none.symm, rfl⟩
    | begin | dropClient | readEvents | dropEvents | wait | serve | answer => cases is'
  | dropClient | readEvents | dropEvents | wait ms =>
    cases is
    cases step' <;> cases is'
    exact ⟨rfl, rfl⟩
  | @serve x queue acts t offers step =>
    cases is
    cases step' <;> cases is'
    next queue' acts' t' offers' step' =>
      obtain ⟨rfl, rfl⟩ := step.determined step'
      have same : queue = queue' := by
        cases x with
        | command ticket c =>
          exact (List.cons.inj ((show s.engine.queue = _ from offers).symm.trans offers')).2
        | clientsGone => exact offers.2.2.trans offers'.2.2.symm
        | sweep now => exact offers.2.trans offers'.2.symm
        | linkLost | poll tick => exact Eq.trans offers (Eq.symm offers')
      rw [same]
      exact ⟨rfl, rfl⟩
  | answer time step =>
    cases is
    cases step' <;> cases is'
    next acts' t' time' step' =>
      obtain ⟨rfl, rfl⟩ := step.determined step'
      exact ⟨rfl, rfl⟩

/-- A step that is not the receiver's begins with what is given, and the rest is what the session
does. -/
theorem Step.given (step : s.Step more s') (own : ∀ r ∈ more, r.isReceipt = false) :
    ∃ p rest, more = p :: rest ∧ more.given = [p] := by
  have silent {acts : History} (quiet : ∀ a ∈ acts, ¬ a.Prompts) :
      Journal.given (acts.map .act) = [] := by
    refine List.filter_eq_nil_iff.2 fun r hr => ?_
    obtain ⟨a, ha, rfl⟩ := List.mem_map.1 hr
    cases a with
    | take | answer => exact (quiet _ ha trivial).elim
    | call | tell => exact Bool.false_ne_true
  have prompted {t t' : Standing} {a : Act} {acts : History} (step : t.Step (a :: acts) t')
      (is : (Record.act a).isGiven = true) :
      Journal.given ((a :: acts).map .act) = [.act a] := by
    obtain ⟨b, rest, same, -, quiet⟩ := step.prompted
    cases same
    rw [List.map_cons, Journal.given, List.filter_cons_of_pos is]
    exact congrArg _ (silent quiet)
  cases step with
  | begin call held =>
    refine ⟨_, _, rfl, ?_⟩
    cases s.refusal? call <;> rfl
  | enter | dropClient => exact ⟨_, _, rfl, rfl⟩
  | readEvents | dropEvents => cases own _ List.mem_cons_self
  | wait ms => exact ⟨_, _, rfl, rfl⟩
  | serve offers step => exact ⟨_, _, rfl, prompted step rfl⟩
  | answer time step => exact ⟨_, _, rfl, prompted step rfl⟩

end Channels

namespace Heard

variable {j' : Journal} {us' : List Use} {s s' : Session Unit}

/-- Each event that is emitted is offered to the channel. -/
theorem offered_eq (heard : Heard options j us s) : EventChannel.offered us = j.events := by
  induction heard with
  | start opened => rfl
  | step heard step own now offers ih =>
    rw [EventChannel.offered_append, ih, offers, ← History.events_append,
      ← Journal.history_append]
  | receive heard now silent ih => rw [EventChannel.offered_append, silent, List.append_nil, ih]

theorem channel_eq (heard : Heard options j us s) : s.channel = ({} : EventChannel).after us := by
  induction heard with
  | start opened =>
    obtain rfl := eq_of_open? opened
    rfl
  | step heard step own now offers ih => rw [EventChannel.after_append, ih]
  | receive heard now silent ih => rw [EventChannel.after_append, ih]

/-- But for its channel a session comes to where a run comes to whose events nobody receives. So
what holds of each run holds of it. -/
theorem run (heard : Heard options j us s) :
    Session.Run options j (s.via (({} : EventChannel).after (j.events.map .offer))) := by
  induction heard with
  | start opened =>
    obtain rfl := eq_of_open? opened
    exact .start opened
  | step heard step own now offers ih =>
    have run := ih.step (step.via own _)
    rw [← EventChannel.after_append, ← List.map_append, ← History.events_append,
      ← Journal.history_append] at run
    exact run
  | receive heard now silent ih => exact ih

theorem task (heard : Heard options j us s) :
    Connection.Run options j.history s.engine.standing :=
  heard.run.task

/-- A session has not begun, or its last step was prompted by what was given to it last. -/
theorem last (heard : Heard options j us s) :
    (j = [] ∧ ∃ s₀, Session.open? () options = some s₀ ∧ s = s₀.via s.channel) ∨
    ∃ j₀ us₀ s₀ p rest s₁, Heard options j₀ us₀ s₀ ∧ s₀.Step (p :: rest) s₁ ∧
      j = j₀ ++ p :: rest ∧ j.given = j₀.given ++ [p] ∧ s = s₁.via s.channel := by
  induction heard with
  | start opened => exact .inl ⟨rfl, _, opened, rfl⟩
  | step heard step own now offers ih =>
    obtain ⟨p, rest, rfl, one⟩ := step.given own
    refine .inr ⟨_, _, _, p, rest, _, heard, step, rfl, ?_, rfl⟩
    rw [Journal.given_append, one]
  | @receive j us s heard now silent ih =>
    have via {s₀ : Session Unit} (is : s = s₀.via s.channel) :
        s.via (s.channel.after now) = s₀.via (s.channel.after now) := by
      rw [is]
      rfl
    rcases ih with ⟨none, s₀, opened, is⟩ | ⟨j₀, us₀, s₀, p, rest, s₁, before, step, split, one, is⟩
    · exact .inl ⟨none, s₀, opened, via is⟩
    · exact .inr ⟨j₀, us₀, s₀, p, rest, s₁, before, step, split, one, via is⟩

/-- What was given to a session determines what it has done, and where it is but for its channel. -/
theorem same (heard : Heard options j us s) (heard' : Heard options j' us' s')
    (given : j'.given = j.given) : j' = j ∧ s' = s.via s'.channel := by
  induction heard generalizing j' us' s' with
  | start opened =>
    rcases heard'.last with ⟨rfl, s₀, opened', is⟩ | ⟨j₀, us₀, s₀, p, rest, s₁, -, -, -, one, -⟩
    · cases opened.symm.trans opened'
      exact ⟨rfl, is⟩
    · rw [one] at given
      exact (List.append_ne_nil_of_right_ne_nil _ (List.cons_ne_nil _ _) given).elim
  | step heard step own now offers ih =>
    obtain ⟨p, rest, rfl, one⟩ := step.given own
    rw [Journal.given_append, one] at given
    rcases heard'.last with
      ⟨rfl, -⟩ | ⟨j₀, us₀, s₀, p', rest', s₁, before, step', rfl, one', is⟩
    · exact (List.append_ne_nil_of_right_ne_nil _ (List.cons_ne_nil _ _) given.symm).elim
    -- Both last steps begin with what was given last, in sessions that differ in their channels.
    · obtain ⟨same, last⟩ := List.append_inj' (one'.symm.trans given) rfl
      cases last
      obtain ⟨rfl, is₀⟩ := ih before same
      have step := step.via own s₀.channel
      rw [← is₀] at step
      obtain ⟨rfl, rfl⟩ := step.determined step'
      exact ⟨rfl, is⟩
  | receive heard now silent ih => exact ih heard' given

/-- The receiver may as well do anything else. -/
theorem whatever (heard : Heard options j us s) (offers : EventChannel.offered us' = j.events) :
    Heard options j us' (s.via (({} : EventChannel).after us')) := by
  induction heard generalizing us' with
  | @start s opened =>
    have channel := (Heard.start opened).channel_eq
    have heard := (Heard.start opened).receive us' offers
    rw [channel] at heard
    exact heard
  | @step j more us s s' heard step own now offers' ih =>
    rw [Journal.events, Journal.history_append, History.events_append] at offers
    -- The last step offers the events that it emits, so the others were offered before.
    obtain ⟨us₀, now', rfl, before, offers⟩ := List.filterMap_eq_append_iff.1 offers
    have heard := (ih before).step (step.via own _) own now' offers
    rw [EventChannel.after_append]
    exact heard
  | receive heard now silent ih => exact ih offers

end Heard

/-- How a session gets on with its event channel. -/
structure Unheeded (options : Options) (j : Journal) (us : List Use) (s : Session Unit) :
    Prop where
  /-- A session that is given the same does the same, and comes to the same state, whatever the
  receiver of its events does. -/
  same : ∀ j' us' s', Heard options j' us' s' → j'.given = j.given →
    j' = j ∧ s' = { s with channel := s'.channel }
  /-- The receiver may do anything. -/
  whatever : ∀ us', EventChannel.offered us' = j.events →
    Heard options j us' { s with channel := ({} : EventChannel).after us' }
  /-- What is emitted is offered to the channel. -/
  offered : EventChannel.offered us = j.events ∧ s.channel = ({} : EventChannel).after us
  /-- An event is accepted if there is a receiver, and fewer than 64 events that were accepted are
  left for it. -/
  accepted : ∀ before e rest, us = before ++ .offer e :: rest →
    ({} : EventChannel).accepted (before ++ [.offer e]) = ({} : EventChannel).accepted before ++
      if .close ∉ before ∧ (({} : EventChannel).accepted before).length <
        (({} : EventChannel).received before).length + 64 then [e] else []
  /-- At any time, what was received is the beginning of what was accepted, which was emitted in
  that order. -/
  received : ∀ before rest, us = before ++ rest →
    ({} : EventChannel).received before <+: ({} : EventChannel).accepted before ∧
      (({} : EventChannel).accepted before).Sublist (EventChannel.offered before)
  /-- The states that are reported are those that the connection comes to, each of them once. -/
  states : Travels .disconnected (j.events.filterMap Event.state?) s.engine.connection.state ∧
    (j.events.filterMap Event.state?).Nodup
  /-- A connection that is closed has reported the reason once, after that it is closed, and nothing
  since. -/
  closing : s.engine.connection.state = .closed → ∃ before reason,
    j.events = before ++ [.stateChanged .closed, .closed reason] ∧
      ∀ other, .closed other ∉ before
  unclosed : s.engine.connection.state ≠ .closed → ∀ reason, .closed reason ∉ j.events

/-- Nothing depends on the receiver of the events, and no event is lost but for want of a receiver
or of room. A run, whose events are read between its steps, is heard so through its own channel
(`Session.Run.heard`), to which `Session.note` offers what is emitted (`Session.Step.channel_eq`). -/
theorem Heard.unheeded {s : Session Unit} (heard : Heard options j us s) :
    Unheeded options j us s where
  same j' us' s' heard' given := heard.same heard' given
  whatever us' offers := heard.whatever offers
  offered := ⟨heard.offered_eq, heard.channel_eq⟩
  accepted before e rest is := EventChannel.accepted_offer
  received before rest is :=
    ⟨EventChannel.received_prefix, EventChannel.accepted_sublist⟩
  states := by
    have travels := heard.task.announces.travels
    rw [← History.states_events, Engine.connection_standing] at travels
    exact ⟨travels, (List.nodup_cons.1 travels.nodup).2⟩
  closing closed := heard.task.parting (Engine.connection_standing ▸ closed)
  unclosed unclosed := heard.task.unparted (Engine.connection_standing ▸ unclosed)

/-- A session is closed. Its receiver takes the first event before the other is emitted, and goes
away then. -/
theorem Heard.unheeded_closed : ∃ j us s, Heard (sampleOptions 64) j us s ∧
    j.events = [.stateChanged .closed, .closed .requested] ∧
    ({} : EventChannel).received us = [.stateChanged .closed] ∧
    Unheeded (sampleOptions 64) j us s := by
  have opened : Heard (sampleOptions 64) [] [] { engine := .new () (sampleOptions 64) 0 } :=
    .start rfl
  have closing := opened.step (.begin .close rfl) (by decide) [] rfl
  have queued := closing.step (.enter (r := ⟨0, .close, .room⟩) List.mem_cons_self rfl
    (hasRoom_of_empty rfl)) (by decide) [] rfl
  have closed := queued.step (.serve (x := .command 0 .close) rfl (.take trivial))
    (by simp [Record.isReceipt])
    [.offer (.stateChanged .closed), .receive, .offer (.closed .requested), .close] rfl
  exact ⟨_, _, _, closed, rfl, rfl, closed.unheeded⟩

/-! ### Events that are read at once -/

section Receipts

variable {s s' : Session L}

/-- A step is the receiver's or not. -/
theorem Step.receives (step : s.Step more s') : (∀ r ∈ more, r.isReceipt = false) ∨
    (more = [.eventsRead s.channel.drain.2] ∧ s' = s.via s.channel.drain.1) ∨
    (more = [.eventsDropped] ∧ s' = s.via s.channel.close) := by
  have acts (h : History) : ∀ r ∈ h.map Record.act, r.isReceipt = false := by
    simp [Record.isReceipt]
  cases step with
  | begin call held =>
    refine .inl (List.forall_mem_cons.2 ⟨rfl, ?_⟩)
    simp [Record.isReceipt]
  | enter | dropClient | wait => exact .inl (List.forall_mem_singleton.2 rfl)
  | readEvents => exact .inr (.inl ⟨rfl, rfl⟩)
  | dropEvents => exact .inr (.inr ⟨rfl, rfl⟩)
  | serve | answer => exact .inl (acts _)

/-- A session offers to its channel what it emits, and does nothing else with it. -/
theorem Step.channel_eq (step : s.Step more s') (own : ∀ r ∈ more, r.isReceipt = false) :
    s' = s'.via (s.channel.after (more.events.map .offer)) := by
  obtain ⟨p, rest, rfl, -⟩ := step.given own
  exact (step.determined (step.via own s.channel)).2

end Receipts

/-- In a run the receiver takes at once all that waits, and does so between two steps. -/
theorem Run.heard {s : Session Unit} (run : Session.Run options j s) :
    ∃ us, Heard options (j.filter fun r => !r.isReceipt) us s ∧
      ({} : EventChannel).received us = j.flatMap Record.read := by
  induction run with
  | start opened => exact ⟨[], .start opened, rfl⟩
  | @step j more s s' run step ih =>
    obtain ⟨us, heard, read⟩ := ih
    have channel := heard.channel_eq
    rw [List.filter_append, List.flatMap_append, ← read]
    rcases step.receives with own | ⟨rfl, rfl⟩ | ⟨rfl, rfl⟩
    -- The step is not the receiver's, so it is taken over as it is.
    · have all : more.filter (fun r => !r.isReceipt) = more :=
        List.filter_eq_self.2 fun r hr => by rw [own r hr]; rfl
      have none : more.flatMap Record.read = [] := List.flatMap_eq_nil_iff.2 fun r hr => by
        cases r with
        | eventsRead es => cases own _ hr
        | began | refused | queued | clientDropped | eventsDropped | waited | act => rfl
      rw [all, none, step.channel_eq own]
      refine ⟨_, heard.step step own _ (EventChannel.offered_offers _), ?_⟩
      rw [EventChannel.received_append, EventChannel.received_offers]
    · have reading := heard.receive (.replicate s.channel.waiting.length .receive)
        (by simp [EventChannel.offered])
      rw [EventChannel.drain_eq]
      refine ⟨_, (List.append_nil (j.filter _)).symm ▸ reading, ?_⟩
      rw [EventChannel.received_append, ← channel]
      exact congrArg _ (List.append_nil _).symm
    · refine ⟨_, (List.append_nil (j.filter _)).symm ▸ heard.receive [.close] rfl, ?_⟩
      exact EventChannel.received_append

end Session

end GattRpc
