import GattRpc.Connection.Task
import GattRpc.Session.Client

/-! # Runs of a session

A session's clients may call whenever they like, a call may wait for room in the queue as long as
there is none, its link may take as long as it likes to answer, and of all that its task could serve
next any may come. A `Run` is any course that a session may take, with the `Journal` of what
happened, in order. -/

namespace GattRpc

/-- Something that happens in a session. -/
inductive Record
  | began (number : Nat) (call : ClientCall)
  | refused (number : Nat) (e : RpcError)
  /-- A call has put its command on the queue. -/
  | queued (number : Nat) (command : Command)
  | clientDropped
  | eventsRead (es : List Event)
  | eventsDropped
  | waited (ms : Nat)
  | act (a : Act)

abbrev Journal := List Record

namespace Record

def act? : Record → Option Act
  | act a => some a
  | _ => none

def began? : Record → Option (Nat × ClientCall)
  | began number call => some (number, call)
  | _ => none

def refused? : Record → Option (Nat × RpcError)
  | refused number e => some (number, e)
  | _ => none

def queued? : Record → Option (Nat × Command)
  | queued number command => some (number, command)
  | _ => none

end Record

namespace Journal

/-- What the task of the session did. -/
def history (j : Journal) : History := j.filterMap Record.act?

/-- The calls that clients began, with their numbers. -/
def began (j : Journal) : List (Nat × ClientCall) := j.filterMap Record.began?

/-- The calls that ended before they queued a command, with their numbers. -/
def refused (j : Journal) : List (Nat × RpcError) := j.filterMap Record.refused?

/-- The commands that calls queued, with the numbers of the calls. -/
def queued (j : Journal) : List (Nat × Command) := j.filterMap Record.queued?

/-- What calls to send ended with, before or after they queued a command. -/
def sends (j : Journal) : List (Nat × Except RpcError RequestId) :=
  (j.refused.map fun r => (r.1, .error r.2)) ++ j.history.sends

variable (i j : Journal)

@[simp] theorem history_append : history (i ++ j) = history i ++ history j :=
  List.filterMap_append

@[simp] theorem began_append : began (i ++ j) = began i ++ began j := List.filterMap_append

@[simp] theorem refused_append : refused (i ++ j) = refused i ++ refused j :=
  List.filterMap_append

@[simp] theorem queued_append : queued (i ++ j) = queued i ++ queued j := List.filterMap_append

variable {h : History}

@[simp] theorem history_act : history (h.map .act) = h := by
  induction h with
  | nil => rfl
  | cons a h ih => exact congrArg (a :: ·) ih

@[simp] theorem began_act : began (h.map .act) = [] := by
  induction h with
  | nil => rfl
  | cons a h ih => exact ih

@[simp] theorem refused_act : refused (h.map .act) = [] := by
  induction h with
  | nil => rfl
  | cons a h ih => exact ih

@[simp] theorem queued_act : queued (h.map .act) = [] := by
  induction h with
  | nil => rfl
  | cons a h ih => exact ih

end Journal

namespace Engine

variable {L : Type}

/-- Where the task of an engine stands. -/
def standing (e : Engine L) : Standing :=
  if e.ended then .ended e.connection
  else match e.waiting with
    | some w => .calling e.connection w.call w.resume
    | none => .idle e.connection

/-- The engine once its task stands there. -/
def follow (e : Engine L) : Standing → Engine L
  | .idle c => { e with connection := c, waiting := none }
  | .calling c l resume => { e with connection := c, waiting := some ⟨l, 0, resume⟩ }
  | .ended c => { e with connection := c, waiting := none, ended := true }

end Engine

namespace Session

variable {L : Type}

/-- The task may be given this stimulus, after which these commands are queued: commands come in
the order in which they were queued, and the clients are gone only when none is left. -/
def Offers (s : Session L) : Stimulus → List (Nat × Command) → Prop
  | .command ticket c, queue => s.engine.queue = (ticket, c) :: queue
  | .clientsGone, queue => s.engine.queue = [] ∧ s.clientsGone = true ∧ queue = []
  | .sweep now, queue => now = s.now ∧ queue = s.engine.queue
  | .linkLost, queue | .poll _, queue => queue = s.engine.queue

/-- The session once its task has done these acts and stands there. -/
def proceed (s : Session L) (queue : List (Nat × Command)) (acts : History)
    (t : Standing) : Session L :=
  let engine := { s.engine with queue }.follow t
  (acts.outputs.foldl note { s with engine }).endOrphans

/-- One thing that can happen next. -/
inductive Step : Session L → Journal → Session L → Prop
  | begin {s : Session L} (call : ClientCall) (held : s.held = true) :
    Step s (.began s.made call :: (s.refusal? call).toList.map (.refused s.made)) (s.begin call)
  /-- Any call that waits for room may be the next to queue its command. -/
  | enter {s : Session L} {r : RunningCall} (runs : r ∈ s.running) (waits : r.stage = .room)
      (room : s.hasRoom) : Step s [.queued r.number r.command] (s.enter r)
  | dropClient {s : Session L} : Step s [.clientDropped] { s with held := false }
  | readEvents {s : Session L} :
    Step s [.eventsRead s.channel.drain.2] { s with channel := s.channel.drain.1 }
  | dropEvents {s : Session L} : Step s [.eventsDropped] { s with channel := s.channel.close }
  | wait {s : Session L} (ms : Nat) : Step s [.waited ms] { s with now := s.now + ms }
  | serve {s : Session L} {x : Stimulus} {queue : List (Nat × Command)} {acts : History}
      {t : Standing} (offers : s.Offers x queue)
      (step : s.engine.standing.Step (.take x :: acts) t) :
    Step s ((.take x :: acts).map .act) (s.proceed queue acts t)
  | answer {s : Session L} {l : LinkCall} {a : LinkAnswer l} {acts : History} {t : Standing}
      (time : a.time = s.now) (step : s.engine.standing.Step (.answer l a :: acts) t) :
    Step s ((.answer l a :: acts).map .act) (s.proceed s.engine.queue acts t)

/-- Steps, one after the other. -/
inductive Path : Session L → Journal → Session L → Prop
  | refl {s : Session L} : Path s [] s
  | step {s s' s'' : Session L} {j more : Journal} (path : Path s j s') (step : Step s' more s'') :
    Path s (j ++ more) s''

/-- The courses of a session from its start. Nothing is said of the link, which is taken as it
answers. -/
inductive Run (options : Options) : Journal → Session Unit → Prop
  | start {s : Session Unit} (opened : Session.open? () options = some s) : Run options [] s
  | step {j more : Journal} {s s' : Session Unit} (run : Run options j s) (step : Step s more s') :
    Run options (j ++ more) s'

end Session

end GattRpc
