import GattRpc.Connection.Handler

/-! # Runs of a task

A task handles one stimulus after the other. Which of the stimuli that it awaits comes next, and
what the link answers, is left open here, so that a `Run` is any course that the task may take. Its
`History` lists what was done by the task and to it, in order. -/

namespace GattRpc

/-- Something that is done by a task or to it. -/
inductive Act
  | take (s : Stimulus)
  | call (l : LinkCall)
  | answer (l : LinkCall) (a : LinkAnswer l)
  | tell (o : Output)

/-- A call of the link, and what it resulted in. -/
structure Exchange where
  call : LinkCall
  result : Except LinkError call.Result

abbrev History := List Act

namespace Act

@[simp] def call? : Act → Option LinkCall
  | call l => some l
  | _ => none

@[simp] def exchange? : Act → Option Exchange
  | answer l a => some ⟨l, a.result⟩
  | _ => none

@[simp] def command? : Act → Option (Nat × Command)
  | take (.command ticket c) => some (ticket, c)
  | _ => none

@[simp] def state? : Act → Option ConnectionState
  | tell (.event (.stateChanged s)) => some s
  | _ => none

@[simp] def settlement? : Act → Option Settlement
  | tell (.settled x) => some x
  | _ => none

@[simp] def discarded? : Act → Option Callback
  | tell (.discarded c) => some c
  | _ => none

@[simp] def callback? : Act → Option Callback
  | take (.command _ (.send _ _ callback)) => callback
  | _ => none

@[simp] def frame? : Act → Option (List UInt8)
  | call (.write _ data) => some data
  | _ => none

@[simp] def sent? : Act → Option (Nat × Except RpcError RequestId)
  | tell (.reply ticket (.send r)) => some (ticket, r)
  | _ => none

@[simp] def shown? : Act → Option LinkStatus
  | tell (.shown s) => some s
  | _ => none

@[simp] def output? : Act → Option Output
  | tell o => some o
  | _ => none

end Act

namespace History

/-- The calls that were made on the link. -/
def calls (h : History) : List LinkCall := h.filterMap Act.call?

/-- The calls that the link has answered, with their results. -/
def exchanges (h : History) : List Exchange := h.filterMap Act.exchange?

/-- The commands that were taken, with their tickets. -/
def commands (h : History) : List (Nat × Command) := h.filterMap Act.command?

/-- The states that were entered. -/
def states (h : History) : List ConnectionState := h.filterMap Act.state?

/-- The callbacks that were told an outcome. -/
def settlements (h : History) : List Settlement := h.filterMap Act.settlement?

/-- The callbacks that were dropped. -/
def discards (h : History) : List Callback := h.filterMap Act.discarded?

/-- The callbacks of the commands that were taken. -/
def callbacks (h : History) : List Callback := h.filterMap Act.callback?

/-- What was written to the link, whether or not that succeeded. -/
def frames (h : History) : List (List UInt8) := h.filterMap Act.frame?

/-- What commands to send ended with, with their tickets. -/
def sends (h : History) : List (Nat × Except RpcError RequestId) := h.filterMap Act.sent?

/-- What the task told, in order. -/
def outputs (h : History) : List Output := h.filterMap Act.output?

/-- The ids of the requests that were sent. -/
def ids (h : History) : List RequestId := h.sends.filterMap fun s => s.2.toOption

/-- The state that was entered last. -/
def state (h : History) : ConnectionState := h.states.getLastD .disconnected

/-- What others could see, one after the other. -/
def statuses (h : History) : List LinkStatus := h.filterMap Act.shown?

/-- What others see once the task has done all that. -/
def status (h : History) : LinkStatus := h.statuses.getLastD {}

section Projections

variable (g h : History) (a : Act) (out : List Output)

private theorem filterMap_cons {α : Type} (f : Act → Option α) :
    (a :: h).filterMap f = (f a).toList ++ h.filterMap f := by
  cases e : f a <;> simp [e]

@[simp] theorem calls_append : calls (g ++ h) = calls g ++ calls h := List.filterMap_append

@[simp] theorem calls_cons : calls (a :: h) = a.call?.toList ++ calls h := filterMap_cons h a _

@[simp] theorem calls_nil : calls [] = [] := rfl

@[simp] theorem exchanges_append : exchanges (g ++ h) = exchanges g ++ exchanges h :=
  List.filterMap_append

@[simp] theorem exchanges_cons : exchanges (a :: h) = a.exchange?.toList ++ exchanges h :=
  filterMap_cons h a _

@[simp] theorem exchanges_nil : exchanges [] = [] := rfl

@[simp] theorem commands_append : commands (g ++ h) = commands g ++ commands h :=
  List.filterMap_append

@[simp] theorem commands_cons : commands (a :: h) = a.command?.toList ++ commands h :=
  filterMap_cons h a _

@[simp] theorem commands_nil : commands [] = [] := rfl

@[simp] theorem states_append : states (g ++ h) = states g ++ states h := List.filterMap_append

@[simp] theorem states_cons : states (a :: h) = a.state?.toList ++ states h := filterMap_cons h a _

@[simp] theorem states_nil : states [] = [] := rfl

@[simp] theorem settlements_append : settlements (g ++ h) = settlements g ++ settlements h :=
  List.filterMap_append

@[simp] theorem settlements_cons : settlements (a :: h) = a.settlement?.toList ++ settlements h :=
  filterMap_cons h a _

@[simp] theorem settlements_nil : settlements [] = [] := rfl

@[simp] theorem discards_append : discards (g ++ h) = discards g ++ discards h :=
  List.filterMap_append

@[simp] theorem discards_cons : discards (a :: h) = a.discarded?.toList ++ discards h :=
  filterMap_cons h a _

@[simp] theorem discards_nil : discards [] = [] := rfl

@[simp] theorem callbacks_append : callbacks (g ++ h) = callbacks g ++ callbacks h :=
  List.filterMap_append

@[simp] theorem callbacks_cons : callbacks (a :: h) = a.callback?.toList ++ callbacks h :=
  filterMap_cons h a _

@[simp] theorem callbacks_nil : callbacks [] = [] := rfl

@[simp] theorem frames_append : frames (g ++ h) = frames g ++ frames h := List.filterMap_append

@[simp] theorem frames_cons : frames (a :: h) = a.frame?.toList ++ frames h := filterMap_cons h a _

@[simp] theorem frames_nil : frames [] = [] := rfl

@[simp] theorem sends_append : sends (g ++ h) = sends g ++ sends h := List.filterMap_append

@[simp] theorem sends_cons : sends (a :: h) = a.sent?.toList ++ sends h := filterMap_cons h a _

@[simp] theorem sends_nil : sends [] = [] := rfl

@[simp] theorem ids_append : ids (g ++ h) = ids g ++ ids h := by simp [ids]

@[simp] theorem statuses_append : statuses (g ++ h) = statuses g ++ statuses h :=
  List.filterMap_append

@[simp] theorem statuses_cons : statuses (a :: h) = a.shown?.toList ++ statuses h :=
  filterMap_cons h a _

@[simp] theorem statuses_nil : statuses [] = [] := rfl

@[simp] theorem outputs_append : outputs (g ++ h) = outputs g ++ outputs h :=
  List.filterMap_append

@[simp] theorem outputs_tell : outputs (out.map .tell) = out := by
  rw [outputs, List.filterMap_map]
  exact List.filterMap_some

@[simp] theorem calls_tell : calls (out.map .tell) = [] := by
  induction out <;> simp_all

@[simp] theorem exchanges_tell : exchanges (out.map .tell) = [] := by
  induction out <;> simp_all

@[simp] theorem commands_tell : commands (out.map .tell) = [] := by
  induction out <;> simp_all

@[simp] theorem callbacks_tell : callbacks (out.map .tell) = [] := by
  induction out <;> simp_all

@[simp] theorem frames_tell : frames (out.map .tell) = [] := by
  induction out <;> simp_all

/-- Frames are written by calls. -/
theorem frames_of_calls {h : History} (none : calls h = []) : frames h = [] := by
  induction h with
  | nil => rfl
  | cons a h ih =>
    cases a with
    | call l => simp at none
    | take | answer | tell => simp_all

end Projections

end History

/-- The connection awaits a stimulus: only a connection that polls is given poll ticks, and its
mode decides which. -/
def Connection.Awaits (c : Connection) : Stimulus → Prop
  | .command _ _ | .clientsGone => True
  | .linkLost => c.watching = true
  | .poll .due => c.channel.isSome ∧ c.options.pollMode ≠ .notify
  | .poll _ => c.channel.isSome ∧ c.options.pollMode = .notify
  | .sweep _ => c.sweeping = true

/-- Where a task stands: it awaits a stimulus or an answer of the link, or it is over. -/
inductive Standing
  | idle (c : Connection)
  | calling (c : Connection) (l : LinkCall) (resume : LinkAnswer l → Progress Unit)
  | ended (c : Connection)

namespace Standing

def connection : Standing → Connection
  | idle c | calling c _ _ | ended c => c

def isCalling : Standing → Bool
  | calling _ _ _ => true
  | idle _ | ended _ => false

/-- Where a task stands that has handled a stimulus at once: nothing follows the end of the
clients. -/
def after (s : Stimulus) : Standing → Standing
  | idle c => match s with
    | .clientsGone => ended c
    | _ => idle c
  | t => t

end Standing

namespace Progress

/-- Where a task stands that has come so far. -/
def standing : Progress Unit → Standing
  | done _ c _ => .idle c
  | waiting c _ l resume => .calling c l resume
  | crashed c _ => .ended c

/-- What it has done to come there. -/
def acts : Progress Unit → History
  | done _ _ out => out.map .tell
  | waiting _ out l _ => out.map .tell ++ [.call l]
  | crashed _ out => out.map .tell

end Progress

/-- A task takes a stimulus that it awaits, or the link answers it, and the task goes on to the next
call or to the end. -/
inductive Standing.Step : Standing → History → Standing → Prop
  | take {c : Connection} {s : Stimulus} (awaits : c.Awaits s) :
    Step (.idle c) (.take s :: (Connection.handle s c).acts)
      ((Connection.handle s c).standing.after s)
  | answer {c : Connection} {l : LinkCall} {resume : LinkAnswer l → Progress Unit}
      (a : LinkAnswer l) :
    Step (.calling c l resume) (.answer l a :: (resume a).acts) (resume a).standing

/-- Steps, one after the other. -/
inductive Standing.Path : Standing → History → Standing → Prop
  | refl {t : Standing} : Path t [] t
  | step {t t' t'' : Standing} {h acts : History} (path : Path t h t') (step : t'.Step acts t'') :
    Path t (h ++ acts) t''

/-- The courses of a connection's task from its start, with all that was done on the way. -/
inductive Connection.Run (options : Options) : History → Standing → Prop
  | start : Run options [] (.idle (.new options))
  | step {h acts : History} {t t' : Standing} (run : Run options h t) (step : t.Step acts t') :
    Run options (h ++ acts) t'

theorem Connection.Run.append {options : Options} {h more : History} {t t' : Standing}
    (run : Run options h t) (path : t.Path more t') : Run options (h ++ more) t' := by
  induction path with
  | refl => rwa [List.append_nil]
  | step path step ih =>
    rw [← List.append_assoc]
    exact .step ih step

end GattRpc
