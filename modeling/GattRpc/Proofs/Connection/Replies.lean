import GattRpc.Proofs.Connection.Runs

/-! # What a task replies

A connection replies to a command once, at the end of its reaction to it, and to nothing else
(`Connection.Reacts.replies`). Along a run the replies are therefore those to the commands that were
taken, in order (`Connection.Run.replied`). A request is written before anything else is done, if at
all (`Connection.Reacts.frames_tail`). -/

namespace GattRpc

@[simp] def Act.reply? : Act → Option (Nat × Reply)
  | tell (.reply ticket r) => some (ticket, r)
  | _ => none

/-- The replies to commands, with their tickets. -/
def History.replies (h : History) : List (Nat × Reply) := h.filterMap Act.reply?

/-- The reply is one to this command. -/
inductive Reply.Answers : Command → Reply → Prop
  | connect {r : Except RpcError Unit} : Answers .connect (.connect r)
  | send {method : String} {params : Json} {callback : Option Callback}
    {r : Except RpcError RequestId} : Answers (.send method params callback) (.send r)
  | close : Answers .close .close

/-- The replies to a stimulus. -/
def Stimulus.Replies (x : Stimulus) (rs : List (Nat × Reply)) : Prop :=
  match x with
  | .command ticket cmd => ∃ r, rs = [(ticket, r)] ∧ Reply.Answers cmd r
  | .clientsGone | .linkLost | .poll _ | .sweep _ => rs = []

/-- Each command was replied to, in order. -/
def History.Replied (h : History) : Prop :=
  List.Forall₂ (fun x y => x.1 = y.1 ∧ Reply.Answers x.2 y.2) h.commands h.replies

/-- Neither is a stimulus taken, nor a frame written, nor a command replied to. -/
def Act.Quiet : Act → Prop
  | take _ | call (.write _ _) | tell (.reply _ _) => False
  | call _ | answer _ _ | tell _ => True

def History.Quiet (h : History) : Prop := ∀ a ∈ h, a.Quiet

variable {options : Options} {c c' : Connection} {g h : History} {x : Stimulus} {t : Standing}

namespace History

@[simp] theorem replies_append : replies (g ++ h) = replies g ++ replies h := List.filterMap_append

@[simp] theorem replies_cons {a : Act} : replies (a :: h) = a.reply?.toList ++ replies h := by
  unfold replies
  rw [List.filterMap_cons]
  cases a.reply? <;> rfl

/-- A command to send ended with what was replied to it. -/
theorem mem_sends {n : Nat} {r : Except RpcError RequestId} :
    (n, r) ∈ h.sends ↔ (n, .send r) ∈ h.replies := by
  rw [sends, replies, List.mem_filterMap, List.mem_filterMap]
  constructor
  · rintro ⟨a, ha, is⟩
    refine ⟨a, ha, ?_⟩
    unfold Act.sent? at is
    split at is
    · cases is
      rfl
    · cases is
  · rintro ⟨a, ha, is⟩
    refine ⟨a, ha, ?_⟩
    unfold Act.reply? at is
    split at is
    · cases is
      rfl
    · cases is

namespace Quiet

theorem nil : Quiet [] := nofun

theorem cons {a : Act} (ha : a.Quiet) (hh : Quiet h) : Quiet (a :: h) :=
  List.forall_mem_cons.2 ⟨ha, hh⟩

theorem append (hg : Quiet g) (hh : Quiet h) : Quiet (g ++ h) :=
  List.forall_mem_append.2 ⟨hg, hh⟩

theorem tell_map {α : Type} {l : List α} {f : α → Output}
    (quiet : ∀ a, Act.Quiet (.tell (f a))) : Quiet ((l.map f).map .tell) := by
  intro a ha
  obtain ⟨o, ho, rfl⟩ := List.mem_map.1 ha
  obtain ⟨b, -, rfl⟩ := List.mem_map.1 ho
  exact quiet b

theorem tail (hh : Quiet h) : Quiet h.tail := fun a ha => hh a (List.mem_of_mem_tail ha)

theorem commands (hh : Quiet h) : h.commands = [] :=
  List.filterMap_eq_nil_iff.2 fun a ha => by
    have quiet := hh a ha
    unfold Act.command?
    split
    · exact quiet.elim
    · rfl

theorem frames (hh : Quiet h) : h.frames = [] :=
  List.filterMap_eq_nil_iff.2 fun a ha => by
    have quiet := hh a ha
    unfold Act.frame?
    split
    · exact quiet.elim
    · rfl

theorem replies (hh : Quiet h) : h.replies = [] :=
  List.filterMap_eq_nil_iff.2 fun a ha => by
    have quiet := hh a ha
    unfold Act.reply?
    split
    · exact quiet.elim
    · rfl

end Quiet

end History

/-! ### A reaction -/

namespace Connection

open History

theorem quiet_released {reason : CloseReason} : Quiet ((c.released reason).map .tell) := by
  rw [released, List.map_append]
  exact .append (.tell_map fun _ => trivial) (.tell_map fun _ => trivial)

theorem quiet_farewell {reason : CloseReason} : Quiet ((c.farewell reason).map .tell) := by
  rw [farewell, List.map_cons, List.map_append]
  refine .cons trivial (.append quiet_released ?_)
  exact .cons trivial (.cons trivial (.cons trivial (.cons trivial .nil)))

theorem quiet_expiry {now timeout : Nat} : Quiet ((c.expiry now timeout).map .tell) := by
  intro a ha
  obtain ⟨o, ho, rfl⟩ := List.mem_map.1 ha
  rcases mem_expiry ho with ⟨x, -, rfl⟩ | rfl <;> trivial

theorem Shuts.quiet {reason : CloseReason} (s : c.Shuts reason h c') : Quiet h := by
  cases s with
  | already => exact .nil
  | now state hangsUp =>
    cases hangsUp with
    | unconnected => exact quiet_farewell
    | connected => exact .cons trivial (.cons trivial quiet_farewell)

theorem NotesError.quiet {e : LinkError} (n : c.NotesError e h c') : Quiet h := by
  cases n with
  | harmless => exact .cons trivial .nil
  | fatal fatal shuts => exact .cons trivial shuts.quiet

theorem StartsPolling.quiet {channel : Channel} {r : Except LinkError Unit}
    (s : c.StartsPolling channel h r) : Quiet h := by
  cases s with
  | notify => exact .cons trivial (.cons trivial .nil)
  | interval => exact .nil

theorem FindsService.quiet {r : Except RpcError Unit} (f : c.FindsService h r c') : Quiet h := by
  cases f with
  | lost result shuts | unusable result unusable shuts =>
    exact .cons trivial (.cons trivial (.cons trivial shuts.quiet))
  | unpolled result usable starts shuts =>
    exact .cons trivial (.cons trivial (starts.quiet.append (.cons trivial shuts.quiet)))
  | found result usable starts =>
    refine .cons trivial (.cons trivial (starts.quiet.append ?_))
    exact .cons trivial (.cons trivial .nil)

theorem Establishes.quiet {r : Except RpcError Unit} (s : c.Establishes h r c') : Quiet h := by
  cases s with
  | already | refused => exact .nil
  | unreachable state result shuts =>
    exact .append (g := [_, _, _, _, _]) (by simp [Quiet, Act.Quiet]) shuts.quiet
  | connected state result finds =>
    exact .append (g := [_, _, _, _, _, _, _]) (by simp [Quiet, Act.Quiet]) finds.quiet

theorem DeliversAll.quiet {ms : List Json} (d : c.DeliversAll ms h c') : Quiet h := by
  induction d with
  | nil => exact .nil
  | cons first rest ih =>
    refine .append ?_ ih
    cases first with
    | answered | orphan | notification => exact .cons trivial .nil
    | unrecognized => exact .nil

theorem Pulls.quiet {channel : Channel} (p : c.Pulls channel h c') : Quiet h := by
  cases p with
  | received a result delivers =>
    refine .cons trivial (.cons trivial (.append ?_ (.cons trivial .nil)))
    exact .append (.tell_map fun _ => trivial) delivers.quiet
  | failed a result notes => exact .cons trivial (.cons trivial notes.quiet)

theorem Signals.quiet {channel : Channel} {payload : List UInt8}
    (s : c.Signals channel payload h c') : Quiet h := by
  cases s with
  | ignored => exact .nil
  | announced something pulls => exact pulls.quiet

theorem Polls.quiet {channel : Channel} {tick : PollTick} (p : c.Polls channel tick h c') :
    Quiet h := by
  cases p with
  | signal signals => exact signals.quiet
  | due a result signals => exact .cons trivial (.cons trivial signals.quiet)
  | failed a result notes => exact .cons trivial (.cons trivial notes.quiet)
  | ended shuts => exact shuts.quiet

/-- Once the frame of a request is written nothing else is, and the reply is still to come. -/
theorem Sends.quiet_tail {method : String} {params : Json} {callback : Option Callback}
    {r : Except RpcError RequestId} (s : c.Sends method params callback h r c') :
    Quiet h.tail ∧ h.commands = [] ∧ h.replies = [] := by
  have dropped {callback : Option Callback} :
      Quiet ((callback.toList.map .discarded).map .tell) := .tell_map fun _ => trivial
  have called {l : LinkCall} {a : LinkAnswer l} {rest : History} (quiet : Quiet rest) :
      Quiet (.answer l a :: rest) ∧ commands (.call l :: .answer l a :: rest) = [] ∧
        History.replies (.call l :: .answer l a :: rest) = [] :=
    ⟨.cons trivial quiet, quiet.commands, quiet.replies⟩
  cases s with
  | refused => exact ⟨dropped.tail, dropped.commands, dropped.replies⟩
  | failed state inUse is a result notes => exact called (notes.quiet.append dropped)
  | written state inUse is a result => exact called (dropped.append (.cons trivial .nil))

/-- A command is replied to once it is carried out, and nothing else is. -/
theorem Reacts.replies (r : c.Reacts x h c') : x.Replies h.replies := by
  have reply {h : History} {ticket : Nat} {y : Reply} (none : h.replies = []) :
      History.replies (h ++ [.tell (.reply ticket y)]) = [(ticket, y)] := by
    rw [replies_append, none]
    rfl
  cases r with
  | connect establishes => exact ⟨_, reply establishes.quiet.replies, .connect⟩
  | send sends => exact ⟨_, reply sends.quiet_tail.2.2, .send⟩
  | close shuts => exact ⟨_, reply shuts.quiet.replies, .close⟩
  | clientsGone shuts | linkLost shuts => exact shuts.quiet.replies
  | poll inUse polls => exact polls.quiet.replies
  | sweep => exact quiet_expiry.replies
  | unlimited => rfl

theorem Reacts.commands (r : c.Reacts x h c') : h.commands = [] := by
  have reply {h : History} {ticket : Nat} {y : Reply} (none : h.commands = []) :
      History.commands (h ++ [.tell (.reply ticket y)]) = [] := by
    rw [commands_append, none]
    rfl
  cases r with
  | connect establishes => exact reply establishes.quiet.commands
  | send sends => exact reply sends.quiet_tail.2.1
  | close shuts => exact reply shuts.quiet.commands
  | clientsGone shuts | linkLost shuts => exact shuts.quiet.commands
  | poll inUse polls => exact polls.quiet.commands
  | sweep => exact History.commands_tell _
  | unlimited => rfl

/-- A frame is written before anything else is done, if at all. -/
theorem Reacts.frames_tail (r : c.Reacts x h c') : History.frames h.tail = [] := by
  have reply {h : History} {ticket : Nat} {y : Reply} (none : frames h.tail = []) :
      frames (h ++ [Act.tell (.reply ticket y)]).tail = [] := by
    cases h with
    | nil => rfl
    | cons a h =>
      rw [List.cons_append, List.tail_cons, frames_append]
      rw [List.tail_cons] at none
      rw [none]
      rfl
  cases r with
  | connect establishes => exact reply establishes.quiet.tail.frames
  | send sends => exact reply sends.quiet_tail.1.frames
  | close shuts => exact reply shuts.quiet.tail.frames
  | clientsGone shuts | linkLost shuts => exact shuts.quiet.tail.frames
  | poll inUse polls => exact polls.quiet.tail.frames
  | sweep => exact quiet_expiry.tail.frames
  | unlimited => rfl

end Connection

/-! ### Runs -/

theorem History.Replied.reacts (k : g.Replied) (r : c.Reacts x h c') :
    History.Replied (g ++ .take x :: h) := by
  have replies := r.replies
  have one : List.Forall₂ (fun x y => x.1 = y.1 ∧ Reply.Answers x.2 y.2)
      (History.commands (.take x :: h)) (History.replies (.take x :: h)) := by
    rw [History.commands_cons, r.commands, History.replies_cons]
    cases x with
    | command ticket cmd =>
      obtain ⟨y, is, answers⟩ := replies
      rw [is]
      exact .cons ⟨rfl, answers⟩ .nil
    | clientsGone | linkLost | poll | sweep =>
      rw [show History.replies h = [] from replies]
      exact .nil
  rw [History.Replied, History.commands_append, History.replies_append]
  exact List.rel_append k one

theorem History.Replied.command_of_mem {n : Nat} {r : Reply} (k : h.Replied)
    (reply : (n, r) ∈ h.replies) : ∃ cmd, (n, cmd) ∈ h.commands ∧ r.Answers cmd := by
  unfold Replied at k
  generalize h.commands = commands at k ⊢
  generalize h.replies = replies at k reply
  induction k with
  | nil => cases reply
  | @cons x y xs ys first rest ih =>
    rcases List.mem_cons.1 reply with is | reply
    · subst is
      obtain ⟨ticket, answers⟩ := first
      exact ⟨x.2, List.mem_cons.2 (.inl (Prod.ext ticket.symm rfl)), answers⟩
    · obtain ⟨cmd, taken, answers⟩ := ih reply
      exact ⟨cmd, List.mem_cons_of_mem _ taken, answers⟩

/-- A task that awaits an answer will await a stimulus again. By then it has taken no other
command, and written nothing more. -/
theorem Standing.Upholds.ahead {J : History → Connection → Prop} (u : t.Upholds J h) :
    ∃ more c, more.commands = [] ∧ more.frames = [] ∧ J (h ++ more) c := by
  cases t with
  | idle c | ended c => exact ⟨[], c, rfl, rfl, by rw [List.append_nil]; exact u⟩
  | calling c l resume =>
    obtain ⟨-, g, c₀, x, part, rfl, -, -, reacting⟩ := u
    let a : LinkAnswer l := ⟨0, .error .notConnected⟩
    obtain ⟨h', c', ends, ⟨d, reacts, -⟩, holds⟩ := (reacting a).exists_end
    have frames : h'.frames = [] := by
      have frames := reacts.frames_tail
      cases part <;> simp_all
    refine ⟨.answer l a :: h', c', ?_, ?_, by simpa using holds⟩
    · rw [History.commands_cons, ends.commands]
      rfl
    · rw [History.frames_cons, frames]
      rfl

/-- A task that awaits a stimulus has replied to all its commands. -/
theorem Connection.Run.replied (mode : options.pollMode ≠ .interval 0) (run : Run options h t) :
    t.Upholds (fun h c => Steady options h c ∧ h.Replied) h :=
  run.upholds mode .nil fun _ k _ r => k.reacts r

/-- Each reply is to a command that was taken. -/
theorem Connection.Run.command_of_reply (mode : options.pollMode ≠ .interval 0)
    (run : Run options h t) {n : Nat} {r : Reply} (reply : (n, r) ∈ h.replies) :
    ∃ cmd, (n, cmd) ∈ h.commands ∧ r.Answers cmd := by
  obtain ⟨more, c, none, -, -, k⟩ := (run.replied mode).ahead
  have later : (n, r) ∈ History.replies (h ++ more) := by
    rw [History.replies_append]
    exact List.mem_append_left _ reply
  obtain ⟨cmd, taken, answers⟩ := k.command_of_mem later
  rw [History.commands_append, none, List.append_nil] at taken
  exact ⟨cmd, taken, answers⟩

end GattRpc
