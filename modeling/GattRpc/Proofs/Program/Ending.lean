import GattRpc.Proofs.Program.Execution
import GattRpc.Proofs.Session.Rest
import GattRpc.Proofs.Settings.Running

/-! # Every errand ends

Over a link that answers at once a session comes to rest whenever it is let run, and then each call
has returned but those whose request waits for a response. With a time limit such a request is
checked again and again, later each time, until it is too old. So an errand has a result for whoever
is patient enough (`Errand.isSome_run`), unless it is to listen for lines that may never come. -/

namespace GattRpc

open Adapter

variable {L : Type} {P : L → Prop} {options : Options} {j : Journal}
  {patience lines n timeout : Nat} {call : ClientCall} {task : Task}

/-! ### Links -/

namespace AnsweringLink

open PollSource

variable {l : AnsweringLink}

theorem supply_eq (l : AnsweringLink) :
    supply l = ready l.notifications + (l.greeting.length + l.replies.flatten.length) := rfl

theorem supply_bring (l : AnsweringLink) (chunks : List (List UInt8)) :
    supply (l.bring chunks) ≤ supply l + chunks.length := by
  have brought : ready (l.bring chunks).notifications ≤ ready l.notifications + chunks.length := by
    rw [bring]
    rcases l.notifications with _ | ⟨waiting, _ | _⟩ | timer
    · exact Nat.zero_le _
    · simp [ready]
    · exact Nat.le_add_right _ _
    · exact Nat.zero_le _
  rw [supply_eq, supply_eq]
  show _ + (l.greeting.length + l.replies.flatten.length) ≤ _
  omega

theorem supply_perform {call : LinkCall} : supply (l.perform call).1 ≤ supply l := by
  cases call with
  | connect | discover | disconnect => exact Nat.le_refl _
  | subscribe c =>
    refine Nat.le_trans (supply_bring _ _) ?_
    rw [supply_eq, supply_eq]
    show 0 + (0 + l.replies.flatten.length) + _ ≤ _
    omega
  | write c data =>
    have brought := supply_bring { l with replies := l.replies.tail } (l.replies.headD [])
    have taken : supply ({ l with replies := l.replies.tail } : AnsweringLink) +
        (l.replies.headD []).length = supply l := by
      rw [supply_eq, supply_eq, Nat.add_assoc, Nat.add_assoc]
      dsimp only
      cases l.replies with
      | nil => rfl
      | cons chunks replies =>
        rw [List.flatten_cons, List.length_append, Nat.add_comm chunks.length]
        rfl
    rw [taken] at brought
    unfold perform
    dsimp only
    split
    · exact brought
    · exact brought
  | read c =>
    unfold perform
    dsimp only
    split <;> exact Nat.le_refl _

theorem prompt : Prompt fun l : AnsweringLink => IsStream l.notifications where
  toAnswers := answers
  instant _ _ _ := rfl
  started l call _ := by
    show supply (Adapter.start l call).1 ≤ supply l
    simp only [Adapter.start]
    split <;> exact Nat.le_refl _
  finished l call _ := by
    have hungUp : supply (if call.kind = .disconnect then
        { l with lost := none, notifications := none } else l) ≤ supply l := by
      split
      · exact Nat.add_le_add_right (Nat.zero_le _) _
      · exact Nat.le_refl _
    show supply (finishCall l call).1 ≤ supply l
    unfold finishCall
    dsimp only
    split
    · exact hungUp
    · exact Nat.le_trans supply_perform hungUp
  kept _ _ _ _ := rfl

end AnsweringLink

/-! ### Dialogues -/

namespace Dialogue

open Session

/-- So much patience sees a call return. Only a call that waits for a response takes more than one
look, and it may take as many as there are milliseconds until it is given up. -/
def Suffices (options : Options) (patience : Nat) (call : ClientCall) : Prop :=
  0 < patience ∧ ((∃ method params, call = .call method params) →
    ∃ timeout, options.requestTimeout = some timeout ∧ timeout + Options.sweepPeriod < patience)

variable [Adapter L] {d : Dialogue L}

/-- The dialogue once the session has settled and what it has told is heard. -/
def settled (d : Dialogue L) : Dialogue L := { d with session := d.session.settle }.hear

/-- The dialogue once it is so late. -/
def later (d : Dialogue L) (time : Nat) : Dialogue L :=
  { d with session := { d.session with now := max d.session.now time } }

theorem runUntil_of_done {α : Type} {done? : Dialogue L → Option α} {a : α}
    (done : done? d.settled = some a) : runUntil done? (patience + 1) d = some (a, d.settled) := by
  rw [runUntil, show Dialogue.hear _ = d.settled from rfl, done]

theorem runUntil_of_due {α : Type} {done? : Dialogue L → Option α} {due : Nat}
    (undone : done? d.settled = none) (next : d.settled.session.engine.nextDue = some due) :
    runUntil done? (patience + 1) d = runUntil done? patience (d.settled.later due) := by
  rw [runUntil, show Dialogue.hear _ = d.settled from rfl, undone]
  simp only [next]
  rfl

variable (prompt : Prompt P) (mode : options.pollMode ≠ .interval 0)

include prompt mode

theorem exists_settled (k : Idle options P j d.session) :
    d.settled.session.Rests ∧ Passes d.session d.settled.session ∧
      ∃ more, Idle options P (j ++ more) d.settled.session := by
  obtain ⟨rests, passes, more, k⟩ := k.settle prompt mode
  have heard : Passes d.session.settle d.settled.session :=
    ⟨rfl, .of_eq rfl rfl, fun calm => ⟨calm, List.Subset.refl _⟩⟩
  exact ⟨⟨rests.unqueued, rests.polls, rests.sweeps⟩, passes.trans heard, _, k.read.assoc⟩

/-- Each time that is waited for is later, and no request waits after `bound`. -/
theorem exists_returned (limited : options.requestTimeout = some timeout) {bound due : Nat}
    (k : Idle options P j d.session) (rests : d.session.Rests) (began : (n, call) ∈ j.began)
    (young : ∀ p ∈ d.session.engine.connection.correlator.outstanding,
      p.since + timeout + Options.sweepPeriod ≤ bound)
    (later : d.session.now < due) (soon : due ≤ bound) (enough : bound ≤ d.session.now + patience) :
    ∃ r d' more, runUntil (fun d => d.session.finished.lookup n) patience (d.later due) =
      some (r, d') ∧ Idle options P (j ++ more) d'.session := by
  -- Each look that is left stands for a millisecond before the bound.
  induction patience generalizing d j due with
  | zero => omega
  | succ patience ih =>
    obtain ⟨rests', passes, more, k⟩ := exists_settled prompt mode (d := d.later due) (k.waited due)
    cases returned : (d.later due).settled.session.finished.lookup n with
    | some r => exact ⟨r, _, _, runUntil_of_done returned, k.assoc⟩
    | none =>
      have began : (n, call) ∈ (j ++ [Record.waited (due - d.session.now)] ++ more).began :=
        Journal.mem_began_append (Journal.mem_began_append began)
      have young : ∀ p ∈ (d.later due).settled.session.engine.connection.correlator.outstanding,
          p.since + timeout + Options.sweepPeriod ≤ bound :=
        fun p waits => young p ((passes.calm rests.unqueued).2 waits)
      obtain ⟨due', next, later', soon'⟩ := k.exists_due mode limited rests' began returned young
      have clock : (d.later due).settled.session.now = max d.session.now due := passes.now
      obtain ⟨r, d', more', ends, k⟩ := ih k rests' began young later' soon' (by omega)
      exact ⟨r, d', _, (runUntil_of_due returned next).trans ends, k.assoc.assoc⟩

theorem exists_ask (k : Idle options P j d.session) (enough : Suffices options patience call) :
    ∃ r d' more, d.ask patience call = some (r, d') ∧ Idle options P (j ++ more) d'.session := by
  obtain ⟨patient, limited⟩ := enough
  obtain ⟨patience, rfl⟩ := Nat.exists_eq_succ_of_ne_zero patient.ne'
  obtain ⟨rests, passes, more, k⟩ :=
    exists_settled prompt mode (d := { d with session := d.session.begin call }) (k.begin call)
  have began : (d.session.made, call) ∈ Journal.began (j ++ .began d.session.made call ::
      (d.session.refusal? call).toList.map (.refused d.session.made)) := by
    rw [Journal.began_append, (records_begin call).2.1]
    exact List.mem_append_right _ List.mem_cons_self
  rw [ask]
  generalize Dialogue.mk (d.session.begin call) d.lines = d₁ at *
  cases returned : d₁.settled.session.finished.lookup d.session.made with
  | some r => exact ⟨r, _, _, runUntil_of_done returned, k.assoc⟩
  | none =>
    have began : (d.session.made, call) ∈ (_ ++ more).began := Journal.mem_began_append began
    obtain ⟨asks, -⟩ :=
      (k.returned_or_waits mode rests began).resolve_left (by rw [returned]; nofun)
    obtain ⟨timeout, limited, enough⟩ := limited asks
    have young : ∀ p ∈ d₁.settled.session.engine.connection.correlator.outstanding,
        p.since + timeout + Options.sweepPeriod ≤
          d₁.settled.session.now + timeout + Options.sweepPeriod := fun p waits =>
      Nat.add_le_add_right (Nat.add_le_add_right (k.since_le waits) _) _
    obtain ⟨due, next, later, soon⟩ := k.exists_due mode limited rests began returned young
    have enough : d₁.settled.session.now + timeout + Options.sweepPeriod ≤
        d₁.settled.session.now + patience := by omega
    obtain ⟨r, d', more', ends, k⟩ :=
      exists_returned prompt mode limited k rests began young later soon enough
    exact ⟨r, d', _, (runUntil_of_due returned next).trans ends, k.assoc.assoc⟩

theorem exists_request {params : Option String} {make : Json → ClientCall}
    (k : Idle options P j d.session) (enough : ∀ v, Suffices options patience (make v)) :
    ∃ mishap d' more, (match readParams params with
      | .error e => some (some e, d)
      | .ok v => (d.ask patience (make v)).map fun (r, d) => d.conclude r) = some (mishap, d') ∧
        Idle options P (j ++ more) d'.session := by
  cases readParams params with
  | error e => exact ⟨some e, d, [], rfl, by rw [List.append_nil]; exact k⟩
  | ok v =>
    obtain ⟨r, d', more, asked, k⟩ := exists_ask prompt mode k (enough v)
    refine ⟨(d'.conclude r).1, (d'.conclude r).2, more, ?_, ?_⟩
    · dsimp only
      rw [asked]
      rfl
    · rw [session_conclude]
      exact k

end Dialogue

/-- So much patience is enough for an errand. To wait for a response may take a look at each
millisecond until the request is given up; and listening has to stop at once, since nothing is known
of the lines that come. -/
structure Errand.Patient (e : Errand) (patience lines : Nat) : Prop where
  positive : 0 < patience
  awaits : ∀ method params, e.task = .call method params →
    ∃ timeout, e.settings.options.requestTimeout = some timeout ∧
      timeout + Options.sweepPeriod < patience
  listens : e.task = .listen → lines = 0

namespace Errand

open Dialogue Session

variable [Adapter L] {e : Errand} {link : L} {d : Dialogue L}

theorem Patient.enough (patient : e.Patient patience lines)
    (direct : ∀ method params, call ≠ .call method params) :
    Suffices e.settings.options patience call :=
  ⟨patient.positive, fun ⟨method, params, is⟩ => (direct method params is).elim⟩

theorem exists_perform (prompt : Prompt P) (patient : e.Patient patience lines)
    (k : Idle e.settings.options P j d.session) :
    ∃ mishap d' more, d.perform patience lines e.task = some (mishap, d') ∧
      Idle e.settings.options P (j ++ more) d'.session := by
  have mode := e.settings.pollMode_ne_zero
  cases task : e.task with
  | call method params =>
    exact exists_request prompt mode k fun v =>
      ⟨patient.positive, fun _ => patient.awaits method params task⟩
  | notify method params =>
    exact exists_request prompt mode k fun v => patient.enough nofun
  | listen =>
    obtain ⟨patience, rfl⟩ := Nat.exists_eq_succ_of_ne_zero patient.positive.ne'
    obtain rfl := patient.listens task
    obtain ⟨-, -, more, k⟩ := exists_settled prompt mode k
    have stops : (if 0 ≤ d.settled.lines.length then some (none : Option Mishap) else none) =
        some none := if_pos (Nat.zero_le _)
    refine ⟨none, d.settled, more, ?_, k⟩
    rw [Dialogue.perform]
    exact runUntil_of_done stops

/-- Over a link that answers at once an errand ends. -/
theorem isSome_run (prompt : Prompt P) (well : P link) (patient : e.Patient patience lines) :
    (e.run patience lines link).isSome := by
  have mode := e.settings.pollMode_ne_zero
  rw [run]
  split
  next => rfl
  next s opened =>
    have k : Idle e.settings.options P [] s := .opened well opened
    have connect : Suffices e.settings.options patience .connect := patient.enough nofun
    have close : Suffices e.settings.options patience .close := patient.enough nofun
    obtain ⟨r, d, _, connects, k⟩ := exists_ask (d := { session := s }) prompt mode k connect
    rw [converse, connects]
    simp only [Option.bind_eq_bind, Option.bind_some]
    split
    next => rfl
    next =>
      obtain ⟨mishap, d, _, performs, k⟩ := exists_perform prompt patient k
      obtain ⟨r, d, _, closes, -⟩ := exists_ask prompt mode k close
      rw [performs, Option.bind_some, closes]
      rfl

end Errand

/-- Over a link that answers each call at once an errand ends, and its end is true to what the link
was asked and has answered. -/
theorem AnsweringLink.exists_truthful {e : Errand} {l : AnsweringLink}
    (streams : PollSource.IsStream l.notifications) (patient : e.Patient patience lines) :
    ∃ l' finish j, e.run patience lines l = some (l', finish) ∧ e.Truthful j finish ∧
      Logs l j.history l' := by
  obtain ⟨⟨l', finish⟩, ends⟩ :=
    Option.isSome_iff_exists.1 (Errand.isSome_run prompt streams patient)
  obtain ⟨j, course, logs⟩ := Errand.exists_course answers streams ends
  exact ⟨l', finish, j, ends, course.truthful, logs⟩

end GattRpc
