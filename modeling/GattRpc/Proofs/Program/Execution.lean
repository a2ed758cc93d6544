import GattRpc.Proofs.Program.Truth
import GattRpc.Proofs.Session.Execution

/-! # What is executed is a course

An errand that is run over a link takes one of its courses, and the link has been called, and has
answered, as that course says (`Errand.exists_course`). So the end of every run is true to what was
asked of the link and to its answers (`Errand.reliable`). -/

namespace GattRpc

open Adapter

variable {L : Type} {P : L → Prop} {timer : Option IntervalTimer} {d d' : Dialogue L}
  {patience lines : Nat} {call : ClientCall} {r : CallResult} {mishap : Option Mishap}
  {task : Task}

namespace Dialogue

/-- The dialogue without the link and the timers of its session. -/
def erase (timer : Option IntervalTimer) (d : Dialogue L) : Dialogue Unit where
  session := d.session.erase timer
  lines := d.lines

theorem erase_conclude :
    (d.erase timer).conclude r = ((d.conclude r).1, (d.conclude r).2.erase timer) := by
  cases r with
  | answered response =>
    unfold conclude
    dsimp only
    split <;> rfl
  | connected | sent | closed | failed => rfl

theorem Goes.trans {d d' d'' : Dialogue Unit} {j more : Journal} (goes : Goes d j d')
    (further : Goes d' more d'') : Goes d (j ++ more) d'' := by
  induction further with
  | refl => rwa [List.append_nil]
  | passes further step passing ih =>
    rw [← List.append_assoc]
    exact ih.passes step passing
  | hears further ih =>
    rw [← List.append_assoc]
    exact ih.hears

theorem Goes.passing {d : Dialogue Unit} {j : Journal} {s : Session Unit}
    (path : d.session.Path j s) (passing : ∀ x ∈ j, x.Passes) :
    Goes d j { d with session := s } := by
  induction path with
  | refl => exact .refl
  | step path step ih =>
    obtain ⟨before, now⟩ := List.forall_mem_append.1 passing
    exact (ih before).passes step now

/-- Time passes until it is so late. -/
theorem Goes.waits {d d' : Dialogue Unit} {j : Journal} (goes : Goes d j d') (time : Nat) :
    Goes d (j ++ [.waited (time - d'.session.now)])
      { d' with session := { d'.session with now := max d'.session.now time } } := by
  have later : max d'.session.now time = d'.session.now + (time - d'.session.now) := by omega
  rw [later]
  exact goes.passes (.wait _) (by simp [Record.Passes])

variable [Adapter L]

/-- The session settles, and what it has told is heard. -/
theorem goes_settle (timer : Option IntervalTimer) (answers : Answers P)
    (sound : d.session.engine.Sound P) :
    let d' := { d with session := d.session.settle }.hear
    (∃ j, Goes (d.erase timer) j (d'.erase timer) ∧
      Logs d.session.engine.link j.history d'.session.engine.link) ∧
      d'.session.engine.Sound P := by
  obtain ⟨⟨j, passing, path, logs⟩, sound⟩ := Session.path_runFor timer answers sound
    (d.session.engine.patience + 7 * d.session.queueing.length)
  have goes : Goes (d.erase timer) j ({ d with session := d.session.settle }.erase timer) :=
    .passing path passing
  refine ⟨⟨_, goes.hears, ?_⟩, sound⟩
  rw [Journal.history_append]
  exact (List.append_nil j.history).symm ▸ logs

theorem goes_runUntil {α : Type} {done? : Dialogue L → Option α} {a : α}
    (timer : Option IntervalTimer) (answers : Answers P) (sound : d.session.engine.Sound P)
    (ends : runUntil done? patience d = some (a, d')) :
    (∃ j, Goes (d.erase timer) j (d'.erase timer) ∧
      Logs d.session.engine.link j.history d'.session.engine.link) ∧
      d'.session.engine.Sound P ∧ done? d' = some a := by
  induction patience generalizing d with
  | zero => cases ends
  | succ patience ih =>
    obtain ⟨⟨j, goes, logs⟩, sound⟩ := goes_settle timer answers sound
    rw [runUntil] at ends
    dsimp only at ends
    generalize Dialogue.hear _ = d₁ at *
    cases finished : done? d₁ with
    | some b =>
      rw [finished] at ends
      cases ends
      exact ⟨⟨j, goes, logs⟩, sound, finished⟩
    | none =>
      rw [finished] at ends
      cases due : d₁.session.engine.nextDue with
      | none => simp [due] at ends
      | some time =>
        simp only [due] at ends
        obtain ⟨⟨more, further, logs'⟩, sound, finished⟩ := ih
          (d := { d₁ with session := { d₁.session with now := max d₁.session.now time } }) sound ends
        refine ⟨⟨_, (goes.waits time).trans further, ?_⟩, sound, finished⟩
        rw [Journal.history_append, Journal.history_append]
        exact (List.append_nil j.history).symm ▸ logs.trans logs'

theorem asks_ask (timer : Option IntervalTimer) (answers : Answers P)
    (sound : d.session.engine.Sound P) (ends : d.ask patience call = some (r, d')) :
    (∃ j, Asks call (d.erase timer) r j (d'.erase timer) ∧
      Logs d.session.engine.link j.history d'.session.engine.link) ∧
      d'.session.engine.Sound P := by
  have begun : (d.session.begin call).engine.link = d.session.engine.link := by
    rw [(d.session.begin_eq call).2]
  have sound : (d.session.begin call).engine.Sound P := by
    rw [(d.session.begin_eq call).2]
    exact ⟨sound.link, sound.swept⟩
  obtain ⟨⟨j, goes, logs⟩, sound, returned⟩ := goes_runUntil timer answers sound ends
  have goes : Goes { d.erase timer with session := (d.erase timer).session.begin call } j
      (d'.erase timer) := by
    rw [show (d.erase timer).session.begin call = (d.session.begin call).erase timer from
      Session.erase_begin.symm]
    exact goes
  obtain ⟨before, after, finished, -⟩ := List.lookup_eq_some_iff.1 returned
  have finished : (d.session.made, r) ∈ d'.session.finished := by
    rw [finished]
    exact List.mem_append_right _ List.mem_cons_self
  have silent : Journal.history (.began d.session.made call ::
      ((d.erase timer).session.refusal? call).toList.map (.refused d.session.made) ++ j) =
        j.history := by
    cases (d.erase timer).session.refusal? call <;> rfl
  rw [begun] at logs
  exact ⟨⟨_, .intro goes finished, silent ▸ logs⟩, sound⟩

theorem performs_request {method : String} {params : Option String} {make : Json → ClientCall}
    (timer : Option IntervalTimer) (answers : Answers P) (sound : d.session.engine.Sound P)
    (requests : task.Requests method params make)
    (ends : (match readParams params with
      | .error e => some (some e, d)
      | .ok v => (d.ask patience (make v)).map fun (r, d) => d.conclude r) = some (mishap, d')) :
    (∃ j, Performs (d.erase timer) task j mishap (d'.erase timer) ∧
      Logs d.session.engine.link j.history d'.session.engine.link) ∧
      d'.session.engine.Sound P := by
  cases read : readParams params with
  | error e =>
    rw [read] at ends
    cases ends
    exact ⟨⟨[], .unreadable requests read, .silent rfl rfl⟩, sound⟩
  | ok v =>
    rw [read] at ends
    obtain ⟨⟨r, d₁⟩, asked, concluded⟩ := Option.map_eq_some_iff.1 ends
    obtain ⟨⟨j, asks, logs⟩, sound⟩ := asks_ask timer answers sound asked
    have concluded : d₁.conclude r = (mishap, d') := concluded
    have session : d'.session = d₁.session := by
      have same := session_conclude (d := d₁) (r := r)
      rwa [concluded] at same
    have performs := Performs.asks requests read asks
    rw [erase_conclude, concluded] at performs
    rw [session]
    exact ⟨⟨j, performs, logs⟩, sound⟩

theorem performs_perform (timer : Option IntervalTimer) (answers : Answers P)
    (sound : d.session.engine.Sound P)
    (ends : d.perform patience lines task = some (mishap, d')) :
    (∃ j, Performs (d.erase timer) task j mishap (d'.erase timer) ∧
      Logs d.session.engine.link j.history d'.session.engine.link) ∧
      d'.session.engine.Sound P := by
  cases task with
  | call method params => exact performs_request timer answers sound .call ends
  | notify method params => exact performs_request timer answers sound .notify ends
  | listen =>
    obtain ⟨⟨j, goes, logs⟩, sound, finished⟩ := goes_runUntil timer answers sound ends
    have quit : mishap = none := by
      by_cases enough : lines ≤ d'.lines.length
      · simpa [enough] using finished.symm
      · simp [enough] at finished
    subst quit
    exact ⟨⟨j, .listens goes, logs⟩, sound⟩

end Dialogue

open Dialogue

variable {e : Errand} {link link' : L} {finish : Finish}

/-- A session is made of the options, whatever its link. -/
theorem Session.open?_erase (link : L) (options : Options) :
    Session.open? () options =
      (Session.open? link options).map (.erase (Engine.new () options 0).sweepTimer) := by
  unfold Session.open?
  split <;> rfl

theorem Errand.exists_course [Adapter L] (answers : Answers P) (well : P link)
    (ends : e.run patience lines link = some (link', finish)) :
    ∃ j, e.Course j finish ∧ Logs link j.history link' := by
  have erased := Session.open?_erase link e.settings.options
  generalize (Engine.new () e.settings.options 0).sweepTimer = timer at erased
  unfold Errand.run at ends
  split at ends
  next unopened =>
    cases ends
    rw [unopened] at erased
    exact ⟨[], .unopened erased, .silent rfl rfl⟩
  next s opened =>
    rw [opened] at erased
    have sound := (Session.Follows.opened well opened).sound
    obtain rfl := Session.eq_of_open? opened
    obtain ⟨⟨mishap, d⟩, converses, ends⟩ := Option.bind_eq_some_iff.1 ends
    cases ends
    obtain ⟨⟨r, d₁⟩, connects, converses⟩ := Option.bind_eq_some_iff.1 converses
    obtain ⟨⟨j, asks, logs⟩, sound⟩ := asks_ask timer answers sound connects
    dsimp only at converses
    split at converses
    next err =>
      cases converses
      exact ⟨j, .unconnected erased asks, logs⟩
    next success =>
      obtain ⟨⟨mishap', d₂⟩, carriedOut, converses⟩ := Option.bind_eq_some_iff.1 converses
      obtain ⟨⟨r', d₃⟩, closes, converses⟩ := Option.bind_eq_some_iff.1 converses
      cases converses
      obtain ⟨⟨more, performs, logs'⟩, sound⟩ := performs_perform timer answers sound carriedOut
      obtain ⟨⟨last, asks', logs''⟩, sound⟩ := asks_ask timer answers sound closes
      refine ⟨j ++ more ++ last, .connected erased asks success performs asks', ?_⟩
      rw [Journal.history_append, Journal.history_append]
      exact (logs.trans logs').trans logs''

/-- Whatever an errand is run over, its end is true to what the link was asked and has answered. -/
structure Errand.Reliable (e : Errand) : Prop where
  /-- The end of every course is true to it. -/
  truthful : ∀ j finish, e.Course j finish → e.Truthful j finish
  /-- What is executed is a course. -/
  followed : ∀ {L : Type} [Adapter L] {P : L → Prop}, Answers P →
    ∀ patience lines link link' finish, P link →
      e.run patience lines link = some (link', finish) →
        ∃ j, e.Course j finish ∧ Logs link j.history link'

theorem Errand.reliable (e : Errand) : e.Reliable where
  truthful _ _ course := course.truthful
  followed answers _ _ _ _ _ well ends := exists_course answers well ends

namespace AnsweringLink

variable {l l' : AnsweringLink}

/-- A link that was connected was disconnected once. -/
theorem count_disconnect (streams : PollSource.IsStream l.notifications) (fresh : l.log = [])
    (ends : e.run patience lines l = some (l', finish)) (connected : .connect ∈ l'.log) :
    l'.log.count .disconnect = 1 := by
  obtain ⟨j, course, logs⟩ := Errand.exists_course answers streams ends
  rw [log_of_logs logs, fresh, List.nil_append] at connected ⊢
  rw [List.count_filter (by decide)]
  exact course.truthful.released (List.mem_filter.1 connected).1

-- The code of the response decides how the run ends.
example :
    let service : Service := ⟨rpcService, [⟨inboxUuid, 1⟩, ⟨pollSignalUuid, 2⟩]⟩
    let response (code : Int64) : Response := ⟨"2.0", 1, code, some (.boolean true), none⟩
    let link (code : Int64) : AnsweringLink :=
      { services := [service], peer := "peer", replies := [[Frame.encode (response code).document]] }
    let e : Errand := ⟨.call "ping" none, {}, { octets := [1, 2, 3, 4, 5, 6] }⟩
    let ends (code : Int64) :=
      (e.run 9 0 (link code)).map fun (l, finish) => (l.log.count .disconnect, finish)
    ends 0 = some (1, { code := 0, output := "true\n" }) ∧
      ends 3 = some (1, { code := 1, errors := "Error: peripheral returned code 3\n" }) := by
  decide +kernel

end AnsweringLink

end GattRpc
