import GattRpc.Proofs.Connection.Connecting
import GattRpc.Proofs.Connection.Order
import GattRpc.Proofs.Connection.Transfers

/-! # A task that is asked little

Before its first command a task stands as it did at the start, unless its clients are gone
(`Connection.Run.untouched`). So the reply to a first command to connect tells whether the link has
granted every step (`Connection.Run.first_connect`). A task writes one frame at most for each
command to send (`Connection.Run.frames_length_le`), and tells the id of each frame that the link
has accepted (`Connection.Run.exists_sent`). -/

namespace GattRpc

open Connection History

/-- The link has granted every step of connecting. -/
def History.Connected (options : Options) (h : History) : Prop :=
  ∃ channel xs, Succeeds options.pollMode channel xs ∧ xs <+: h.exchanges

/-- A command to send. -/
def Command.isRequest : Command → Bool
  | send _ _ _ => true
  | connect | close => false

/-- How many requests were asked for. -/
def History.requests (h : History) : Nat := h.commands.countP fun w => w.2.isRequest

variable {options : Options} {mode : PollMode} {channel : Channel} {xs ys : List Exchange}
  {e : LinkError} {err : RpcError} {reason : CloseReason} {g h rest : History} {t : Standing}
  {n : Nat} {y : Reply}

theorem Succeeds.not_prefix (k : Succeeds mode channel ys) (fails : Fails mode e err reason xs) :
    ¬ ys <+: xs := by
  rintro ⟨zs, is⟩
  cases fails with
  | connect =>
    cases k <;> cases is
  | discover =>
    cases k <;> cases is
  | @unusable mode peer services e r lacks =>
    have unusable := resolve_eq_error.2 lacks
    cases k with
    | notify offers => cases is
    | interval offers =>
      cases is
      rw [resolve_eq_ok.2 offers] at unusable
      cases unusable
  | subscribe offers =>
    cases k with
    | notify offers' =>
      obtain ⟨found, is⟩ := List.cons.inj (List.cons.inj is).2
      cases found
      obtain rfl := offers.unique offers'
      cases is

theorem History.not_connected_nil : ¬ History.Connected options [] := by
  rintro ⟨channel, xs, succeeds, early⟩
  obtain rfl : xs = [] := List.prefix_nil.1 early
  generalize options.pollMode = mode at succeeds
  cases succeeds

namespace Connection.Run

/-- A task that was given no command is as it was made. -/
theorem untouched (run : Run options h t) (none : h.commands = [])
    (there : .take .clientsGone ∉ h) : t = .idle (.new options) := by
  induction run with
  | start => rfl
  | step run step ih =>
    rw [commands_append, List.append_eq_nil_iff] at none
    rw [List.mem_append, not_or] at there
    obtain rfl := ih none.1 there.1
    cases step with
    | @take c x awaits =>
      cases x with
      | command n cmd => simp at none
      | clientsGone => exact (there.2 List.mem_cons_self).elim
      | linkLost => cases awaits
      | poll tick => cases tick <;> cases awaits.1
      | sweep now =>
        obtain ⟨mode, timeout, policy, size, limit⟩ := options
        cases timeout <;> rfl

section

variable {c : Connection} {own later : History} {r : Except RpcError Unit}

/-- The run goes on from where the attempt ended. -/
theorem path_of_attempt (whole : Run options
      (g ++ .take (.command n .connect) :: (own ++ .tell (.reply n (.connect r)) :: later)) t)
    (k : Attempted options g n own r c later) : (Standing.idle c).Path later t := by
  rw [List.append_cons own, ← List.cons_append, ← List.append_assoc] at whole
  exact whole.path_from k.stands

/-- After an attempt that failed the connection is closed, and the link has nothing to answer. -/
theorem failed_attempt (zero : options.pollMode ≠ .interval 0)
    (whole : Run options
      (g ++ .take (.command n .connect) :: (own ++ .tell (.reply n (.connect r)) :: later)) t)
    (k : Attempted options g n own r c later) (unasked : g.calls = [] ∧ g.exchanges = [])
    (failed : r = .error err) : t.connection.state = .closed ∧ History.exchanges later = [] := by
  obtain ⟨e, reason, fails⟩ := (k.error_iff err).1 failed
  obtain ⟨gaveUp, silent⟩ := k.closed e err reason fails
  have closed : t.connection.state = .closed :=
    k.stands.closed_of_closed zero gaveUp.state (whole.path_of_attempt k)
  have answered := (whole.awaits_stimulus zero closed).1.answered
  simp [unasked, k.answered, silent] at answered
  exact ⟨closed, answered⟩

end

/-- The first command to connect is replied to with success just if the link grants every step.
Otherwise the connection is closed. -/
theorem first_connect (zero : options.pollMode ≠ .interval 0)
    (run : Run options (g ++ .take (.command n .connect) :: rest) t) (none : g.commands = [])
    (there : .take .clientsGone ∉ g)
    (reply : (n, y) ∈ History.replies (g ++ .take (.command n .connect) :: rest)) :
    ∃ r, (n, .connect r) ∈ History.replies (g ++ .take (.command n .connect) :: rest) ∧
      (r = .ok () ↔ History.Connected options (g ++ .take (.command n .connect) :: rest)) ∧
      ∀ err, r = .error err → t.connection.state = .closed := by
  obtain ⟨c, before, -, -⟩ := run.turn
  cases before.untouched none there
  have untried : g.state = .disconnected := before.state_eq
  have unasked := before.unasked rfl
  rw [replies_append, List.mem_append] at reply
  rcases reply with early | reply
  · obtain ⟨cmd, taken, -⟩ := before.command_of_reply zero early
    rw [none] at taken
    cases taken
  have reply : (n, y) ∈ rest.replies := reply
  obtain ⟨-, ⟨c, l, resume, -, -, -, -, unreplied⟩ | ⟨own, r, c, later, rfl, k⟩⟩ :=
    (run.connecting zero).first g n rest rfl untried
  · rw [unreplied] at reply
    cases reply
  have exchanges : History.exchanges (g ++ .take (.command n .connect) :: (own ++
      .tell (.reply n (.connect r)) :: later)) = own.exchanges ++ History.exchanges later := by
    simp [unasked.2]
  refine ⟨r, by simp, ?_, fun err failed => (run.failed_attempt zero k unasked failed).1⟩
  rw [History.Connected, exchanges]
  constructor
  · intro granted
    obtain ⟨channel, succeeds⟩ := k.ok_iff.1 granted
    exact ⟨channel, _, succeeds, List.prefix_append ..⟩
  · rintro ⟨channel, xs, succeeds, early⟩
    cases r with
    | ok => rfl
    | error err =>
      obtain ⟨e, reason, fails⟩ := (k.error_iff err).1 rfl
      rw [(run.failed_attempt zero k unasked rfl).2, List.append_nil] at early
      exact (succeeds.not_prefix fails early).elim

/-- One frame is written at most on a command to send, and none on another stimulus. -/
theorem frames_length_le (run : Run options h t) : h.frames.length ≤ h.requests := by
  refine run.by_turns (P := fun h => h.frames.length ≤ h.requests) (Nat.le_refl 0) ?_
  intro g rest c x ih before awaits turn
  have frames : History.frames (g ++ .take x :: rest) = g.frames ++ rest.frames := by simp
  have requests : History.requests (g ++ .take x :: rest) = g.requests +
      History.requests (.take x :: rest) := by
    simp [History.requests]
  rw [frames, requests, List.length_append]
  rcases before.frames_of_turn turn with none | ⟨n, method, params, callback, rfl, one⟩
  · rw [none, List.length_nil]
    omega
  · have asked : 1 ≤ History.requests
        (.take (.command n (.send method params callback)) :: rest) := by
      simp [History.requests, Command.isRequest]
    rw [one, List.length_singleton]
    omega

/-- The link answers a call that the task waits for. -/
theorem calling_of_answer {l : LinkCall} {a : LinkAnswer l} (run : Run options h t)
    (is : h = g ++ .answer l a :: rest) : ∃ c resume, Run options g (.calling c l resume) := by
  induction run generalizing rest with
  | start => simp at is
  | @step h acts t t' run step ih =>
    have now (as : History) (before : g = h ++ as) (answered : acts = as ++ .answer l a :: rest) :
        ∃ c resume, Run options g (.calling c l resume) := by
      subst answered
      obtain ⟨b, more, first, -, last⟩ := step.prompted
      cases as with
      | nil =>
        rw [List.append_nil] at before
        subst before
        cases step with
        | answer => exact ⟨_, _, run⟩
      | cons b' as =>
        cases first
        exact (last _ (List.mem_append_right _ List.mem_cons_self) trivial).elim
    rcases List.append_eq_append_iff.1 is with ⟨as, before, answered⟩ | ⟨bs, before, answered⟩
    · exact now as before answered
    · cases bs with
      | nil => exact now [] (by simpa using before.symm) answered.symm
      | cons b bs =>
        cases answered
        exact ih before

theorem sent_of_accepted {method : String} {params : Json} {callback : Option Callback}
    {ch : Characteristic} {data : List UInt8} {a : LinkAnswer (.write ch data)}
    (run : Run options h t) (room : h.frames.length < UInt64.size)
    (is : h = g ++ .take (.command n (.send method params callback)) ::
      .call (.write ch data) :: .answer _ a :: rest)
    (accepted : a.result = .ok ()) : ∃ id, (n, .ok id) ∈ h.sends := by
  subst is
  obtain ⟨own, later, split, next, sending⟩ := run.sending room rfl
  cases sending with
  | refused =>
    cases callback <;> cases split
  | writing =>
    cases split
    obtain ⟨y, is⟩ := next _ rfl
    cases is
  | written =>
    cases split
    refine ⟨.ofNat (g.frames.length + 1), mem_sends.2 (mem_replies.2 (mem_outputs.2 ?_))⟩
    exact List.mem_append_right _ (.tail _ (.tail _ (.tail _ (.tail _ (.head _)))))
  | failing ready a' result | failed ready a' result =>
    cases split
    rw [result] at accepted
    cases accepted

/-- A frame that the link has accepted is that of a request whose sender is told its id. -/
theorem exists_sent {ch : Characteristic} {data : List UInt8} (run : Run options h t)
    (room : h.frames.length < UInt64.size) (written : ⟨.write ch data, .ok ()⟩ ∈ h.exchanges) :
    ∃ n id, (n, .ok id) ∈ h.sends := by
  obtain ⟨a, ha, is⟩ := List.mem_filterMap.1 written
  cases a with
  | answer l a =>
    obtain ⟨time, result⟩ := a
    obtain ⟨g, rest, rfl⟩ := List.append_of_mem ha
    cases is
    obtain ⟨c, resume, calling⟩ := run.calling_of_answer rfl
    obtain ⟨other, -⟩ | ⟨f, x, part, d, channel, rfl, -, -, -, transfers⟩ := calling.transfers
    · exact (other trivial).elim
    cases transfers with
    | @write n method params callback =>
      obtain ⟨id, sent⟩ := run.sent_of_accepted room (List.append_assoc ..) rfl
      exact ⟨n, id, sent⟩
  | take | call | tell => cases is

/-- If at most one request was asked for, the one that was sent has the first id, and its frame is
the only one. -/
theorem lone_of_sent {id : RequestId} (run : Run options h t) (few : h.requests ≤ 1)
    (sent : (n, .ok id) ∈ h.sends) :
    id = 1 ∧ ∃ method params callback ch, (n, .send method params callback) ∈ h.commands ∧
      h.frames = [Frame.encode (Request.new 1 method params).document] ∧
      ⟨.write ch (Frame.encode (Request.new 1 method params).document), .ok ()⟩ ∈ h.exchanges := by
  have one : h.frames.length ≤ 1 := Nat.le_trans run.frames_length_le few
  have room : h.frames.length < UInt64.size := Nat.lt_of_le_of_lt one (by decide)
  obtain ⟨g, method, params, callback, ch, ⟨time, result⟩, shown, later, rfl, rfl, rfl⟩ :=
    (run.returned room n id).1 sent
  have none : g.frames = [] ∧ History.frames later = [] := by
    simp only [frames_append, frames_cons, List.length_append] at one
    simp at one
    constructor <;> refine List.eq_nil_iff_length_eq_zero.2 ?_ <;> omega
  have first : (UInt64.ofNat (g.frames.length + 1) : RequestId) = 1 := by rw [none.1]; rfl
  rw [first]
  refine ⟨rfl, method, params, callback, ch, ?_, ?_, ?_⟩
  · simp
  · simp [none.1, none.2]
  · simp

end Connection.Run

end GattRpc
