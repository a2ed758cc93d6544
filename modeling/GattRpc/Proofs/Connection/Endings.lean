import GattRpc.Connection.Task

/-! # The endings of an activity

`x.Ends c h a c'`: begun in `c`, the activity `x` may do `h` and end with the value `a` in `c'`, for
some answers of the link. `x.Safe P h c`: begun in `c` after `h`, whatever the link answers, `x`
does not crash, and `P` holds of the history and the connection at each call that it makes. Both are
worked out here for the steps that activities are made of; what they say of the handlers of a
connection follows from these. -/

namespace GattRpc

namespace Progress

variable {α β γ : Type} {P Q : History → Connection → LinkCall → Prop}

@[simp] theorem after_nil (p : Progress α) : p.after [] = p := by cases p <;> rfl

@[simp] theorem after_after (p : Progress α) (out more : List Output) :
    (p.after more).after out = p.after (out ++ more) := by
  cases p <;> simp [after]

theorem after_bind (p : Progress α) (out : List Output) (f : α → Connection → Progress β) :
    (p.after out).bind f = (p.bind f).after out := by
  cases p with
  | done a c more => exact (after_after (f a c) out more).symm
  | waiting => rfl
  | crashed => rfl

theorem bind_done (p : Progress α) : (p.bind fun a c => done a c []) = p := by
  induction p with
  | done => simp [Progress.bind, after]
  | waiting c out l resume ih => simp [Progress.bind, ih]
  | crashed => rfl

theorem bind_bind (p : Progress α) (f : α → Connection → Progress β)
    (g : β → Connection → Progress γ) :
    (p.bind f).bind g = p.bind fun a c => (f a c).bind g := by
  induction p with
  | done => simp [Progress.bind, after_bind]
  | waiting c out l resume ih => simp [Progress.bind, ih]
  | crashed => rfl

/-- A way to the end, for some answers of the link. -/
inductive Ends : Progress α → History → α → Connection → Prop
  | done {a : α} {c : Connection} {out : List Output} : Ends (.done a c out) (out.map .tell) a c
  | waiting {c c' : Connection} {out : List Output} {l : LinkCall}
      {resume : LinkAnswer l → Progress α} {h : History} {a : α} (answer : LinkAnswer l)
      (rest : Ends (resume answer) h a c') :
    Ends (.waiting c out l resume) (out.map .tell ++ .call l :: .answer l answer :: h) a c'

/-- No crash, and every call at a point where `P` allows it. -/
def Safe (P : History → Connection → LinkCall → Prop) : History → Progress α → Prop
  | _, done _ _ _ => True
  | h, waiting c out l resume =>
    P (h ++ out.map .tell ++ [.call l]) c l ∧
      ∀ answer, (resume answer).Safe P (h ++ out.map .tell ++ [.call l, .answer l answer])
  | _, crashed _ _ => False

theorem ends_after {p : Progress α} {out : List Output} {h : History} {a : α} {c : Connection} :
    (p.after out).Ends h a c ↔ ∃ h', h = out.map .tell ++ h' ∧ p.Ends h' a c := by
  constructor
  · intro e
    cases p with
    | done b d more => cases e; exact ⟨_, by simp, .done⟩
    | waiting d more l resume =>
      rcases e with _ | ⟨answer, rest⟩
      exact ⟨_, by simp, .waiting answer rest⟩
    | crashed d more => cases e
  · rintro ⟨h', rfl, e⟩
    cases e with
    | done => rw [← List.map_append]; exact .done
    | waiting answer rest =>
      rw [← List.append_assoc, ← List.map_append]
      exact .waiting answer rest

theorem ends_bind {p : Progress α} {f : α → Connection → Progress β} {h : History} {b : β}
    {c : Connection} :
    (p.bind f).Ends h b c ↔
      ∃ h₁ a c₁ h₂, p.Ends h₁ a c₁ ∧ (f a c₁).Ends h₂ b c ∧ h = h₁ ++ h₂ := by
  constructor
  · intro e
    induction p generalizing h with
    | done a d out =>
      obtain ⟨h', rfl, rest⟩ := (ends_after (p := f a d)).1 e
      exact ⟨_, a, d, h', .done, rest, rfl⟩
    | waiting d out l resume ih =>
      rcases e with _ | ⟨answer, rest⟩
      obtain ⟨h₁, a, c₁, h₂, e₁, e₂, rfl⟩ := ih answer rest
      exact ⟨_, a, c₁, h₂, .waiting answer e₁, e₂, by simp⟩
    | crashed d out => cases e
  · rintro ⟨h₁, a, c₁, h₂, e₁, e₂, rfl⟩
    induction e₁ with
    | done => exact ends_after.2 ⟨h₂, rfl, e₂⟩
    | waiting answer rest ih => simpa [Progress.bind] using Ends.waiting answer (ih e₂)

theorem safe_after {p : Progress α} {out : List Output} {h : History} :
    (p.after out).Safe P h ↔ p.Safe P (h ++ out.map .tell) := by
  cases p <;> simp [after, Safe]

theorem safe_bind {p : Progress α} {f : α → Connection → Progress β} {h : History} :
    (p.bind f).Safe P h ↔ p.Safe P h ∧ ∀ h' a c, p.Ends h' a c → (f a c).Safe P (h ++ h') := by
  induction p generalizing h with
  | done a d out =>
    simp only [Progress.bind, safe_after, Safe, true_and]
    exact ⟨fun s h' b c e => by cases e; exact s, fun s => s _ _ _ .done⟩
  | waiting d out l resume ih =>
    simp only [Progress.bind, Safe, ih]
    constructor
    · rintro ⟨hP, s⟩
      refine ⟨⟨hP, fun answer => (s answer).1⟩, fun h' b c e => ?_⟩
      rcases e with _ | ⟨answer, rest⟩
      simpa using (s answer).2 _ _ _ rest
    · rintro ⟨⟨hP, s⟩, t⟩
      exact ⟨hP, fun answer =>
        ⟨s answer, fun h' b c e => by simpa using t _ _ _ (.waiting answer e)⟩⟩
  | crashed d out => simp [Progress.bind, Safe]

/-- A progress that does not crash has an end. -/
theorem Safe.exists_ends {p : Progress α} {h : History} (s : p.Safe P h) :
    ∃ h' a c, p.Ends h' a c := by
  induction p generalizing h with
  | done a d out => exact ⟨_, a, d, .done⟩
  | waiting d out l resume ih =>
    let answer : LinkAnswer l := ⟨0, .error .notConnected⟩
    obtain ⟨h', a, c, e⟩ := ih answer (s.2 answer)
    exact ⟨_, a, c, .waiting answer e⟩
  | crashed => exact s.elim

/-- An activity takes no stimulus. -/
theorem Ends.commands {p : Progress α} {h : History} {a : α} {c : Connection} (e : p.Ends h a c) :
    h.commands = [] := by
  induction e with
  | done => exact History.commands_tell _
  | waiting answer rest ih => simp [ih]

end Progress

namespace Activity

variable {α β : Type} {c c' : Connection} {h : History}

instance : LawfulMonad Activity :=
  .mk' Activity (fun x => funext fun c => Progress.bind_done (x c))
    (fun a f => funext fun c => Progress.after_nil (f a c))
    fun x f g => funext fun c => Progress.bind_bind (x c) (fun a => f a) fun b => g b

/-- Begun in `c`, the activity may do `h` and end with `a` in `c'`. -/
def Ends (x : Activity α) (c : Connection) (h : History) (a : α) (c' : Connection) : Prop :=
  (x c).Ends h a c'

/-- Begun in `c` after `h`, the activity does not crash and makes its calls where `P` allows
them. -/
def Safe (P : History → Connection → LinkCall → Prop) (x : Activity α) (h : History)
    (c : Connection) : Prop :=
  (x c).Safe P h

@[simp] theorem ends_pure {a b : α} :
    Ends (pure a : Activity α) c h b c' ↔ h = [] ∧ b = a ∧ c' = c := by
  constructor
  · intro e; cases e; simp
  · rintro ⟨rfl, rfl, rfl⟩; exact .done

theorem ends_bind {x : Activity α} {f : α → Activity β} {b : β} :
    Ends (x >>= f) c h b c' ↔
      ∃ h₁ a c₁ h₂, x.Ends c h₁ a c₁ ∧ (f a).Ends c₁ h₂ b c' ∧ h = h₁ ++ h₂ :=
  Progress.ends_bind

/-- An activity that comes to its end without a call. -/
theorem ends_of_done {x : Activity α} {a b : α} {c₁ : Connection} {out : List Output}
    (done : x c = .done a c₁ out) :
    x.Ends c h b c' ↔ h = out.map .tell ∧ b = a ∧ c' = c₁ := by
  rw [Ends, done]
  constructor
  · intro e; cases e; exact ⟨rfl, rfl, rfl⟩
  · rintro ⟨rfl, rfl, rfl⟩; exact .done

theorem ends_modify {g : Connection → Connection} {u : Unit} :
    (modify g).Ends c h u c' ↔ h = [] ∧ c' = g c := by
  constructor
  · intro e; cases e; exact ⟨rfl, rfl⟩
  · rintro ⟨rfl, rfl⟩; exact .done

theorem ends_tell {out : List Output} {u : Unit} :
    (tell out).Ends c h u c' ↔ h = out.map .tell ∧ c' = c := by
  constructor
  · intro e; cases e; exact ⟨rfl, rfl⟩
  · rintro ⟨rfl, rfl⟩; exact .done

theorem ends_call {l : LinkCall} {answer : LinkAnswer l} :
    (call l).Ends c h answer c' ↔ h = [.call l, .answer l answer] ∧ c' = c := by
  constructor
  · intro e
    rcases e with _ | ⟨answer, rest⟩
    cases rest; exact ⟨rfl, rfl⟩
  · rintro ⟨rfl, rfl⟩; exact .waiting answer .done

@[simp] theorem not_ends_crash {a : α} : ¬ Ends (crash : Activity α) c h a c' := by
  intro e; cases e

section Steps

variable {b : β}

/-- What follows an activity that comes to its end without a call. -/
theorem ends_bind_of_done {x : Activity α} {f : α → Activity β} {a : α} {c₁ : Connection}
    {out : List Output} (done : x c = .done a c₁ out) :
    Ends (x >>= f) c h b c' ↔ ∃ h', h = out.map .tell ++ h' ∧ (f a).Ends c₁ h' b c' := by
  change ((x c).bind _).Ends _ _ _ ↔ _
  rw [done]
  exact Progress.ends_after

@[simp] theorem ends_get_bind {f : Connection → Activity β} :
    Ends (get >>= f) c h b c' ↔ (f c).Ends c h b c' := by
  rw [show (get >>= f) = fun c => (f c c).after [] from rfl]
  simp [Ends]

@[simp] theorem ends_modify_bind {g : Connection → Connection} {f : Unit → Activity β} :
    Ends (modify g >>= f) c h b c' ↔ (f ()).Ends (g c) h b c' := by
  rw [show (modify g >>= f) = fun c => (f () (g c)).after [] from rfl]
  simp [Ends]

@[simp] theorem ends_report_bind {g : LinkStatus → LinkStatus} {f : Unit → Activity β} :
    Ends (report g >>= f) c h b c' ↔
      ∃ h', h = .tell (.shown (g c.status)) :: h' ∧
        (f ()).Ends { c with status := g c.status } h' b c' :=
  Progress.ends_after

@[simp] theorem ends_tell_bind {out : List Output} {f : Unit → Activity β} :
    Ends (tell out >>= f) c h b c' ↔ ∃ h', h = out.map .tell ++ h' ∧ (f ()).Ends c h' b c' :=
  Progress.ends_after

@[simp] theorem ends_call_bind {l : LinkCall} {f : LinkAnswer l → Activity β} :
    Ends (call l >>= f) c h b c' ↔
      ∃ answer h', h = .call l :: .answer l answer :: h' ∧ (f answer).Ends c h' b c' := by
  rw [ends_bind]
  constructor
  · rintro ⟨h₁, answer, c₁, h₂, e₁, e₂, rfl⟩
    obtain ⟨rfl, rfl⟩ := ends_call.1 e₁
    exact ⟨answer, h₂, rfl, e₂⟩
  · rintro ⟨answer, h', rfl, e⟩
    exact ⟨_, answer, c, h', ends_call.2 ⟨rfl, rfl⟩, e, rfl⟩

end Steps

variable {P : History → Connection → LinkCall → Prop}

@[simp] theorem safe_pure {a : α} : Safe P (pure a : Activity α) h c := trivial

theorem safe_bind {x : Activity α} {f : α → Activity β} :
    Safe P (x >>= f) h c ↔
      x.Safe P h c ∧ ∀ h' a c₁, x.Ends c h' a c₁ → (f a).Safe P (h ++ h') c₁ :=
  Progress.safe_bind

@[simp] theorem safe_modify {g : Connection → Connection} : (modify g).Safe P h c := trivial

@[simp] theorem safe_tell {out : List Output} : (tell out).Safe P h c := trivial

@[simp] theorem safe_get_bind {f : Connection → Activity β} :
    Safe P (get >>= f) h c ↔ (f c).Safe P h c := by
  rw [show (get >>= f) = fun c => (f c c).after [] from rfl]
  simp [Safe]

@[simp] theorem safe_modify_bind {g : Connection → Connection} {f : Unit → Activity β} :
    Safe P (modify g >>= f) h c ↔ (f ()).Safe P h (g c) := by
  rw [show (modify g >>= f) = fun c => (f () (g c)).after [] from rfl]
  simp [Safe]

@[simp] theorem safe_report_bind {g : LinkStatus → LinkStatus} {f : Unit → Activity β} :
    Safe P (report g >>= f) h c ↔
      (f ()).Safe P (h ++ [.tell (.shown (g c.status))]) { c with status := g c.status } :=
  Progress.safe_after

@[simp] theorem safe_tell_bind {out : List Output} {f : Unit → Activity β} :
    Safe P (tell out >>= f) h c ↔ (f ()).Safe P (h ++ out.map .tell) c :=
  Progress.safe_after

@[simp] theorem safe_call_bind {l : LinkCall} {f : LinkAnswer l → Activity β} :
    Safe P (call l >>= f) h c ↔
      P (h ++ [.call l]) c l ∧
        ∀ answer, (f answer).Safe P (h ++ [.call l, .answer l answer]) c := by
  rw [safe_bind]
  constructor
  · rintro ⟨s, t⟩
    exact ⟨by simpa using s.1, fun answer => t _ _ _ (ends_call.2 ⟨rfl, rfl⟩)⟩
  · rintro ⟨hP, t⟩
    refine ⟨⟨by simpa using hP, fun _ => trivial⟩, fun h' answer c₁ e => ?_⟩
    obtain ⟨rfl, rfl⟩ := ends_call.1 e
    exact t answer

end Activity

end GattRpc
