import GattRpc.Json.Typed

/-! # What is read as a field

A reader of a field accepts exactly the values that stand for what it gives: an integer in its range,
a text, or null for nothing. A part of a record that may be absent gives nothing if it is. -/

namespace GattRpc

section Results

variable {ε α β : Type} {x : Except ε α} {b : β}

theorem bind_eq_ok {f : α → Except ε β} : (x >>= f) = .ok b ↔ ∃ a, x = .ok a ∧ f a = .ok b := by
  cases x <;> simp [bind, Except.bind]

theorem map_eq_ok {f : α → β} : f <$> x = .ok b ↔ ∃ a, x = .ok a ∧ f a = b := by
  cases x <;> simp [Functor.map, Except.map]

end Results

namespace Found

variable {f : Found}

theorem toUInt64_eq_ok {wanted : Wanted} {n : UInt64} :
    f.toUInt64 wanted = .ok n ↔ f = .integer n.toNat := by
  cases f with
  | integer i =>
    rw [toUInt64, Found.integer.injEq]
    split
    next range =>
      rw [Except.ok.injEq, ← UInt64.toNat_inj]
      have small : i.toNat < UInt64.size := (Int.toNat_lt range.1).2 range.2
      rw [UInt64.toNat_ofNat_of_lt' small]
      omega
    next range =>
      have bound := n.toNat_lt
      exact iff_of_false nofun (by omega)
  | null | boolean | float | string | sequence | map => exact iff_of_false nofun nofun

theorem toInt64_eq_ok {n : Int64} : f.toInt64 = .ok n ↔ f = .integer n.toInt := by
  cases f with
  | integer i =>
    rw [toInt64, Found.integer.injEq]
    split
    next range =>
      rw [Except.ok.injEq, ← Int64.toInt_inj, Int64.toInt_ofInt_of_le range.1 range.2, eq_comm]
    next range =>
      have low := n.le_toInt
      have high := n.toInt_lt
      exact iff_of_false nofun (by omega)
  | null | boolean | float | string | sequence | map => exact iff_of_false nofun nofun

theorem toText_eq_ok {s : String} : f.toText = .ok s ↔ f = .string s := by
  cases f <;> simp [toText]

end Found

namespace Json

variable {α : Type} {read : Json → Except Mismatch α} {v : Json} {a : α}

/-- The value is this integer. -/
def IsInteger (v : Json) (i : Int) : Prop := ∃ fits, v = .number (.integer i fits)

theorem found_eq_integer {i : Int} : v.found = .integer i ↔ v.IsInteger i := by
  constructor
  · intro h
    cases v with
    | number n =>
      cases n with
      | integer j fits =>
        cases h
        exact ⟨fits, rfl⟩
      | float => cases h
    | null | boolean | string | array | object => cases h
  · rintro ⟨fits, rfl⟩
    rfl

theorem found_eq_string {s : String} : v.found = .string s ↔ v = .string s := by
  unfold found
  split <;> simp_all

theorem toUInt64_eq_ok {n : UInt64} : v.toUInt64 = .ok n ↔ v = .ofUInt64 n := by
  rw [toUInt64, Found.toUInt64_eq_ok, found_eq_integer]
  exact ⟨fun ⟨_, is⟩ => is, fun is => ⟨_, is⟩⟩

theorem toInt64_eq_ok {n : Int64} : v.toInt64 = .ok n ↔ v = .ofInt64 n := by
  rw [toInt64, Found.toInt64_eq_ok, found_eq_integer]
  exact ⟨fun ⟨_, is⟩ => is, fun is => ⟨_, is⟩⟩

theorem ofInt64_inj {i j : Int64} : ofInt64 i = ofInt64 j ↔ i = j := by
  simp [ofInt64, Int64.toInt_inj]

theorem toText_eq_ok {s : String} : v.toText = .ok s ↔ v = .string s := by
  rw [toText, Found.toText_eq_ok, found_eq_string]

/-- What is read as a field that may be null. -/
theorem toOption_eq_ok {o : Option α} : toOption read v = .ok o ↔
    v = .null ∧ o = none ∨ v ≠ .null ∧ ∃ a, read v = .ok a ∧ some a = o := by
  unfold toOption
  split
  next => simp [eq_comm]
  next given => simp [show v ≠ .null from given, map_eq_ok]

/-- What is read as a part of a record that may be absent. -/
def Gives (read : Json → Except Mismatch α) (w : Option Json) (o : Option α) : Prop :=
  Option.Rel (fun v a => read v = .ok a) w o

variable {w : Option Json} {o : Option α} {members : List (String × Json)} {items : List Json}

theorem gives_iff : (match w with
    | none => Except.ok none
    | some v => some <$> read v) = .ok o ↔ Gives read w o := by
  cases w with
  | none =>
    refine ⟨fun h => ?_, fun h => ?_⟩
    · cases h
      exact .none
    · cases h
      rfl
  | some v =>
    rw [map_eq_ok]
    refine ⟨fun ⟨a, reads, is⟩ => is ▸ .some reads, fun h => ?_⟩
    cases h with
    | some reads => exact ⟨_, reads, rfl⟩

theorem field?_eq_ok {name : String} :
    field? members name read = .ok o ↔ Gives read (members.lookup name) o := gives_iff

theorem item?_eq_ok {place : Nat} :
    item? items place read = .ok o ↔ Gives read items[place]? o := gives_iff

theorem noMoreThan_eq_ok {size : Nat} {u : Unit} :
    noMoreThan size items = .ok u ↔ items.length ≤ size := by
  unfold noMoreThan
  split
  next few => exact iff_of_true rfl few
  next many => exact iff_of_false nofun many

theorem gives_map {write : α → Json} (h : ∀ v a, read v = .ok a ↔ v = write a) :
    Gives read w o ↔ w = o.map write := by
  constructor
  · rintro (reads | _)
    · exact congrArg some ((h _ _).1 reads)
    · rfl
  · rintro rfl
    cases o with
    | none => exact .none
    | some a => exact .some ((h _ _).2 rfl)

theorem gives_uint64 {o : Option UInt64} : Gives toUInt64 w o ↔ w = o.map ofUInt64 :=
  gives_map fun _ _ => toUInt64_eq_ok

theorem gives_int64 {o : Option Int64} : Gives toInt64 w o ↔ w = o.map ofInt64 :=
  gives_map fun _ _ => toInt64_eq_ok

theorem gives_text {o : Option String} : Gives toText w o ↔ w = o.map string :=
  gives_map fun _ _ => toText_eq_ok

theorem gives_value {o : Option Json} : Gives .ok w o ↔ w = o := by
  have h : Gives .ok w o ↔ w = o.map id := gives_map fun _ _ => by rw [Except.ok.injEq, id]
  rwa [Option.map_id] at h

/-- A text that may be absent stands for itself or for the default. -/
theorem gives_text_getD {s default : String} :
    (∃ o, Gives toText w o ∧ o.getD default = s) ↔ w.getD (string default) = string s := by
  simp only [gives_text]
  constructor
  · rintro ⟨o, rfl, rfl⟩
    cases o <;> rfl
  · intro h
    rcases w with _ | v
    · cases h
      exact ⟨none, rfl, rfl⟩
    · exact ⟨some s, congrArg some h, rfl⟩

/-- A part that is there and not null. -/
def nonNull (w : Option Json) : Option Json := w.filter fun v => !v.isNull

@[simp] theorem nonNull_none : nonNull none = none := rfl

@[simp] theorem nonNull_null : nonNull (some .null) = none := rfl

@[simp] theorem nonNull_ofInt64 (i : Int64) : nonNull (some (ofInt64 i)) = some (ofInt64 i) := rfl

theorem nonNull_some (h : v ≠ .null) : nonNull (some v) = some v := by
  cases v <;> simp_all [nonNull, isNull]

theorem nonNull_eq_some : nonNull w = some v ↔ w = some v ∧ v ≠ .null := by
  constructor
  · intro h
    obtain ⟨is, given⟩ := Option.filter_eq_some_iff.1 h
    refine ⟨is, ?_⟩
    rintro rfl
    cases given
  · rintro ⟨rfl, given⟩
    exact nonNull_some given

/-- Null counts as absent. -/
theorem gives_toOption : (∃ x, Gives (toOption read) w x ∧ x.join = o) ↔
    Gives read (nonNull w) o := by
  constructor
  · rintro ⟨x, gives, rfl⟩
    cases gives with
    | none => exact .none
    | some reads =>
      rcases toOption_eq_ok.1 reads with ⟨rfl, rfl⟩ | ⟨given, b, reads_b, rfl⟩
      · exact .none
      · rw [nonNull_some given]
        exact .some reads_b
  · intro gives
    rcases w with _ | v
    · cases gives
      exact ⟨none, .none, rfl⟩
    · by_cases null : v = .null
      · subst null
        cases gives
        exact ⟨some none, .some rfl, rfl⟩
      · rw [nonNull_some null] at gives
        cases gives with
        | some reads =>
          exact ⟨some (some _), .some (toOption_eq_ok.2 (.inr ⟨null, _, reads, rfl⟩)), rfl⟩

end Json

end GattRpc
