import Mathlib

/-! # Checked computations

A program in `Except ε` either returns a value or aborts with an error. The
rules here turn a successful run of such a program into the facts its steps
established, one existential per step, and back. -/
namespace DogetherContracts.Checked

universe u
variable {ε : Type*} {α β : Type u}

/-- Abort with `e` when the condition holds. -/
def rejectIf (c : Prop) [Decidable c] (e : ε) : Except ε Unit :=
  if c then .error e else .ok ()

/-- Read an answer that may be missing, and abort with `e` when it is. -/
def orReject (answer : Option α) (e : ε) : Except ε α :=
  match answer with
  | some a => .ok a
  | none => .error e

theorem bind_ok {x : Except ε α} {f : α → Except ε β} {b : β} :
    (x >>= f) = .ok b ↔ ∃ a, x = .ok a ∧ f a = .ok b := by
  cases x with
  | error e => simp [bind, Except.bind]
  | ok a => simp [bind, Except.bind]

theorem bind_error {x : Except ε α} {f : α → Except ε β} {e : ε} :
    (x >>= f) = .error e ↔ x = .error e ∨ ∃ a, x = .ok a ∧ f a = .error e := by
  cases x with
  | error e => simp [bind, Except.bind]
  | ok a => simp [bind, Except.bind]

theorem pure_ok {a b : α} : (pure a : Except ε α) = .ok b ↔ a = b := by
  simp [pure, Except.pure]

theorem map_ok {x : Except ε α} {f : α → β} {b : β} :
    (f <$> x) = .ok b ↔ ∃ a, x = .ok a ∧ f a = b := by
  cases x with
  | error e => simp [Functor.map, Except.map]
  | ok a => simp [Functor.map, Except.map]

theorem map_error {x : Except ε α} {f : α → β} {e : ε} :
    (f <$> x) = .error e ↔ x = .error e := by
  cases x with
  | error e => simp [Functor.map, Except.map]
  | ok a => simp [Functor.map, Except.map]

theorem map_ok_eq (f : α → β) (a : α) : (f <$> (.ok a : Except ε α)) = .ok (f a) := rfl

@[simp] theorem ok_bind (a : α) (f : α → Except ε β) : ((.ok a : Except ε α) >>= f) = f a := by
  simp only [bind, Except.bind]

@[simp] theorem error_bind (e : ε) (f : α → Except ε β) :
    ((.error e : Except ε α) >>= f) = .error e := by
  simp only [bind, Except.bind]

theorem rejectIf_ok {c : Prop} [Decidable c] {e : ε} {u : Unit} :
    rejectIf c e = .ok u ↔ ¬ c := by
  unfold rejectIf
  split <;> simp_all

@[simp] theorem rejectIf_neg {c : Prop} [Decidable c] (e : ε) (h : ¬ c) :
    rejectIf c e = .ok () := if_neg h

theorem orReject_ok {answer : Option α} {e : ε} {a : α} :
    orReject answer e = .ok a ↔ answer = some a := by
  cases answer <;> simp [orReject]

theorem orReject_error {answer : Option α} {e e' : ε} (h : orReject answer e = .error e') :
    e' = e := by
  cases answer <;> cases h
  rfl

/-! Programs that can fail in one way only. -/

section FailsWith

variable {e : ε} {x : Except ε α}

def FailsWith (x : Except ε α) (e : ε) : Prop := ∀ e', x = .error e' → e' = e

theorem FailsWith.bind {f : α → Except ε β} (first : FailsWith x e)
    (next : ∀ a, x = .ok a → FailsWith (f a) e) : FailsWith (x >>= f) e := by
  intro e' h
  rcases bind_error.mp h with failed | ⟨a, passed, failed⟩
  · exact first e' failed
  · exact next a passed e' failed

theorem FailsWith.map {f : α → β} (h : FailsWith x e) : FailsWith (f <$> x) e :=
  fun e' failed => h e' (map_error.mp failed)

theorem FailsWith.pure (a : α) : FailsWith (pure a : Except ε α) e := by
  intro e' h
  cases h

/-- Without a result there is the error. -/
theorem FailsWith.eq_error (h : FailsWith x e) (none : ¬ ∃ a, x = .ok a) : x = .error e := by
  cases result : x with
  | ok a => exact absurd ⟨a, result⟩ none
  | error e' => rw [h e' result]

end FailsWith

/-- A fold over a list succeeds piece by piece. -/
theorem foldlM_middle_ok (before : List α) {f : β → α → Except ε β} {after : List α} {a : α}
    {b c : β} :
    (before ++ a :: after).foldlM f b = .ok c ↔
      ∃ b₁ b₂, before.foldlM f b = .ok b₁ ∧ f b₁ a = .ok b₂ ∧ after.foldlM f b₂ = .ok c := by
  simp only [List.foldlM_append, List.foldlM_cons, bind_ok]
  constructor
  · rintro ⟨b₁, first, b₂, second, last⟩
    exact ⟨b₁, b₂, first, second, last⟩
  · rintro ⟨b₁, b₂, first, second, last⟩
    exact ⟨b₁, first, b₂, second, last⟩

/-- A program that succeeds on every entry succeeds on the list. -/
theorem mapM_ok {f : α → Except ε β} {g : α → β} {as : List α} (each : ∀ a ∈ as, f a = .ok (g a)) :
    as.mapM f = .ok (as.map g) := by
  induction as with
  | nil => rfl
  | cons a as ih =>
      have rest := ih fun b member => each b (List.mem_cons_of_mem a member)
      rw [List.mapM_cons, each a List.mem_cons_self, rest, ok_bind, ok_bind]
      rfl

/-! Two programs side by side: they fail with the same error, or both return and
their results are related. -/

section Related

variable {α' β' : Type u}

def Related (R : α → α' → Prop) : Except ε α → Except ε α' → Prop
  | .ok a, .ok a' => R a a'
  | .error e, .error e' => e = e'
  | _, _ => False

/-- Both programs start with the same step. -/
theorem Related.same_bind {R : β → β' → Prop} {x : Except ε α} {f : α → Except ε β}
    {g : α → Except ε β'} (next : ∀ a, x = .ok a → Related R (f a) (g a)) :
    Related R (x >>= f) (x >>= g) := by
  cases x with
  | error e =>
      simp only [error_bind]
      exact rfl
  | ok a =>
      simp only [ok_bind]
      exact next a rfl

theorem Related.bind {Q : α → α' → Prop} {R : β → β' → Prop} {x : Except ε α} {y : Except ε α'}
    {f : α → Except ε β} {g : α' → Except ε β'} (start : Related Q x y)
    (next : ∀ a a', x = .ok a → y = .ok a' → Q a a' → Related R (f a) (g a')) :
    Related R (x >>= f) (y >>= g) := by
  cases x with
  | error e =>
      cases y with
      | error e' =>
          simp only [error_bind]
          exact start
      | ok a' => exact start.elim
  | ok a =>
      cases y with
      | error e' => exact start.elim
      | ok a' =>
          simp only [ok_bind]
          exact next a a' rfl rfl start

end Related

/-- Whether a run succeeds with a result of some kind is settled by running it. -/
instance decidableOk (x : Except ε α) (p : α → Prop) [DecidablePred p] :
    Decidable (∃ a, x = .ok a ∧ p a) :=
  match x with
  | .ok a => decidable_of_iff (p a) (by simp)
  | .error e => .isFalse (by simp)

end DogetherContracts.Checked
