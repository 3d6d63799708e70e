import Mathlib.Order.Basic

set_option autoImplicit false

/-! Reasoning about computations that keep their state when they raise. `Ends`
is the exact outcome predicate of one run; every rule below is an equivalence,
so a computation is executed symbolically by rewriting. -/

namespace Anyserial.Kit

universe u

variable {ε σ α β : Type u}

/-- Run from `s`, the computation `x` either returns a value and a state that
satisfy `returned`, or raises an error in a state that satisfy `raised`. -/
def Ends (x : EStateM ε σ α) (s : σ) (returned : α → σ → Prop) (raised : ε → σ → Prop) : Prop :=
  match x s with
  | .ok value t => returned value t
  | .error error t => raised error t

section Rules

variable {s : σ} {returned : α → σ → Prop} {raised : ε → σ → Prop}

theorem ends_of_ok {x : EStateM ε σ α} {value : α} {t : σ} (ran : x s = .ok value t) :
    Ends x s returned raised ↔ returned value t := by
  simp only [Ends, ran]

theorem ends_of_error {x : EStateM ε σ α} {error : ε} {t : σ} (ran : x s = .error error t) :
    Ends x s returned raised ↔ raised error t := by
  simp only [Ends, ran]

@[simp] theorem ends_pure (value : α) :
    Ends (pure value : EStateM ε σ α) s returned raised ↔ returned value s := Iff.rfl

@[simp] theorem ends_throw (error : ε) :
    Ends (throw error : EStateM ε σ α) s returned raised ↔ raised error s := Iff.rfl

@[simp] theorem ends_bind (x : EStateM ε σ β) (next : β → EStateM ε σ α) :
    Ends (x >>= next) s returned raised ↔
      Ends x s (fun value t => Ends (next value) t returned raised) raised := by
  cases ran : x s with
  | ok value t => simp only [Ends, bind, EStateM.bind, ran]
  | error error t => simp only [Ends, bind, EStateM.bind, ran]

@[simp] theorem ends_map (f : β → α) (x : EStateM ε σ β) :
    Ends (f <$> x) s returned raised ↔ Ends x s (fun value t => returned (f value) t) raised := by
  cases ran : x s with
  | ok value t => simp only [Ends, Functor.map, EStateM.map, ran]
  | error error t => simp only [Ends, Functor.map, EStateM.map, ran]

@[simp] theorem ends_tryCatch (x : EStateM ε σ α) (handler : ε → EStateM ε σ α) :
    Ends (tryCatch x handler) s returned raised ↔
      Ends x s returned (fun error t => Ends (handler error) t returned raised) := by
  cases ran : x s with
  | ok value t => simp only [Ends, tryCatch, tryCatchThe, MonadExceptOf.tryCatch, EStateM.tryCatch, ran]
  | error error t =>
    simp only [Ends, tryCatch, tryCatchThe, MonadExceptOf.tryCatch, EStateM.tryCatch, ran]
    rfl

@[simp] theorem ends_liftExcept (result : Except ε α) :
    Ends (liftExcept result : EStateM ε σ α) s returned raised ↔
      (∀ value, result = .ok value → returned value s) ∧ (∀ error, result = .error error → raised error s) := by
  cases result with
  | ok value => simp [liftExcept]
  | error error =>
    have raises : Ends (liftExcept (.error error) : EStateM ε σ α) s returned raised ↔ raised error s := Iff.rfl
    simp [raises]

@[simp] theorem ends_ite (condition : Prop) [Decidable condition] (x y : EStateM ε σ α) :
    Ends (if condition then x else y) s returned raised ↔
      (condition → Ends x s returned raised) ∧ (¬condition → Ends y s returned raised) := by
  by_cases holds : condition
  · simp [holds]
  · simp [holds]

theorem Ends.mono {x : EStateM ε σ α} {returned' : α → σ → Prop} {raised' : ε → σ → Prop}
    (ends : Ends x s returned raised) (onReturn : ∀ value t, returned value t → returned' value t)
    (onRaise : ∀ error t, raised error t → raised' error t) : Ends x s returned' raised' := by
  unfold Ends at ends ⊢
  cases ran : x s with
  | ok value t => exact onReturn value t (by simpa only [ran] using ends)
  | error error t => exact onRaise error t (by simpa only [ran] using ends)

theorem Ends.and {x : EStateM ε σ α} {returned' : α → σ → Prop} {raised' : ε → σ → Prop}
    (left : Ends x s returned raised) (right : Ends x s returned' raised') :
    Ends x s (fun value t => returned value t ∧ returned' value t)
      (fun error t => raised error t ∧ raised' error t) := by
  unfold Ends at left right ⊢
  cases ran : x s with
  | ok value t => exact ⟨by simpa only [ran] using left, by simpa only [ran] using right⟩
  | error error t => exact ⟨by simpa only [ran] using left, by simpa only [ran] using right⟩

theorem ends_iff {x : EStateM ε σ α} :
    Ends x s returned raised ↔
      (∀ value t, x s = .ok value t → returned value t) ∧ (∀ error t, x s = .error error t → raised error t) := by
  unfold Ends
  cases ran : x s with
  | ok value t => simp
  | error error t => simp

theorem ends_of_forall {x : EStateM ε σ α} (onReturn : ∀ value t, returned value t) (onRaise : ∀ error t, raised error t) :
    Ends x s returned raised := by
  rw [ends_iff]
  exact ⟨fun value t _ => onReturn value t, fun error t _ => onRaise error t⟩

theorem eq_ok_iff_ends {x : EStateM ε σ α} {value : α} {t : σ} :
    x s = .ok value t ↔ Ends x s (fun other u => other = value ∧ u = t) fun _ _ => False := by
  unfold Ends
  cases ran : x s with
  | ok other u => simp
  | error error u => simp

/-- Every run ends. -/
theorem not_ends_nowhere {x : EStateM ε σ α} : ¬Ends x s (fun _ _ => False) fun _ _ => False := by
  unfold Ends
  cases x s with
  | ok value t => exact id
  | error error t => exact id

theorem liftExcept_pure (value : α) : (liftExcept (pure value : Except ε α) : EStateM ε σ α) = pure value := rfl

theorem liftExcept_bind (result : Except ε β) (next : β → Except ε α) :
    (liftExcept (result >>= next) : EStateM ε σ α) = liftExcept result >>= fun value => liftExcept (next value) := by
  cases result with
  | ok value => rfl
  | error error => rfl

end Rules

section StateRules

variable {s : σ} {raised : ε → σ → Prop}

@[simp] theorem ends_get {returned : σ → σ → Prop} :
    Ends (get : EStateM ε σ σ) s returned raised ↔ returned s s := Iff.rfl

@[simp] theorem ends_set {returned : PUnit → σ → Prop} (t : σ) :
    Ends (set t : EStateM ε σ PUnit) s returned raised ↔ returned ⟨⟩ t := Iff.rfl

@[simp] theorem ends_modify {returned : PUnit → σ → Prop} (f : σ → σ) :
    Ends (modify f : EStateM ε σ PUnit) s returned raised ↔ returned ⟨⟩ (f s) := Iff.rfl

end StateRules

/-- Every run of `x` relates its first state to its last one, whichever way it ends. -/
def Keeps (related : σ → σ → Prop) (x : EStateM ε σ α) : Prop :=
  ∀ s, Ends x s (fun _ t => related s t) (fun _ t => related s t)

namespace Keeps

variable {related : σ → σ → Prop}

theorem mono {weaker : σ → σ → Prop} {x : EStateM ε σ α} (kept : Keeps related x)
    (implies : ∀ s t, related s t → weaker s t) : Keeps weaker x :=
  fun s => (kept s).mono (fun _ t => implies s t) (fun _ t => implies s t)

theorem pure [Std.Refl related] (value : α) : Keeps related (Pure.pure value : EStateM ε σ α) :=
  fun s => Std.Refl.refl s

theorem throw [Std.Refl related] (error : ε) : Keeps related (throw error : EStateM ε σ α) :=
  fun s => Std.Refl.refl s

theorem get [Std.Refl related] : Keeps related (get : EStateM ε σ σ) :=
  fun s => Std.Refl.refl s

theorem liftExcept [Std.Refl related] (result : Except ε α) : Keeps related (liftExcept result : EStateM ε σ α) := by
  intro s
  rw [ends_liftExcept]
  exact ⟨fun _ _ => Std.Refl.refl s, fun _ _ => Std.Refl.refl s⟩

theorem map {x : EStateM ε σ β} (f : β → α) (kept : Keeps related x) : Keeps related (f <$> x) := by
  intro s
  rw [ends_map]
  exact kept s

theorem modify {f : σ → σ} (step : ∀ s, related s (f s)) :
    Keeps related (modify f : EStateM ε σ PUnit) :=
  fun s => step s

theorem bind [IsTrans σ related] {x : EStateM ε σ β} {next : β → EStateM ε σ α}
    (first : Keeps related x) (rest : ∀ value, Keeps related (next value)) :
    Keeps related (x >>= next) := by
  intro s
  rw [ends_bind]
  refine (first s).mono (fun value t reached => ?_) (fun _ _ reached => reached)
  exact (rest value t).mono (fun _ _ step => IsTrans.trans _ _ _ reached step)
    (fun _ _ step => IsTrans.trans _ _ _ reached step)

theorem tryCatch [IsTrans σ related] {x : EStateM ε σ α} {handler : ε → EStateM ε σ α}
    (body : Keeps related x) (handled : ∀ error, Keeps related (handler error)) :
    Keeps related (tryCatch x handler) := by
  intro s
  rw [ends_tryCatch]
  refine (body s).mono (fun _ _ reached => reached) (fun error t reached => ?_)
  exact (handled error t).mono (fun _ _ step => IsTrans.trans _ _ _ reached step)
    (fun _ _ step => IsTrans.trans _ _ _ reached step)

theorem ite {condition : Prop} [Decidable condition] {x y : EStateM ε σ α}
    (onTrue : condition → Keeps related x) (onFalse : ¬condition → Keeps related y) :
    Keeps related (if condition then x else y) := by
  by_cases holds : condition
  · simpa only [holds, if_true] using onTrue holds
  · simpa only [holds, if_false] using onFalse holds

end Keeps

/-- Both states look the same under `view`. -/
def SameView {view : Type u} (look : σ → view) (s t : σ) : Prop := look t = look s

instance {view : Type u} (look : σ → view) : Std.Refl (SameView look) := ⟨fun _ => rfl⟩

instance {view : Type u} (look : σ → view) : IsTrans σ (SameView look) := ⟨fun _ _ _ first second => second.trans first⟩

/-- The state in which a run ends, whichever way it ends. -/
def finalState (x : EStateM ε σ α) (s : σ) : σ :=
  match x s with
  | .ok _ t => t
  | .error _ t => t

theorem Ends.finalState {x : EStateM ε σ α} {s : σ} {holds : σ → Prop}
    (ends : Ends x s (fun _ t => holds t) (fun _ t => holds t)) : holds (finalState x s) := by
  unfold Ends at ends
  unfold Kit.finalState
  cases ran : x s with
  | ok value t => simpa only [ran] using ends
  | error error t => simpa only [ran] using ends

def returns (x : EStateM ε σ α) (s : σ) : Bool :=
  match x s with
  | .ok _ _ => true
  | .error _ _ => false

theorem eq_ok_of_returns {x : EStateM ε σ PUnit} {s : σ} (ran : returns x s = true) : x s = .ok ⟨⟩ (finalState x s) := by
  unfold returns at ran
  unfold finalState
  cases ended : x s with
  | ok value t => rfl
  | error error t => simp [ended] at ran

/-- The run raises. -/
def Raises (x : EStateM ε σ α) (s : σ) : Prop := Ends x s (fun _ _ => False) fun _ _ => True

/-- A condition that decides which way the run ends. -/
theorem raises_iff {x : EStateM ε σ α} {s : σ} {returns : Prop} (ends : Ends x s (fun _ _ => returns) fun _ _ => ¬returns) :
    Raises x s ↔ ¬returns := by
  unfold Raises Ends at *
  cases ran : x s with
  | ok value t => simpa [ran] using ends
  | error error t => simpa [ran] using ends

theorem Ends.finalState_of_raises {x : EStateM ε σ α} {s : σ} {returned : α → σ → Prop} {holds : σ → Prop}
    (ends : Ends x s returned fun _ t => holds t) (raises : Raises x s) : holds (Kit.finalState x s) := by
  unfold Raises Ends at raises
  unfold Ends at ends
  unfold Kit.finalState
  cases ran : x s with
  | ok value t => simp only [ran] at raises
  | error error t => simpa only [ran] using ends

section Comparison

variable (forget : σ → σ)

/-- Two runs return the same value, or raise the same error, in states that differ in
what is forgotten at most. -/
def SameUpTo (first second : EStateM.Result ε σ α) : Prop :=
  match first, second with
  | .ok value s, .ok other t => value = other ∧ forget s = forget t
  | .error error s, .error other t => error = other ∧ forget s = forget t
  | _, _ => False

variable {forget}

theorem SameUpTo.refl (run : EStateM.Result ε σ α) : SameUpTo forget run run := by
  cases run with
  | ok value s => exact ⟨rfl, rfl⟩
  | error error s => exact ⟨rfl, rfl⟩

theorem SameUpTo.bind {x : EStateM ε σ β} {next other : β → EStateM ε σ α} {s : σ}
    (same : ∀ value t, SameUpTo forget (next value t) (other value t)) :
    SameUpTo forget ((x >>= next) s) ((x >>= other) s) := by
  cases ran : x s with
  | ok value t => simpa only [Bind.bind, EStateM.bind, ran] using same value t
  | error error t => simpa only [Bind.bind, EStateM.bind, ran] using SameUpTo.refl (.error error t)

theorem SameUpTo.modify {f g : σ → σ} {s : σ} (same : forget (f s) = forget (g s)) :
    SameUpTo forget ((modify f : EStateM ε σ PUnit) s) ((modify g : EStateM ε σ PUnit) s) := ⟨rfl, same⟩

theorem SameUpTo.finalState {x y : EStateM ε σ α} {s t : σ} (same : SameUpTo forget (x s) (y t)) :
    forget (finalState x s) = forget (finalState y t) := by
  unfold Kit.finalState
  cases first : x s with
  | ok value after =>
    cases second : y t with
    | ok other afterwards => simp only [SameUpTo, first, second] at same; exact same.2
    | error error afterwards => simp only [SameUpTo, first, second] at same
  | error error after =>
    cases second : y t with
    | ok value afterwards => simp only [SameUpTo, first, second] at same
    | error other afterwards => simp only [SameUpTo, first, second] at same; exact same.2

end Comparison

section Unaware

/-- The end of a run, in the state after a change. -/
def moveState (change : σ → σ) : EStateM.Result ε σ α → EStateM.Result ε σ α
  | .ok value t => .ok value (change t)
  | .error error t => .error error (change t)

/-- Changing the state first makes no difference to a run but that the change is there at
its end: the run neither looks at what changes nor writes to it. -/
def Unaware (change : σ → σ) (x : EStateM ε σ α) : Prop := ∀ s, x (change s) = moveState change (x s)

namespace Unaware

variable {change : σ → σ}

theorem pure (value : α) : Unaware change (Pure.pure value : EStateM ε σ α) := fun _ => rfl

theorem throw (error : ε) : Unaware change (throw error : EStateM ε σ α) := fun _ => rfl

theorem modify {f : σ → σ} (commutes : ∀ s, f (change s) = change (f s)) :
    Unaware change (modify f : EStateM ε σ PUnit) := by
  intro s
  show EStateM.Result.ok PUnit.unit (f (change s)) = EStateM.Result.ok PUnit.unit (change (f s))
  rw [commutes]

theorem look {look : σ → α} (same : ∀ s, look (change s) = look s) : Unaware change (look <$> get : EStateM ε σ α) :=
  fun s => congrArg (EStateM.Result.ok · (change s)) (same s)

theorem bind {x : EStateM ε σ β} {next : β → EStateM ε σ α} (first : Unaware change x)
    (rest : ∀ value, Unaware change (next value)) : Unaware change (x >>= next) := by
  intro s
  cases ran : x s with
  | ok value t => simpa only [Bind.bind, EStateM.bind, first s, ran, moveState] using rest value t
  | error error t => simp only [Bind.bind, EStateM.bind, first s, ran, moveState]

theorem tryCatch {x : EStateM ε σ α} {handler : ε → EStateM ε σ α} (body : Unaware change x)
    (handled : ∀ error, Unaware change (handler error)) : Unaware change (tryCatch x handler) := by
  intro s
  cases ran : x s with
  | ok value t =>
    simp only [MonadExcept.tryCatch, tryCatchThe, MonadExceptOf.tryCatch, EStateM.tryCatch, body s, ran, moveState]
  | error error t =>
    simp only [MonadExcept.tryCatch, tryCatchThe, MonadExceptOf.tryCatch, EStateM.tryCatch, body s, ran]
    exact handled error t

theorem ite {condition : Prop} [Decidable condition] {x y : EStateM ε σ α} (onTrue : Unaware change x)
    (onFalse : Unaware change y) : Unaware change (if condition then x else y) := by
  by_cases holds : condition
  · simpa only [holds, if_true] using onTrue
  · simpa only [holds, if_false] using onFalse

end Unaware

/-- Ends that differ in nothing but what was changed. -/
theorem SameUpTo.moveState {forget change other : σ → σ} (run : EStateM.Result ε σ α)
    (same : ∀ s, forget (change s) = forget (other s)) :
    SameUpTo forget (Kit.moveState change run) (Kit.moveState other run) := by
  cases run with
  | ok value t => exact ⟨rfl, same t⟩
  | error error t => exact ⟨rfl, same t⟩

end Unaware

end Anyserial.Kit
