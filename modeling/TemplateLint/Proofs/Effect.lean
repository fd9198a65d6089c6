import TemplateLint.Error

/-! What an action that may fail answers and leaves behind, alone or followed by another. -/

namespace TemplateLint

namespace Effect

variable {σ α β γ : Type}

/-- What an action answers, and the state that it leaves behind. -/
def perform (action : ExceptT LintError (StateM σ) α) (state : σ) : Except LintError α × σ :=
  action.run.run state

section Evaluated

variable {ε : Type} {answer : Except ε α}

/-- An answer of which something is told is one that is given. -/
theorem exists_of_toOption_map {tell : α → β} {told : β}
    (evaluated : answer.toOption.map tell = some told) :
    ∃ value, answer = .ok value ∧ tell value = told := by
  cases answer with
  | error error => cases evaluated
  | ok value => exact ⟨value, rfl, Option.some.inj evaluated⟩

/-- An answer that is told is the one that is given. -/
theorem ok_of_toOption {value : α} (evaluated : answer.toOption = some value) :
    answer = .ok value := by
  cases answer with
  | error error => cases evaluated
  | ok own => exact congrArg Except.ok (Option.some.inj evaluated)

end Evaluated

/-- An action that does nothing answers at once. -/
@[simp] theorem perform_pure (value : α) (state : σ) :
    perform (pure value) state = (.ok value, state) :=
  rfl

/-- The state is answered as it is. -/
@[simp] theorem perform_get (state : σ) :
    perform (get : ExceptT LintError (StateM σ) σ) state = (.ok state, state) :=
  rfl

/-- The state is replaced. -/
@[simp] theorem perform_set (next state : σ) :
    perform (set next : ExceptT LintError (StateM σ) PUnit) state = (.ok ⟨⟩, next) :=
  rfl

/-- A failure leaves the state as it is. -/
@[simp] theorem perform_throw (error : LintError) (state : σ) :
    perform (throw error : ExceptT LintError (StateM σ) α) state = (.error error, state) :=
  rfl

/-- What needs no state leaves it as it is. -/
@[simp] theorem perform_lift (result : Except LintError α) (state : σ) :
    perform (liftM result : ExceptT LintError (StateM σ) α) state = (result, state) := by
  cases result <;> rfl

/-- One action after another goes on with what the first leaves behind, unless that one fails. -/
theorem perform_bind (first : ExceptT LintError (StateM σ) α)
    (next : α → ExceptT LintError (StateM σ) β) (state : σ) :
    perform (first >>= next) state =
      match perform first state with
      | (.ok value, left) => perform (next value) left
      | (.error error, left) => (.error error, left) := by
  simp only [perform, ExceptT.run_bind, StateT.run_bind]
  cases answer : first.run.run state with
  | mk result left =>
    cases result <;> rfl

/-- Two actions in turn succeed exactly when the first does and the second does after it. -/
theorem perform_bind_ok {first : ExceptT LintError (StateM σ) α}
    {next : α → ExceptT LintError (StateM σ) β} {state left : σ} {value : β} :
    perform (first >>= next) state = (.ok value, left) ↔
      ∃ own mid, perform first state = (.ok own, mid) ∧
        perform (next own) mid = (.ok value, left) := by
  rw [perform_bind]
  obtain ⟨answer, mid⟩ := perform first state
  -- Only an answer is passed on; a failure ends both actions.
  cases answer with
  | error error => simp
  | ok own =>
    constructor
    · exact fun done => ⟨own, mid, rfl, done⟩
    · rintro ⟨other, later, same, done⟩
      obtain ⟨rfl, rfl⟩ : own = other ∧ mid = later := by simpa using same
      exact done

/-- Two actions in turn fail exactly when the first does, or the second does after it. -/
theorem perform_bind_error {first : ExceptT LintError (StateM σ) α}
    {next : α → ExceptT LintError (StateM σ) β} {state left : σ} {error : LintError} :
    perform (first >>= next) state = (.error error, left) ↔
      perform first state = (.error error, left) ∨
        ∃ own mid, perform first state = (.ok own, mid) ∧
          perform (next own) mid = (.error error, left) := by
  rw [perform_bind]
  obtain ⟨answer, mid⟩ := perform first state
  -- The first failure is the last thing that happens.
  cases answer with
  | error other => simp
  | ok own =>
    constructor
    · exact fun failed => .inr ⟨own, mid, rfl, failed⟩
    · rintro (same | ⟨other, later, same, failed⟩)
      · simp at same
      · obtain ⟨rfl, rfl⟩ : own = other ∧ mid = later := by simpa using same
        exact failed

/-- An action goes on after one that succeeds. -/
theorem perform_bind_of_ok {first : ExceptT LintError (StateM σ) α}
    (next : α → ExceptT LintError (StateM σ) β) {state left : σ} {value : α}
    (done : perform first state = (.ok value, left)) :
    perform (first >>= next) state = perform (next value) left := by
  rw [perform_bind, done]

/-- What an action leaves behind, with its answer turned into another unless it fails. -/
def mapAnswer (turn : α → β) (outcome : Except LintError α × σ) : Except LintError β × σ :=
  (outcome.1.map turn, outcome.2)

/-- The answer of an action that succeeded is turned. -/
@[simp] theorem mapAnswer_ok (turn : α → β) (value : α) (left : σ) :
    mapAnswer turn (.ok value, left) = (.ok (turn value), left) :=
  rfl

/-- An action that failed gives its error still. -/
@[simp] theorem mapAnswer_error (turn : α → β) (error : LintError) (left : σ) :
    mapAnswer turn (.error error, left) = (.error error, left) :=
  rfl

/-- Answers turned twice are turned at once. -/
theorem mapAnswer_mapAnswer (turn : β → γ) (first : α → β) (outcome : Except LintError α × σ) :
    mapAnswer turn (mapAnswer first outcome) =
      mapAnswer (fun value => turn (first value)) outcome := by
  obtain ⟨answer, left⟩ := outcome
  cases answer <;> rfl

/-- An action that ends by turning an answer leaves behind what it did before. -/
theorem perform_bind_pure (first : ExceptT LintError (StateM σ) α) (turn : α → β) (state : σ) :
    perform (first >>= fun value => pure (turn value)) state =
      mapAnswer turn (perform first state) := by
  rw [perform_bind]
  obtain ⟨answer, left⟩ := perform first state
  cases answer <;> rfl

/-- An action keeps what holds of the state, whether it succeeds or fails. -/
def Keeps (invariant : σ → Prop) (action : ExceptT LintError (StateM σ) α) : Prop :=
  ∀ state, invariant state → invariant (perform action state).2

section Keeps

variable {invariant : σ → Prop}

/-- An action that does nothing keeps everything. -/
theorem keeps_pure (value : α) : Keeps invariant (pure value) :=
  fun _ holds => holds

/-- A failure keeps everything. -/
theorem keeps_throw (error : LintError) :
    Keeps invariant (throw error : ExceptT LintError (StateM σ) α) :=
  fun _ holds => holds

/-- Actions in turn keep what the first keeps, and the second after each answer of the first. -/
theorem keeps_bind_of_answer {first : ExceptT LintError (StateM σ) α}
    {next : α → ExceptT LintError (StateM σ) β} (here : Keeps invariant first)
    (there : ∀ value state left, perform first state = (.ok value, left) →
      Keeps invariant (next value)) : Keeps invariant (first >>= next) := by
  intro state holds
  have mid := here state holds
  -- What follows is asked only for an answer that the first action really gives.
  rw [perform_bind]
  cases outcome : perform first state with
  | mk answer left =>
    rw [outcome] at mid
    cases answer with
    | error error => exact mid
    | ok value => exact there value state left outcome left mid

/-- Actions in turn keep what each of them keeps. -/
theorem keeps_bind {first : ExceptT LintError (StateM σ) α}
    {next : α → ExceptT LintError (StateM σ) β} (here : Keeps invariant first)
    (there : ∀ value, Keeps invariant (next value)) : Keeps invariant (first >>= next) :=
  keeps_bind_of_answer here fun value _ _ _ => there value

/-- What follows a look at the state has to keep what holds of the state that was seen. -/
theorem keeps_get_bind {next : σ → ExceptT LintError (StateM σ) β}
    (there : ∀ state, invariant state → invariant (perform (next state) state).2) :
    Keeps invariant (get >>= next) := by
  intro state holds
  rw [perform_bind_of_ok _ (perform_get state)]
  exact there state holds

end Keeps

/-- An action fails with errors of a kind alone, whatever state it starts from. -/
def FailsBy (kind : LintError → Prop) (action : ExceptT LintError (StateM σ) α) : Prop :=
  ∀ state error left, perform action state = (.error error, left) → kind error

section FailsBy

variable {kind : LintError → Prop}

/-- An action that does nothing does not fail. -/
theorem failsBy_pure (value : α) :
    FailsBy kind (pure value : ExceptT LintError (StateM σ) α) := by
  intro state error left failed
  simp at failed

/-- A failure is of its own kind. -/
theorem failsBy_throw {error : LintError} (ours : kind error) :
    FailsBy kind (throw error : ExceptT LintError (StateM σ) α) := by
  intro state other left failed
  obtain rfl : error = other := by simpa using congrArg Prod.fst failed
  exact ours

/-- Actions in turn fail as one of them does. -/
theorem failsBy_bind {first : ExceptT LintError (StateM σ) α}
    {next : α → ExceptT LintError (StateM σ) β} (here : FailsBy kind first)
    (there : ∀ value, FailsBy kind (next value)) : FailsBy kind (first >>= next) := by
  intro state error left failed
  rcases perform_bind_error.mp failed with first | ⟨own, mid, _, second⟩
  · exact here state error left first
  · exact there own mid error left second

/-- What follows a look at the state fails by itself. -/
theorem failsBy_get_bind {next : σ → ExceptT LintError (StateM σ) β}
    (there : ∀ state, FailsBy kind (next state)) : FailsBy kind (get >>= next) :=
  failsBy_bind (fun _ _ _ failed => by simp at failed) there

/-- To replace the state does not fail. -/
theorem failsBy_set (next : σ) :
    FailsBy kind (set next : ExceptT LintError (StateM σ) PUnit) := by
  intro state error left failed
  simp at failed

end FailsBy

end Effect

end TemplateLint
