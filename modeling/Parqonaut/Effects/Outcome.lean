import Parqonaut.Effects.Program

/-!
# Outcomes of programs

The results and final states that a program can end with, failing calls included, and the inversion
rules along its sequencing. Programs over two services are programs over their sum.
-/

namespace Parqonaut.Effects

open Program

variable {Req : Type} {Resp : Req → Type} {State ε ε' α β : Type}
  {service : Service Req Resp State} {state after : State} {value : α}

namespace Program

/-- The program, started in one state, can end with a value in another state. -/
inductive Ends (service : Service Req Resp State) :
    Program Req Resp α → State → α → State → Prop where
  | done {value : α} {state : State} : Ends service (.done value) state value state
  | call {request : Req} {next : Resp request → Program Req Resp α} {state mid after : State}
      {answer : Resp request} {value : α}
      (answers : service.Answers request state answer mid)
      (rest : Ends service (next answer) mid value after) :
      Ends service (.call request next) state value after

@[simp] lemma ends_done {result : α} :
    Ends service (.done value : Program Req Resp α) state result after ↔
      result = value ∧ after = state := by
  constructor
  · intro ends
    cases ends
    exact ⟨rfl, rfl⟩
  · rintro ⟨rfl, rfl⟩
    exact .done

lemma ends_call {request : Req} {next : Resp request → Program Req Resp α} :
    Ends service (.call request next) state value after ↔
      ∃ answer mid, service.Answers request state answer mid ∧
        Ends service (next answer) mid value after := by
  constructor
  · intro ends
    cases ends with
    | call answers rest => exact ⟨_, _, answers, rest⟩
  · rintro ⟨_, _, answers, rest⟩
    exact .call answers rest

variable {prog : Program Req Resp α}

lemma ends_bind {cont : α → Program Req Resp β} {value : β} :
    Ends service (prog >>= cont) state value after ↔
      ∃ first mid, Ends service prog state first mid ∧
        Ends service (cont first) mid value after := by
  induction prog generalizing state with
  | done first =>
    rw [done_bind]
    constructor
    · intro continues
      exact ⟨first, state, .done, continues⟩
    · rintro ⟨_, mid, ends, continues⟩
      obtain ⟨rfl, rfl⟩ := ends_done.mp ends
      exact continues
  | call _ _ ih =>
    rw [call_bind, ends_call]
    constructor
    · rintro ⟨answer, mid, answers, rest⟩
      obtain ⟨first, middle, ends, continues⟩ := (ih answer).mp rest
      exact ⟨first, middle, .call answers ends, continues⟩
    · rintro ⟨first, middle, ends, continues⟩
      obtain ⟨answer, mid, answers, rest⟩ := ends_call.mp ends
      exact ⟨answer, mid, answers, (ih answer).mpr ⟨first, middle, rest, continues⟩⟩

/-- The fault-free run is one of the outcomes. -/
lemma ends_run (service : Service Req Resp State) (prog : Program Req Resp α) (state : State) :
    Ends service prog state (prog.run service state).1 (prog.run service state).2 := by
  induction prog generalizing state with
  | done => exact .done
  | call request _ ih =>
    exact .call (service.answers_served request state) (ih _ _)

/-- What can happen without faults can happen. -/
lemma Ends.of_reliable (ends : Ends service.reliable prog state value after) :
    Ends service prog state value after := by
  induction ends with
  | done => exact .done
  | call answers _ rest => exact .call (.inl (Service.answers_reliable.mp answers)) rest

/-- What a specification promises holds of every outcome. -/
lemma Ends.post {rel : State → State → Prop} {post : α → State → Prop}
    (ends : Ends service prog state value after)
    (holds : prog.wp service rel post state) : post value after := by
  induction ends with
  | done => exact wp_done.mp holds
  | call answers _ ih => exact ih (wp_call.mp holds _ _ answers).2

end Program

namespace Fallible

/-- The program, started in one state, can return a value in another state. -/
def Returns (service : Service Req Resp State) (prog : Fallible Req Resp ε α)
    (state : State) (value : α) (after : State) : Prop :=
  Ends service prog.run state (.ok value) after

variable {result : α}

@[simp] lemma returns_pure :
    Returns service (pure value : Fallible Req Resp ε α) state result after ↔
      result = value ∧ after = state := by
  rw [Returns, run_pure_eq, ends_done, Except.ok.injEq]

lemma returns_value : Returns service (pure value : Fallible Req Resp ε α) state value state :=
  returns_pure.mpr ⟨rfl, rfl⟩

lemma Returns.of_pure
    (returns : Returns service (pure value : Fallible Req Resp ε α) state result after) :
    (result, after) = (value, state) :=
  Prod.ext_iff.mpr (returns_pure.mp returns)

variable {error : ε}

@[simp] lemma not_returns_throw :
    ¬Returns service (throw error : Fallible Req Resp ε α) state result after := by
  rw [Returns, run_throw_eq, ends_done]
  rintro ⟨never, _⟩
  cases never

lemma Returns.of_throw
    (returns : Returns service (throw error : Fallible Req Resp ε α) state result after) : False :=
  not_returns_throw returns

variable {prog : Fallible Req Resp ε α} {cont : α → Fallible Req Resp ε β}

lemma returns_bind {value : β} : Returns service (prog >>= cont) state value after ↔
      ∃ first mid, Returns service prog state first mid ∧
        Returns service (cont first) mid value after := by
  rw [Returns, ExceptT.run_bind, ends_bind]
  constructor
  · rintro ⟨result, mid, ends, continues⟩
    cases result with
    | ok first => exact ⟨first, mid, ends, continues⟩
    | error => cases (ends_done.mp continues).1
  · rintro ⟨first, mid, ends, continues⟩
    exact ⟨.ok first, mid, ends, continues⟩

lemma Returns.of_bind {value : β} (returns : Returns service (prog >>= cont) state value after) :
    ∃ first mid, Returns service prog state first mid ∧
      Returns service (cont first) mid value after :=
  returns_bind.mp returns

lemma Returns.bind {mid : State} {result : β} (first : Returns service prog state value mid)
    (rest : Returns service (cont value) mid result after) :
    Returns service (prog >>= cont) state result after :=
  returns_bind.mpr ⟨value, mid, first, rest⟩

variable {request : Req}

lemma returns_request_bind {cont : Resp request → Fallible Req Resp ε β} {value : β} :
    Returns service (Fallible.request request >>= cont) state value after ↔
      ∃ answer mid, service.Answers request state answer mid ∧
        Returns service (cont answer) mid value after := by
  rw [Returns, run_request_bind, ends_call]
  rfl

lemma returns_attempt_bind {cont : Except ε α → Fallible Req Resp ε β} {value : β} :
    Returns service (attempt prog >>= cont) state value after ↔
      ∃ result mid, Ends service prog.run state result mid ∧
        Returns service (cont result) mid value after := by
  rw [Returns, run_attempt_bind, ends_bind]
  rfl

lemma returns_lift {prog : Program Req Resp α} :
    Returns service (ExceptT.lift prog : Fallible Req Resp ε α) state value after ↔
      Ends service prog state value after := by
  rw [Returns, ExceptT.run_lift, map_eq_pure_bind, ends_bind]
  constructor
  · rintro ⟨_, _, ends, returned⟩
    obtain ⟨equal, rfl⟩ := ends_done.mp returned
    cases equal
    exact ends
  · intro ends
    exact ⟨value, after, ends, .done⟩

variable {convert : ε → ε'}

lemma ends_mapErr {result : Except ε' α} :
    Ends service (mapErr convert prog).run state result after ↔
      ∃ raised, Ends service prog.run state raised after ∧ result = raised.mapError convert := by
  change Ends service (prog.run >>= fun raised => .done (raised.mapError convert))
    state result after ↔ _
  rw [ends_bind]
  constructor
  · rintro ⟨raised, _, ends, mapped⟩
    obtain ⟨equal, rfl⟩ := ends_done.mp mapped
    exact ⟨raised, ends, equal⟩
  · rintro ⟨raised, ends, equal⟩
    exact ⟨raised, after, ends, ends_done.mpr ⟨equal, rfl⟩⟩

lemma returns_mapErr : Returns service (mapErr convert prog) state value after ↔
      Returns service prog state value after := by
  rw [Returns, ends_mapErr]
  constructor
  · rintro ⟨raised, ends, equal⟩
    cases raised with
    | ok =>
      cases equal
      exact ends
    | error => cases equal
  · intro returns
    exact ⟨.ok value, returns, rfl⟩

lemma Returns.of_reliable (returns : Returns service.reliable prog state value after) :
    Returns service prog state value after :=
  Ends.of_reliable returns

/-- What the fault-free evaluation returns, the program can return. -/
lemma returns_of_eval (evaluates : eval service prog state = (.ok value, after)) :
    Returns service prog state value after := by
  have ends := ends_run service prog.run state
  rw [show prog.run.run service state = (.ok value, after) from evaluates] at ends
  exact ends

/-- An evaluation whose result passes a test is a run that returns such a result. -/
lemma exists_returns_of_eval {good : α → State → Bool}
    (evaluates : (eval service prog state).1.toOption.any
      (good · (eval service prog state).2) = true) :
    ∃ value after, Returns service prog state value after ∧ good value after = true := by
  cases result : (eval service prog state).1 with
  | error => simp [result, Except.toOption] at evaluates
  | ok value =>
    rw [result] at evaluates
    exact ⟨value, _, returns_of_eval (Prod.ext result rfl), evaluates⟩

/-- The program, started in one state, can fail in another state. -/
def Fails (service : Service Req Resp State) (prog : Fallible Req Resp ε α)
    (state : State) (error : ε) (after : State) : Prop :=
  Ends service prog.run state (.error error) after

@[simp] lemma fails_throw {raised : ε} :
    Fails service (throw raised : Fallible Req Resp ε α) state error after ↔
      error = raised ∧ after = state := by
  rw [Fails, run_throw_eq, ends_done, Except.error.injEq]

lemma fails_bind : Fails service (prog >>= cont) state error after ↔
      Fails service prog state error after ∨ ∃ first mid, Returns service prog state first mid ∧
          Fails service (cont first) mid error after := by
  rw [Fails, ExceptT.run_bind, ends_bind]
  constructor
  · rintro ⟨result, mid, ends, continues⟩
    cases result with
    | ok first => exact .inr ⟨first, mid, ends, continues⟩
    | error =>
      obtain ⟨same, rfl⟩ := ends_done.mp continues
      cases same
      exact .inl ends
  · rintro (fails | ⟨first, mid, returns, continues⟩)
    · exact ⟨.error error, after, fails, .done⟩
    · exact ⟨.ok first, mid, returns, continues⟩

lemma fails_request_bind {cont : Resp request → Fallible Req Resp ε β} :
    Fails service (Fallible.request request >>= cont) state error after ↔
      ∃ answer mid, service.Answers request state answer mid ∧
        Fails service (cont answer) mid error after := by
  rw [Fails, run_request_bind, ends_call]
  rfl

lemma fails_mapErr {error : ε'} : Fails service (mapErr convert prog) state error after ↔
      ∃ raised, Fails service prog state raised after ∧ convert raised = error := by
  rw [Fails, ends_mapErr]
  constructor
  · rintro ⟨result, ends, equal⟩
    cases result with
    | ok => cases equal
    | error raised =>
      cases equal
      exact ⟨raised, ends, rfl⟩
  · rintro ⟨raised, fails, rfl⟩
    exact ⟨.error raised, fails, rfl⟩

/-- Error that a computation ended with. -/
def errorOf : Except ε α → Option ε
  | .ok _ => none
  | .error error => some error

/-- An evaluation to an error is a run that fails with it. -/
lemma fails_of_eval (evaluates : errorOf (eval service prog state).1 = some error) :
    ∃ after, Fails service prog state error after := by
  have ends := ends_run service prog.run state
  cases result : (eval service prog state).1 with
  | ok => simp [result, errorOf] at evaluates
  | error raised =>
    rw [show (prog.run.run service state).1 = .error raised from result] at ends
    rw [result, errorOf, Option.some.injEq] at evaluates
    exact ⟨_, evaluates ▸ ends⟩

/-- An evaluation to an error in a state that passes a test is a run that fails so. -/
lemma exists_fails_of_eval {good : State → Bool}
    (evaluates : ((eval service prog state).1.toOption.isNone &&
      good (eval service prog state).2) = true) :
    ∃ error after, Fails service prog state error after ∧ good after = true := by
  obtain ⟨failed, passes⟩ := (Bool.and_eq_true _ _).mp evaluates
  have ends := ends_run service prog.run state
  cases result : (eval service prog state).1 with
  | ok => simp [result, Except.toOption] at failed
  | error error =>
    rw [show (prog.run.run service state).1 = .error error from result] at ends
    exact ⟨error, _, ends, passes⟩

end Fallible

/-! ## Calls that do not fail -/

/-- Same service while the calls for some requests do not fail. -/
def Service.sparing (service : Service Req Resp State) (spared : Req → Prop) :
    Service Req Resp State where
  serve := service.serve
  faulty := fun request answer => ¬ spared request ∧ service.faulty request answer

variable {spared : Req → Prop}

lemma Service.Answers.of_sparing {request : Req} {answer : Resp request}
    (answers : (service.sparing spared).Answers request state answer after) :
    service.Answers request state answer after := by
  cases answers with
  | inl served => exact .inl served
  | inr failed => exact .inr ⟨failed.1.2, failed.2⟩

lemma Program.Ends.of_sparing {prog : Program Req Resp α}
    (ends : Ends (service.sparing spared) prog state value after) :
    Ends service prog state value after := by
  induction ends with
  | done => exact .done
  | call answers _ rest => exact .call answers.of_sparing rest

/-! ## Two services -/

variable {Req₁ Req₂ : Type} {Resp₁ : Req₁ → Type} {Resp₂ : Req₂ → Type} {State₁ State₂ : Type}

/-- Answers to the requests of two services. -/
@[reducible] def SumResp (Resp₁ : Req₁ → Type) (Resp₂ : Req₂ → Type) : Req₁ ⊕ Req₂ → Type
  | .inl request => Resp₁ request
  | .inr request => Resp₂ request

/-- Two services side by side. -/
def Service.both (left : Service Req₁ Resp₁ State₁) (right : Service Req₂ Resp₂ State₂) :
    Service (Req₁ ⊕ Req₂) (SumResp Resp₁ Resp₂) (State₁ × State₂) where
  serve
    | .inl request, state =>
      ((left.serve request state.1).1, ((left.serve request state.1).2, state.2))
    | .inr request, state =>
      ((right.serve request state.2).1, (state.1, (right.serve request state.2).2))
  faulty
    | .inl request => left.faulty request
    | .inr request => right.faulty request

/-- A service that may answer anything. -/
def Service.demonic (answer : (request : Req) → Resp request) : Service Req Resp Unit where
  serve := fun request state => (answer request, state)
  faulty := fun _ _ => True

variable {left : Service Req₁ Resp₁ State₁} {right : Service Req₂ Resp₂ State₂}
  {state after : State₁ × State₂}

lemma Service.answers_inl {request : Req₁} {answer : Resp₁ request} :
    (left.both right).Answers (.inl request) state answer after ↔
      left.Answers request state.1 answer after.1 ∧ after.2 = state.2 := by
  constructor
  · rintro (served | ⟨faulty, rfl⟩)
    · cases served
      exact ⟨left.answers_served request state.1, rfl⟩
    · exact ⟨.inr ⟨faulty, rfl⟩, rfl⟩
  · rintro ⟨served | ⟨faulty, same⟩, untouched⟩
    · have answered := congrArg Prod.fst served
      have moved := congrArg Prod.snd served
      exact .inl (Prod.ext answered (Prod.ext moved untouched))
    · exact .inr ⟨faulty, Prod.ext same untouched⟩

lemma Service.answers_inr {request : Req₂} {answer : Resp₂ request} :
    (left.both right).Answers (.inr request) state answer after ↔
      right.Answers request state.2 answer after.2 ∧ after.1 = state.1 := by
  constructor
  · rintro (served | ⟨faulty, rfl⟩)
    · cases served
      exact ⟨right.answers_served request state.2, rfl⟩
    · exact ⟨.inr ⟨faulty, rfl⟩, rfl⟩
  · rintro ⟨served | ⟨faulty, same⟩, untouched⟩
    · have answered := congrArg Prod.fst served
      have moved := congrArg Prod.snd served
      exact .inl (Prod.ext answered (Prod.ext untouched moved))
    · exact .inr ⟨faulty, Prod.ext untouched same⟩

namespace Program

/-- A program over the left service. -/
def inl : Program Req₁ Resp₁ α → Program (Req₁ ⊕ Req₂) (SumResp Resp₁ Resp₂) α
  | .done value => .done value
  | .call request next => .call (.inl request) fun answer => (next answer).inl

/-- A program over the right service. -/
def inr : Program Req₂ Resp₂ α → Program (Req₁ ⊕ Req₂) (SumResp Resp₁ Resp₂) α
  | .done value => .done value
  | .call request next => .call (.inr request) fun answer => (next answer).inr

/-- A program over the left service does what it does alone. -/
lemma ends_inl {prog : Program Req₁ Resp₁ α} : Ends (left.both right) prog.inl state value after ↔
      Ends left prog state.1 value after.1 ∧ after.2 = state.2 := by
  induction prog generalizing state with
  | done =>
    rw [inl, ends_done, ends_done, Prod.ext_iff, and_assoc]
  | call _ _ ih =>
    rw [inl, ends_call, ends_call]
    constructor
    · rintro ⟨answer, mid, answers, rest⟩
      obtain ⟨answered, untouched⟩ := Service.answers_inl.mp answers
      obtain ⟨later, same⟩ := (ih answer).mp rest
      exact ⟨⟨answer, mid.1, answered, later⟩, same.trans untouched⟩
    · rintro ⟨⟨answer, mid, answers, later⟩, untouched⟩
      exact ⟨answer, (mid, state.2), Service.answers_inl.mpr ⟨answers, rfl⟩,
        (ih answer).mpr ⟨later, untouched⟩⟩

variable {prog : Program Req₂ Resp₂ α}

/-- A program over the right service does what it does alone. -/
lemma ends_inr : Ends (left.both right) prog.inr state value after ↔
      Ends right prog state.2 value after.2 ∧ after.1 = state.1 := by
  induction prog generalizing state with
  | done =>
    rw [inr, ends_done, ends_done, Prod.ext_iff, and_assoc, @and_comm (after.1 = state.1)]
  | call _ _ ih =>
    rw [inr, ends_call, ends_call]
    constructor
    · rintro ⟨answer, mid, answers, rest⟩
      obtain ⟨answered, untouched⟩ := Service.answers_inr.mp answers
      obtain ⟨later, same⟩ := (ih answer).mp rest
      exact ⟨⟨answer, mid.2, answered, later⟩, same.trans untouched⟩
    · rintro ⟨⟨answer, mid, answers, later⟩, untouched⟩
      exact ⟨answer, (state.1, mid), Service.answers_inr.mpr ⟨answers, rfl⟩,
        (ih answer).mpr ⟨later, untouched⟩⟩

end Program

namespace Fallible

def inl (prog : Fallible Req₁ Resp₁ ε α) : Fallible (Req₁ ⊕ Req₂) (SumResp Resp₁ Resp₂) ε α :=
  ExceptT.mk prog.run.inl

def inr (prog : Fallible Req₂ Resp₂ ε α) : Fallible (Req₁ ⊕ Req₂) (SumResp Resp₁ Resp₂) ε α :=
  ExceptT.mk prog.run.inr

lemma returns_inl {prog : Fallible Req₁ Resp₁ ε α} :
    Returns (left.both right) (inl prog) state value after ↔
      Returns left prog state.1 value after.1 ∧ after.2 = state.2 :=
  ends_inl

lemma returns_inr {prog : Fallible Req₂ Resp₂ ε α} :
    Returns (left.both right) (inr prog) state value after ↔
      Returns right prog state.2 value after.2 ∧ after.1 = state.1 :=
  ends_inr

end Fallible

end Parqonaut.Effects
