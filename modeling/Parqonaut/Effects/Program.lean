import Mathlib.Logic.Relation

/-!
# Programs that call a service

A program is a tree of requests to a service that keeps the durable state. The requests are
exactly the points at which a process can crash, be overtaken by another process, or see a call
fail.

The weakest precondition carries a guarantee on every single transition of the durable state
besides the postcondition, so an invariant that the guarantee preserves holds at every crash point.
-/

namespace Parqonaut.Effects

/-- A program over requests `Req` with answers `Resp`, returning an `α`. -/
inductive Program (Req : Type) (Resp : Req → Type) (α : Type) : Type where
  | done (value : α)
  | call (request : Req) (next : Resp request → Program Req Resp α)

/-- How a request is served in a durable state, and which answers a failed call may give. A failed
call has no effect. -/
structure Service (Req : Type) (Resp : Req → Type) (State : Type) where
  serve : (request : Req) → State → Resp request × State
  faulty : (request : Req) → Resp request → Prop

variable {Req : Type} {Resp : Req → Type} {State α β : Type}

namespace Service

/-- The answer and the state that one call can lead to: the call is served, or it
fails and the state stays. -/
def Answers (service : Service Req Resp State) (request : Req) (state : State)
    (answer : Resp request) (next : State) : Prop :=
  (answer, next) = service.serve request state ∨ service.faulty request answer ∧ next = state

/-- Same service while no call fails. -/
def reliable (service : Service Req Resp State) : Service Req Resp State where
  serve := service.serve
  faulty := fun _ _ => False

lemma answers_served (service : Service Req Resp State) (request : Req) (state : State) :
    service.Answers request state (service.serve request state).1
      (service.serve request state).2 := .inl rfl

lemma answers_reliable {service : Service Req Resp State} {request : Req}
    {state next : State} {answer : Resp request} :
    service.reliable.Answers request state answer next ↔
      (answer, next) = service.serve request state := by
  constructor
  · intro answers
    cases answers with
    | inl served => exact served
    | inr failed => exact failed.1.elim
  · intro served
    exact .inl served

end Service

namespace Program

/-- Run one program after another. -/
def bind : Program Req Resp α → (α → Program Req Resp β) → Program Req Resp β
  | .done value, cont => cont value
  | .call request next, cont =>
    .call request fun answer => (next answer).bind cont

instance : Monad (Program Req Resp) where
  pure := .done
  bind := Program.bind

/-- Program that makes a single call and returns its answer. -/
def request (request : Req) : Program Req Resp (Resp request) :=
  .call request .done

@[simp] lemma done_bind (value : α) (cont : α → Program Req Resp β) :
    (Program.done value >>= cont) = cont value := rfl

@[simp] lemma call_bind (request : Req) (next : Resp request → Program Req Resp α)
    (cont : α → Program Req Resp β) :
    (Program.call request next >>= cont) = .call request fun answer => next answer >>= cont := rfl

lemma bind_done (prog : Program Req Resp α) : (prog >>= Program.done) = prog := by
  induction prog with
  | done => rfl
  | call _ _ ih =>
    rw [call_bind]
    congr 1
    funext answer
    exact ih answer

lemma bind_assoc {γ : Type} (prog : Program Req Resp α)
    (first : α → Program Req Resp β) (second : β → Program Req Resp γ) :
    (prog >>= first >>= second) = (prog >>= fun value => first value >>= second) := by
  induction prog with
  | done => rfl
  | call _ _ ih =>
    simp only [call_bind]
    congr 1
    funext answer
    exact ih answer

instance : LawfulMonad (Program Req Resp) :=
  LawfulMonad.mk' _ (fun prog => bind_done prog) (fun _ _ => rfl)
    (fun prog first second => bind_assoc prog first second)

/-! ## Execution -/

/-- Fault-free execution. -/
def run (service : Service Req Resp State) : Program Req Resp α → State → α × State
  | .done value, state => (value, state)
  | .call request next, state =>
    (next (service.serve request state).1).run service (service.serve request state).2

@[simp] lemma run_call (service : Service Req Resp State) (request : Req)
    (next : Resp request → Program Req Resp α) (state : State) :
    (Program.call request next).run service state =
      (next (service.serve request state).1).run service (service.serve request state).2 := rfl

lemma run_bind (service : Service Req Resp State) (prog : Program Req Resp α)
    (cont : α → Program Req Resp β) (state : State) :
    (prog >>= cont).run service state =
      (cont (prog.run service state).1).run service (prog.run service state).2 := by
  induction prog generalizing state with
  | done => rfl
  | call _ _ ih =>
    rw [call_bind, run_call, run_call]
    exact ih _ _

/-- One transition of a program together with the durable state. -/
inductive Step (service : Service Req Resp State) :
    Program Req Resp α × State → Program Req Resp α × State → Prop where
  | call {request : Req} {next : Resp request → Program Req Resp α}
      {state after : State} {answer : Resp request}
      (answers : service.Answers request state answer after) :
      Step service (.call request next, state) (next answer, after)

/-! ## Weakest preconditions with a guarantee -/

/-- Every transition that `program` makes from `state` satisfies `guarantee`, and if it ends then
`post` holds of its result. -/
def wp (service : Service Req Resp State) (rel : State → State → Prop)
    (post : α → State → Prop) : Program Req Resp α → State → Prop
  | .done value, state => post value state
  | .call request next, state =>
    ∀ answer after, service.Answers request state answer after →
      rel state after ∧ (next answer).wp service rel post after

variable {service : Service Req Resp State} {rel : State → State → Prop}
  {post : α → State → Prop} {state : State}

@[simp] lemma wp_done {value : α} :
    (Program.done value : Program Req Resp α).wp service rel post state ↔
      post value state := Iff.rfl

lemma wp_call {request : Req} {next : Resp request → Program Req Resp α} :
    (Program.call request next).wp service rel post state ↔
      ∀ answer after, service.Answers request state answer after →
        rel state after ∧ (next answer).wp service rel post after := Iff.rfl

attribute [irreducible] wp

variable {prog : Program Req Resp α}

lemma wp_mono {weak strong : α → State → Prop}
    (implies : ∀ value state, strong value state → weak value state)
    (holds : prog.wp service rel strong state) :
    prog.wp service rel weak state := by
  induction prog generalizing state with
  | done value => exact wp_done.mpr (implies value state (wp_done.mp holds))
  | call _ _ ih =>
    apply wp_call.mpr
    intro answer after answers
    obtain ⟨allowed, rest⟩ := wp_call.mp holds answer after answers
    exact ⟨allowed, ih answer rest⟩

lemma wp_bind {post : β → State → Prop} {cont : α → Program Req Resp β} :
    (prog >>= cont).wp service rel post state ↔ prog.wp service rel
        (fun value after => (cont value).wp service rel post after) state := by
  induction prog generalizing state with
  | done => rw [done_bind, wp_done]
  | call _ _ ih =>
    rw [call_bind, wp_call, wp_call]
    constructor
    · intro holds answer after answers
      obtain ⟨allowed, rest⟩ := holds answer after answers
      exact ⟨allowed, (ih answer).mp rest⟩
    · intro holds answer after answers
      obtain ⟨allowed, rest⟩ := holds answer after answers
      exact ⟨allowed, (ih answer).mpr rest⟩

/-- The transitions of a program compose to a relation between its ends. -/
lemma wp_relates {relation : State → State → Prop} (refl : ∀ state, relation state state)
    (trans : ∀ {first second third}, relation first second → relation second third →
      relation first third)
    (contains : ∀ before after, rel before after → relation before after)
    (holds : prog.wp service rel post state) :
    prog.wp service rel (fun value after => post value after ∧ relation state after) state := by
  induction prog generalizing state with
  | done => exact wp_done.mpr ⟨wp_done.mp holds, refl state⟩
  | call _ _ ih =>
    apply wp_call.mpr
    intro answer after answers
    obtain ⟨allowed, rest⟩ := wp_call.mp holds answer after answers
    refine ⟨allowed, wp_mono ?_ (ih answer rest)⟩
    intro _ _ ended
    exact ⟨ended.1, trans (contains _ _ allowed) ended.2⟩

/-- A step of a program keeps its weakest precondition and obeys the guarantee. -/
lemma wp_step {before after : Program Req Resp α × State}
    (holds : before.1.wp service rel post before.2) (step : Step service before after) :
    rel before.2 after.2 ∧ after.1.wp service rel post after.2 := by
  cases step with
  | call answers => exact wp_call.mp holds _ _ answers

/-- The weakest precondition describes the fault-free run in particular. -/
lemma wp_run (holds : prog.wp service rel post state) :
    post (prog.run service state).1 (prog.run service state).2 := by
  induction prog generalizing state with
  | done => exact wp_done.mp holds
  | call _ _ ih => exact ih _ (wp_call.mp holds _ _ (.inl rfl)).2

lemma run_reliable : prog.run service.reliable state = prog.run service state := by
  induction prog generalizing state with
  | done => rfl
  | call _ _ ih => exact ih _

end Program

/-!
# One client at a time

A client is idle, running a program, or holding a handle that an earlier program returned.
Stopping it between two calls drops the program and the handle; the durable state stays.
-/

variable {State Handle : Type}

/-- Programs that a client may run: some open a handle, and some are run on a
handle and give it back or consume it. -/
structure Client (Req : Type) (Resp : Req → Type) (Handle : Type) where
  Opens : Program Req Resp (Option Handle) → Prop
  Uses : Handle → Program Req Resp (Option Handle) → Prop

namespace Client

inductive Phase (Req : Type) (Resp : Req → Type) (Handle : Type) where
  | idle
  | running (prog : Program Req Resp (Option Handle))
  | holding (handle : Handle)

/-- One transition of the client and the durable state. -/
inductive Step (client : Client Req Resp Handle) (service : Service Req Resp State) :
    Phase Req Resp Handle × State → Phase Req Resp Handle × State → Prop where
  | opens {prog : Program Req Resp (Option Handle)} {state : State} (allowed : client.Opens prog) :
      Step client service (.idle, state) (.running prog, state)
  | uses {handle : Handle} {prog : Program Req Resp (Option Handle)} {state : State}
      (allowed : client.Uses handle prog) :
      Step client service (.holding handle, state) (.running prog, state)
  | call {before after : Program Req Resp (Option Handle)} {state next : State}
      (step : Program.Step service (before, state) (after, next)) :
      Step client service (.running before, state) (.running after, next)
  | keep {handle : Handle} {state : State} :
      Step client service (.running (.done (some handle)), state) (.holding handle, state)
  | finish {state : State} : Step client service (.running (.done none), state) (.idle, state)
  | crash {phase : Phase Req Resp Handle} {state : State} :
      Step client service (phase, state) (.idle, state)

/-- The states that a client can bring about. -/
def Reaches (client : Client Req Resp Handle) (service : Service Req Resp State) :
    Phase Req Resp Handle × State → Phase Req Resp Handle × State → Prop :=
  Relation.ReflTransGen (client.Step service)

/-- Phase after a program has returned. -/
def Phase.returned : Option Handle → Phase Req Resp Handle
  | some handle => .holding handle
  | none => .idle

/-- A program that is not interrupted runs to its end. -/
lemma reaches_run (client : Client Req Resp Handle) (service : Service Req Resp State)
    (prog : Program Req Resp (Option Handle)) (state : State) :
    client.Reaches service (.running prog, state)
      (.returned (prog.run service state).1, (prog.run service state).2) := by
  induction prog generalizing state with
  | done value =>
    cases value with
    | none => exact .single .finish
    | some => exact .single .keep
  | call _ _ ih =>
    exact .head (.call (.call (.inl rfl))) (ih _ _)

/-- What a client's programs must keep: an invariant, a relation between handle and state, and a
guarantee on every transition. -/
structure Contract (client : Client Req Resp Handle) (service : Service Req Resp State)
    (invariant : State → Prop) (handleInv : Handle → State → Prop)
    (rel : State → State → Prop) : Prop where
  unchanged : ∀ state, invariant state → rel state state
  preserved : ∀ before after, rel before after → invariant after
  opens : ∀ prog, client.Opens prog → ∀ state, invariant state → prog.wp service rel
      (fun result after => invariant after ∧ ∀ handle, result = some handle →
        handleInv handle after) state
  uses : ∀ handle prog, client.Uses handle prog →
    ∀ state, invariant state → handleInv handle state →
    prog.wp service rel (fun result after => invariant after ∧ ∀ handle, result = some handle →
        handleInv handle after) state

variable {client : Client Req Resp Handle} {service : Service Req Resp State}
  {invariant : State → Prop} {handleInv : Handle → State → Prop} {rel : State → State → Prop}

/-- The invariant of a phase: what the running program or the handle still owes. -/
def PhaseInv (service : Service Req Resp State) (invariant : State → Prop)
    (handleInv : Handle → State → Prop) (rel : State → State → Prop) :
    Phase Req Resp Handle × State → Prop
  | (.idle, state) => invariant state
  | (.running prog, state) => invariant state ∧ prog.wp service rel
        (fun result after => invariant after ∧ ∀ handle, result = some handle →
          handleInv handle after) state
  | (.holding handle, state) => invariant state ∧ handleInv handle state

lemma PhaseInv.state {config : Phase Req Resp Handle × State}
    (holds : PhaseInv service invariant handleInv rel config) :
    invariant config.2 := by
  rcases config with ⟨phase, _⟩
  cases phase with
  | idle => exact holds
  | running | holding => exact holds.1

variable {before after : Phase Req Resp Handle × State}

section

variable (contract : Contract client service invariant handleInv rel)
include contract

/-- One step keeps the phase invariant and obeys the guarantee. -/
lemma Contract.step (holds : PhaseInv service invariant handleInv rel before)
    (step : client.Step service before after) :
    rel before.2 after.2 ∧
      PhaseInv service invariant handleInv rel after := by
  have stateInv := holds.state
  cases step with
  | opens allowed =>
    exact ⟨contract.unchanged _ stateInv, stateInv, contract.opens _ allowed _ stateInv⟩
  | uses allowed =>
    exact ⟨contract.unchanged _ stateInv, stateInv, contract.uses _ _ allowed _ stateInv holds.2⟩
  | call programStep =>
    obtain ⟨allowed, rest⟩ := Program.wp_step holds.2 programStep
    exact ⟨allowed, contract.preserved _ _ allowed, rest⟩
  | keep =>
    have returned := Program.wp_done.mp holds.2
    exact ⟨contract.unchanged _ stateInv, stateInv, returned.2 _ rfl⟩
  | finish | crash => exact ⟨contract.unchanged _ stateInv, stateInv⟩

/-- Every reachable state satisfies the invariant, whatever was interrupted. -/
lemma Contract.reaches (holds : PhaseInv service invariant handleInv rel before)
    (reaches : client.Reaches service before after) :
    PhaseInv service invariant handleInv rel after := by
  induction reaches with
  | refl => exact holds
  | tail _ step ih => exact (contract.step ih step).2

/-- A preorder that contains the guarantee relates the ends of every execution. -/
lemma Contract.relates (relation : State → State → Prop) (refl : ∀ state, relation state state)
    (trans : ∀ {first second third}, relation first second → relation second third →
      relation first third)
    (contains : ∀ before after, rel before after → relation before after)
    (holds : PhaseInv service invariant handleInv rel before)
    (reaches : client.Reaches service before after) :
    relation before.2 after.2 := by
  induction reaches with
  | refl => exact refl _
  | tail earlier step ih =>
    have middle := contract.reaches holds earlier
    exact trans ih (contains _ _ (contract.step middle step).1)

end

end Client

/-!
## Fallible programs and methods

A fallible program ends with a value or an error. A method also updates the record it is called
on, and the update survives an error.
-/

open Program

variable {Req : Type} {Resp : Req → Type} {State σ ε ε' α β : Type}

/-- A program that may end with an error. -/
abbrev Fallible (Req : Type) (Resp : Req → Type) (ε : Type) : Type → Type :=
  ExceptT ε (Program Req Resp)

/-- A fallible program with a mutable receiver of type `σ`. -/
abbrev Method (Req : Type) (Resp : Req → Type) (σ ε : Type) : Type → Type :=
  ExceptT ε (StateT σ (Program Req Resp))

variable {service : Service Req Resp State} {rel : State → State → Prop} {state : State}

namespace Fallible

/-- Make one call and hand its answer to the program, errors included. -/
def request (request : Req) : Fallible Req Resp ε (Resp request) :=
  ExceptT.lift (Program.request request)

/-- Run a fallible program and hand its result to the caller, errors included. -/
def attempt (prog : Fallible Req Resp ε α) : Fallible Req Resp ε (Except ε α) :=
  ExceptT.mk (prog.run >>= fun result => .done (.ok result))

/-- `Result::map_err`. -/
def mapErr (convert : ε → ε') (prog : Fallible Req Resp ε α) : Fallible Req Resp ε' α :=
  ExceptT.mk (prog.run >>= fun result => .done (result.mapError convert))

@[simp] lemma run_pure_eq (value : α) :
    (pure value : Fallible Req Resp ε α).run = .done (.ok value) := rfl

@[simp] lemma run_throw_eq (error : ε) :
    (throw error : Fallible Req Resp ε α).run = .done (.error error) := rfl

@[simp] lemma run_request_bind (request : Req) (cont : Resp request → Fallible Req Resp ε β) :
    (Fallible.request request >>= cont).run = .call request fun answer => (cont answer).run := rfl

@[simp] lemma run_attempt_bind (prog : Fallible Req Resp ε α)
    (cont : Except ε α → Fallible Req Resp ε β) :
    (attempt prog >>= cont).run = prog.run >>= fun result => (cont result).run := by
  rw [ExceptT.run_bind]
  exact Program.bind_assoc _ _ _

variable {post : Except ε β → State → Prop} {prog : Fallible Req Resp ε α}
  {cont : α → Fallible Req Resp ε β}

/-- Sequencing: an error ends the program. -/
lemma wp_bind : (prog >>= cont).run.wp service rel post state ↔
      prog.run.wp service rel (fun result after => match result with
          | .ok value => (cont value).run.wp service rel post after
          | .error error => post (.error error) after) state := by
  rw [ExceptT.run_bind, Program.wp_bind]
  constructor
  · apply wp_mono
    intro result after holds
    cases result with
    | ok => exact holds
    | error =>
      have ended := wp_done.mp holds
      exact ended
  · apply wp_mono
    intro result _ holds
    cases result with
    | ok => exact holds
    | error => exact wp_done.mpr holds

lemma wp_request_bind {request : Req} {cont : Resp request → Fallible Req Resp ε β} :
    (Fallible.request request >>= cont).run.wp service rel post state ↔
      ∀ answer after, service.Answers request state answer after → rel state after ∧
          (cont answer).run.wp service rel post after := by
  rw [run_request_bind, wp_call]

lemma wp_lift_bind {prog : Program Req Resp α} :
    ((ExceptT.lift prog : Fallible Req Resp ε α) >>= cont).run.wp service rel post state ↔
      prog.wp service rel
        (fun value after => (cont value).run.wp service rel post after) state := by
  rw [wp_bind, ExceptT.run_lift]
  change (prog >>= fun value => done (Except.ok value)).wp service rel _ state ↔ _
  rw [Program.wp_bind]
  simp [wp_done]

lemma wp_attempt_bind {cont : Except ε α → Fallible Req Resp ε β} :
    (attempt prog >>= cont).run.wp service rel post state ↔ prog.run.wp service rel
        (fun result after => (cont result).run.wp service rel post after)
        state := by
  rw [run_attempt_bind, Program.wp_bind]

lemma wp_mapErr {post : Except ε' α → State → Prop} {convert : ε → ε'} :
    (mapErr convert prog).run.wp service rel post state ↔ prog.run.wp service rel
        (fun result after => post (result.mapError convert) after) state := by
  change (prog.run >>= _).wp _ _ _ _ ↔ _
  rw [Program.wp_bind]
  simp [wp_done]

/-- Fault-free evaluation. -/
def eval (service : Service Req Resp State) (prog : Fallible Req Resp ε α)
    (state : State) : Except ε α × State :=
  prog.run.run service state

@[simp] lemma eval_pure (value : α) :
    eval service (pure value : Fallible Req Resp ε α) state = (.ok value, state) := rfl

lemma eval_request_bind (request : Req) (cont : Resp request → Fallible Req Resp ε β) :
    eval service (Fallible.request request >>= cont) state =
      eval service (cont (service.serve request state).1) (service.serve request state).2 := rfl

lemma eval_bind (prog : Fallible Req Resp ε α) (cont : α → Fallible Req Resp ε β) :
    eval service (prog >>= cont) state =
      match eval service prog state with
      | (.ok value, after) => eval service (cont value) after
      | (.error error, after) => (.error error, after) := by
  rw [eval, ExceptT.run_bind, run_bind]
  change _ = match prog.run.run service state with
    | (.ok value, after) => eval service (cont value) after
    | (.error error, after) => (.error error, after)
  rcases prog.run.run service state with ⟨result, _⟩
  cases result <;> rfl

lemma eval_attempt_bind (prog : Fallible Req Resp ε α) (cont : Except ε α → Fallible Req Resp ε β) :
    eval service (attempt prog >>= cont) state =
      eval service (cont (eval service prog state).1) (eval service prog state).2 := by
  rw [eval, run_attempt_bind, run_bind]
  rfl

lemma eval_mapErr (convert : ε → ε') (prog : Fallible Req Resp ε α) :
    eval service (mapErr convert prog) state =
      ((eval service prog state).1.mapError convert, (eval service prog state).2) := by
  change (prog.run >>= fun result => .done (result.mapError convert)).run service state = _
  rw [run_bind]
  rfl

/-- What a weakest precondition says about the fault-free evaluation. -/
lemma eval_of_wp {post : Except ε α → State → Prop}
    (holds : prog.run.wp service (fun _ _ => True) post state) :
    ∃ result after, eval service prog state = (result, after) ∧ post result after :=
  ⟨_, _, rfl, wp_run holds⟩

end Fallible

namespace Method

/-- Call a method on a receiver. -/
def exec (method : Method Req Resp σ ε α) (self : σ) : Program Req Resp (Except ε α × σ) :=
  (ExceptT.run method).run self

/-- `Result::map_err` on the result of a method. -/
def mapErr (convert : ε → ε') (method : Method Req Resp σ ε α) : Method Req Resp σ ε' α :=
  ExceptT.mk fun self => method.exec self >>= fun outcome =>
    .done (outcome.1.mapError convert, outcome.2)

/-- Call a method on a local receiver and drop the receiver at the end. -/
def callOn (self : σ) (method : Method Req Resp σ ε α) : Fallible Req Resp ε α :=
  ExceptT.mk (method.exec self >>= fun outcome => .done outcome.1)

/-- A fallible program that leaves the receiver alone. -/
def ofFallible (prog : Fallible Req Resp ε α) : Method Req Resp σ ε α :=
  ExceptT.mk (StateT.lift prog.run)

@[simp] lemma exec_pure (value : α) (self : σ) :
    (pure value : Method Req Resp σ ε α).exec self = .done (.ok value, self) := rfl

@[simp] lemma exec_throw (error : ε) (self : σ) :
    (throw error : Method Req Resp σ ε α).exec self = .done (.error error, self) := rfl

@[simp] lemma exec_set (next self : σ) :
    (set next : Method Req Resp σ ε PUnit).exec self = .done (.ok ⟨⟩, next) := rfl

@[simp] lemma exec_get_bind (cont : σ → Method Req Resp σ ε β) (self : σ) :
    (get >>= cont : Method Req Resp σ ε β).exec self = (cont self).exec self := rfl

@[simp] lemma exec_set_bind (next self : σ) (cont : PUnit → Method Req Resp σ ε β) :
    (set next >>= cont : Method Req Resp σ ε β).exec self = (cont ⟨⟩).exec next := rfl

lemma exec_ofFallible (prog : Fallible Req Resp ε α) (self : σ) :
    (ofFallible prog : Method Req Resp σ ε α).exec self =
      prog.run >>= fun result => .done (result, self) := rfl

lemma exec_bind (method : Method Req Resp σ ε α) (cont : α → Method Req Resp σ ε β) (self : σ) :
    (method >>= cont).exec self = method.exec self >>= fun outcome => match outcome with
        | (.ok value, next) => (cont value).exec next
        | (.error error, next) => .done (.error error, next) := by
  simp only [exec, ExceptT.run_bind, StateT.run_bind]
  congr 1
  funext outcome
  rcases outcome with ⟨result, _⟩
  cases result <;> rfl

variable {method : Method Req Resp σ ε α} {self : σ}

lemma wp_bind {post : Except ε β × σ → State → Prop} {cont : α → Method Req Resp σ ε β} :
    ((method >>= cont).exec self).wp service rel post state ↔
      (method.exec self).wp service rel (fun outcome after => match outcome with
          | (.ok value, next) =>
            ((cont value).exec next).wp service rel post after
          | (.error error, next) => post (.error error, next) after) state := by
  rw [exec_bind, Program.wp_bind]
  constructor
  · apply wp_mono
    intro outcome after holds
    rcases outcome with ⟨result, next⟩
    cases result with
    | ok => exact holds
    | error =>
      have ended := wp_done.mp holds
      exact ended
  · apply wp_mono
    intro outcome _ holds
    rcases outcome with ⟨result, _⟩
    cases result with
    | ok => exact holds
    | error => exact wp_done.mpr holds

lemma wp_ofFallible {post : Except ε α × σ → State → Prop} {prog : Fallible Req Resp ε α} :
    ((ofFallible prog : Method Req Resp σ ε α).exec self).wp service rel post state ↔
      prog.run.wp service rel (fun result after => post (result, self) after) state := by
  rw [exec_ofFallible, Program.wp_bind]
  simp [wp_done]

lemma exec_mapErr (convert : ε → ε') (method : Method Req Resp σ ε α) (self : σ) :
    (mapErr convert method).exec self = method.exec self >>= fun outcome =>
        .done (outcome.1.mapError convert, outcome.2) := rfl

lemma wp_mapErr {post : Except ε' α × σ → State → Prop} {convert : ε → ε'} :
    ((mapErr convert method).exec self).wp service rel post state ↔
      (method.exec self).wp service rel
        (fun outcome after => post (outcome.1.mapError convert, outcome.2) after) state := by
  rw [exec_mapErr, Program.wp_bind]
  simp [wp_done]

lemma run_callOn (self : σ) (method : Method Req Resp σ ε α) :
    (callOn self method).run = method.exec self >>= fun outcome => .done outcome.1 := rfl

lemma wp_callOn {post : Except ε α → State → Prop} :
    (callOn self method).run.wp service rel post state ↔ (method.exec self).wp service rel
        (fun outcome after => post outcome.1 after) state := by
  rw [run_callOn, Program.wp_bind]
  simp [wp_done]

end Method

/-!
# Interrupted programs

A program is interrupted after some calls: the process dies, or the next call fails. For a program
that gives up at the first failed call `Spine` records the states it can leave behind.
-/

/-- After `served` calls the process dies, or its next call fails; `left` is the state that
remains. -/
inductive Interrupted (service : Service Req Resp State) :
    Nat → Program Req Resp α → State → State → Prop where
  | crash {prog : Program Req Resp α} {state : State} : Interrupted service 0 prog state state
  | failure {request : Req} {next : Resp request → Program Req Resp α} {state : State}
      {answer : Resp request} (fault : service.faulty request answer) :
      Interrupted service 0 (.call request next) state ((next answer).run service state).2
  | later {served : Nat} {request : Req} {next : Resp request → Program Req Resp α}
      {state left : State}
      (rest : Interrupted service served (next (service.serve request state).1)
        (service.serve request state).2 left) :
      Interrupted service (served + 1) (.call request next) state left

/-- State after the first `served` calls of a fault-free run that goes on after them. -/
def Program.interruptAt (service : Service Req Resp State) :
    Nat → Program Req Resp α → State → Option State
  | 0, _, state => some state
  | _ + 1, .done _, _ => none
  | served + 1, .call request next, state =>
    (next (service.serve request state).1).interruptAt service served
      (service.serve request state).2

/-- The program and the state after at most `served` calls of a fault-free run. -/
def Program.advance (service : Service Req Resp State) :
    Nat → Program Req Resp α → State → Program Req Resp α × State
  | 0, prog, state => (prog, state)
  | _ + 1, .done value, state => (.done value, state)
  | served + 1, .call request next, state =>
    (next (service.serve request state).1).advance service served (service.serve request state).2

lemma Program.reaches_advance (service : Service Req Resp State) (served : Nat)
    (prog : Program Req Resp α) (state : State) :
    Relation.ReflTransGen (Step service) (prog, state) (prog.advance service served state) := by
  induction served generalizing prog state with
  | zero => exact .refl
  | succ _ ih =>
    cases prog with
    | done => exact .refl
    | call request =>
      exact .head (.call (service.answers_served request state)) (ih _ _)

lemma Interrupted.of_interruptAt {served : Nat} {prog : Program Req Resp α}
    {state left : State} (dies : prog.interruptAt service served state = some left) :
    Interrupted service served prog state left := by
  induction served generalizing prog state with
  | zero =>
    cases dies
    exact .crash
  | succ _ ih =>
    cases prog with
    | done => cases dies
    | call => exact .later (ih dies)

/-- A fault-free run of a program that gives up at the first failed call: the states of its calls,
its result and its last state. -/
inductive Spine (service : Service Req Resp State) (Failed : α → Prop) :
    Program Req Resp α → State → List State → α → State → Prop where
  | done {value : α} {state : State} : Spine service Failed (.done value) state [] value state
  | call {request : Req} {next : Resp request → Program Req Resp α} {state final : State}
      {states : List State} {value : α}
      (aborts : ∀ answer, service.faulty request answer →
        ∃ failed, next answer = .done failed ∧ Failed failed)
      (rest : Spine service Failed (next (service.serve request state).1)
        (service.serve request state).2 states value final) :
      Spine service Failed (.call request next) state (state :: states) value final

namespace Spine

variable {Failed : α → Prop} {FailedAfter : β → Prop} {prog : Program Req Resp α}
  {cont : α → Program Req Resp β} {state middle final : State} {states later : List State}
  {value : α} {result : β}

lemma run_eq (spine : Spine service Failed prog state states value final) :
    prog.run service state = (value, final) := by
  induction spine with
  | done => rfl
  | call _ _ ih => exact ih

/-- The weakest precondition of a sequence holds of the second program where the first
one has ended. -/
lemma wp_rest {post : β → State → Prop}
    (spine : Spine service Failed prog state states value middle)
    (holds : (prog >>= cont).wp service rel post state) :
    (cont value).wp service rel post middle := by
  have ended := Program.wp_run (Program.wp_bind.mp holds)
  rwa [spine.run_eq] at ended

/-- Sequencing, when the second program passes failures of the first one on. -/
lemma bind (first : Spine service Failed prog state states value middle)
    (passes : ∀ failed, Failed failed → ∃ after, cont failed = .done after ∧ FailedAfter after)
    (second : Spine service FailedAfter (cont value) middle later result final) :
    Spine service FailedAfter (prog >>= cont) state (states ++ later)
      result final := by
  induction first with
  | done => exact second
  | call aborts _ ih =>
    apply Spine.call
    · intro answer fault
      obtain ⟨failed, ended, failure⟩ := aborts answer fault
      rw [ended]
      exact passes failed failure
    · exact ih second

/-- A conversion of the result makes no calls. -/
lemma map (spine : Spine service Failed prog state states value final)
    (convert : α → β) (passes : ∀ failed, Failed failed → FailedAfter (convert failed)) :
    Spine service FailedAfter (prog >>= fun value => .done (convert value)) state states
      (convert value) final := by
  induction spine with
  | done => exact .done
  | call aborts _ ih =>
    apply Spine.call
    · intro answer fault
      obtain ⟨failed, ended, failure⟩ := aborts answer fault
      rw [ended]
      exact ⟨_, rfl, passes failed failure⟩
    · exact ih

/-- Where an interruption of a sequence falls: at a state of the first program's spine, or after
it. -/
lemma interrupted {served : Nat} {left : State}
    (first : Spine service Failed prog state states value middle)
    (passes : ∀ failed, Failed failed → ∃ after, cont failed = .done after)
    (interrupted : Interrupted service served (prog >>= cont) state left) :
    states[served]? = some left ∨ states.length ≤ served ∧
        Interrupted service (served - states.length) (cont value) middle left := by
  induction first generalizing served with
  | done => exact .inr ⟨Nat.zero_le _, interrupted⟩
  | call aborts rest ih =>
    cases interrupted with
    | crash => exact .inl rfl
    | failure fault =>
      obtain ⟨failed, ended, failure⟩ := aborts _ fault
      obtain ⟨_, passed⟩ := passes failed failure
      left
      change _ = some (Program.run service (_ >>= cont) _).2
      rw [ended, Program.done_bind, passed]
      rfl
    | later interrupted =>
      rcases ih interrupted with within | ⟨beyond, rest⟩
      · exact .inl within
      · right
        simp only [List.length_cons, Nat.add_sub_add_right]
        exact ⟨Nat.succ_le_succ beyond, rest⟩

end Spine

/-! ## Fallible programs and methods

A failed call ends them with an error. -/

section

variable {ε ε' σ : Type} {state middle final : State} {states later : List State}

def IsError (result : Except ε α) : Prop := ∃ error, result = .error error

def OutcomeIsError (outcome : Except ε α × σ) : Prop := IsError outcome.1

variable {prog : Fallible Req Resp ε α} {value : α}

lemma Fallible.spine_bind {cont : α → Fallible Req Resp ε β} {result : Except ε β}
    (first : Spine service IsError prog.run state states (.ok value) middle)
    (second : Spine service IsError (cont value).run middle later result final) :
    Spine service IsError (prog >>= cont).run state (states ++ later)
      result final := by
  rw [ExceptT.run_bind]
  refine first.bind ?_ second
  intro _ failure
  obtain ⟨error, rfl⟩ := failure
  exact ⟨_, rfl, error, rfl⟩

variable {result : Except ε α}

lemma Fallible.spine_mapErr (convert : ε → ε')
    (spine : Spine service IsError prog.run state states result final) :
    Spine service IsError (Fallible.mapErr convert prog).run state states
      (result.mapError convert) final := by
  apply spine.map (fun result => result.mapError convert)
  intro _ failure
  obtain ⟨_, rfl⟩ := failure
  exact ⟨_, rfl⟩

variable {method : Method Req Resp σ ε α} {self : σ}

lemma Method.spine_bind {cont : α → Method Req Resp σ ε β} {next : σ} {outcome : Except ε β × σ}
    (first : Spine service OutcomeIsError (method.exec self) state states (.ok value, next) middle)
    (second : Spine service OutcomeIsError ((cont value).exec next) middle later outcome final) :
    Spine service OutcomeIsError ((method >>= cont).exec self) state
      (states ++ later) outcome final := by
  rw [Method.exec_bind]
  refine first.bind ?_ second
  intro failed failure
  rcases failed with ⟨_, _⟩
  obtain ⟨error, ended⟩ := failure
  dsimp only at ended
  subst ended
  exact ⟨_, rfl, error, rfl⟩

lemma Method.spine_ofFallible (spine : Spine service IsError prog.run state states result final) :
    Spine service OutcomeIsError ((Method.ofFallible prog).exec self) state states
      (result, self) final :=
  spine.map (fun result => (result, self)) (fun _ failure => failure)

lemma Method.spine_mapErr (convert : ε → ε') {outcome : Except ε α × σ}
    (spine : Spine service OutcomeIsError (method.exec self) state states outcome final) :
    Spine service OutcomeIsError ((Method.mapErr convert method).exec self) state states
      (outcome.1.mapError convert, outcome.2) final := by
  apply spine.map (fun outcome => (outcome.1.mapError convert, outcome.2))
  intro failed failure
  rcases failed with ⟨_, _⟩
  obtain ⟨_, ended⟩ := failure
  dsimp only at ended
  subst ended
  exact ⟨_, rfl⟩

end

variable {post : α → State → Prop} {prog : Program Req Resp α}
  {state left : State} {served : Nat}

/-- An interrupted program has only made transitions that it guarantees. -/
lemma Interrupted.relates (relation : State → State → Prop) (refl : ∀ state, relation state state)
    (trans : ∀ {first second third}, relation first second → relation second third →
      relation first third)
    (contains : ∀ before after, rel before after → relation before after)
    (holds : prog.wp service rel post state)
    (interrupted : Interrupted service served prog state left) :
    relation state left := by
  induction interrupted with
  | crash => exact refl _
  | failure fault =>
    obtain ⟨_, rest⟩ := Program.wp_call.mp holds _ _ (.inr ⟨fault, rfl⟩)
    exact (Program.wp_run (Program.wp_relates refl trans contains rest)).2
  | later _ ih =>
    obtain ⟨allowed, rest⟩ := Program.wp_call.mp holds _ _ (.inl rfl)
    exact trans (contains _ _ allowed) (ih rest)

end Parqonaut.Effects
