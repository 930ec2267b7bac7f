import Parqonaut.Effects.Outcome

/-!
# Programs whatever the calls answer

Which requests a program makes, what holds of its result and what a method keeps of its receiver,
with nothing assumed about the answers.
-/

namespace Parqonaut.Effects

open Program

variable {Req Req₁ Req₂ : Type} {Resp : Req → Type} {Resp₁ : Req₁ → Type} {Resp₂ : Req₂ → Type}
  {State σ ε ε' α β : Type} {service : Service Req Resp State} {state : State} {allowed : Req → Prop}
  {request : Req} {value : α}

namespace Program

/-- Every request is allowed and the result satisfies `post`, whatever the calls answer. -/
def Asks (allowed : Req → Prop) (post : α → Prop) : Program Req Resp α → Prop
  | .done value => post value
  | .call request next => allowed request ∧ ∀ answer, (next answer).Asks allowed post

variable {post : α → Prop} {prog : Program Req Resp α}

lemma asks_done : (done value : Program Req Resp α).Asks allowed post ↔ post value := Iff.rfl

variable {next : Resp request → Program Req Resp α}

lemma asks_call : (call request next).Asks allowed post ↔
      allowed request ∧ ∀ answer, (next answer).Asks allowed post := Iff.rfl

attribute [irreducible] Asks

variable {cont : α → Program Req Resp β}

lemma asks_bind {post : β → Prop}
    (asks : prog.Asks allowed fun value => (cont value).Asks allowed post) :
    (prog >>= cont).Asks allowed post := by
  induction prog with
  | done =>
    have rest := asks_done.mp asks
    exact rest
  | call _ _ ih =>
    obtain ⟨allows, rest⟩ := asks_call.mp asks
    exact asks_call.mpr ⟨allows, fun answer => ih answer (rest answer)⟩

lemma Asks.weaken {others : Req → Prop} {weak : α → Prop} (asks : prog.Asks allowed post)
    (requests : ∀ request, allowed request → others request)
    (values : ∀ value, post value → weak value) : prog.Asks others weak := by
  induction prog with
  | done value => exact asks_done.mpr (values value (asks_done.mp asks))
  | call request _ ih =>
    obtain ⟨allows, rest⟩ := asks_call.mp asks
    exact asks_call.mpr ⟨requests request allows, fun answer => ih answer (rest answer)⟩

lemma Asks.mono {weak : α → Prop} (asks : prog.Asks allowed post)
    (implies : ∀ value, post value → weak value) : prog.Asks allowed weak :=
  asks.weaken (fun _ => id) implies

/-- The result satisfies `post`, whatever the calls answer. -/
abbrev Always (post : α → Prop) (prog : Program Req Resp α) : Prop :=
  prog.Asks (fun _ => True) post

lemma always_of_forall (holds : ∀ value, post value) : prog.Always post := by
  induction prog with
  | done value => exact asks_done.mpr (holds value)
  | call _ _ ih => exact asks_call.mpr ⟨trivial, ih⟩

/-- The same as a specification, with a guarantee that every allowed request keeps. -/
lemma Asks.wp_of_keeps {rel : State → State → Prop} (asks : prog.Asks allowed post)
    (keeps : ∀ request before answer after, allowed request →
      service.Answers request before answer after → rel before after) :
    prog.wp service rel (fun value _ => post value) state := by
  induction prog generalizing state with
  | done => exact wp_done.mpr (asks_done.mp asks)
  | call request _ ih =>
    obtain ⟨allows, rest⟩ := asks_call.mp asks
    exact wp_call.mpr fun answer after answers =>
      ⟨keeps request state answer after allows answers, ih answer (rest answer)⟩

/-- An invariant that every allowed request keeps holds in every reached state. -/
lemma Asks.wp_invariant {invariant shown : State → Prop} (asks : prog.Asks allowed post)
    (keeps : ∀ request before answer after, allowed request →
      service.Answers request before answer after → invariant before → invariant after)
    (shows : ∀ state, invariant state → shown state) (holds : invariant state) :
    prog.wp service (fun _ after => shown after)
      (fun value after => post value ∧ invariant after) state := by
  induction prog generalizing state with
  | done => exact wp_done.mpr ⟨asks_done.mp asks, holds⟩
  | call request _ ih =>
    obtain ⟨allows, rest⟩ := asks_call.mp asks
    apply wp_call.mpr
    intro answer after answers
    have kept := keeps request state answer after allows answers holds
    exact ⟨shows after kept, ih answer (rest answer) kept⟩

lemma Asks.wp (asks : prog.Asks allowed post) :
    prog.wp service (fun _ _ => True) (fun value _ => post value) state :=
  asks.wp_of_keeps fun _ _ _ _ _ _ => trivial

lemma Asks.of_ends {after : State}
    (asks : prog.Asks allowed post) (ends : Ends service prog state value after) :
    post value :=
  ends.post asks.wp

/-- The program can come to make this request. -/
inductive MayAsk (request : Req) : Program Req Resp α → Prop where
  | here {next : Resp request → Program Req Resp α} : MayAsk request (.call request next)
  | later {other : Req} {next : Resp other → Program Req Resp α} (answer : Resp other)
      (rest : MayAsk request (next answer)) : MayAsk request (.call other next)

lemma Asks.of_mayAsk (asks : prog.Asks allowed post)
    (mayAsk : prog.MayAsk request) : allowed request := by
  induction mayAsk with
  | here => exact (asks_call.mp asks).1
  | later answer _ ih => exact ih ((asks_call.mp asks).2 answer)

lemma MayAsk.bind (mayAsk : prog.MayAsk request) : (prog >>= cont).MayAsk request := by
  induction mayAsk with
  | here => exact .here
  | later answer _ ih => exact .later answer ih

/-- The program can come to make one request and another one right after it. -/
inductive MayAskThen (first second : Req) : Program Req Resp α → Prop where
  | here {next : Resp first → Program Req Resp α} {rest : Resp second → Program Req Resp α}
      (answer : Resp first) (follows : next answer = .call second rest) :
      MayAskThen first second (.call first next)
  | later {other : Req} {next : Resp other → Program Req Resp α} (answer : Resp other)
      (rest : MayAskThen first second (next answer)) : MayAskThen first second (.call other next)

lemma MayAskThen.second {first second : Req} (mayAsk : prog.MayAskThen first second) :
    prog.MayAsk second := by
  induction mayAsk with
  | here answer follows => exact .later answer (follows ▸ .here)
  | later answer _ ih => exact .later answer ih

variable {first second : Req}

lemma not_mayAskThen_done : ¬ (done value : Program Req Resp α).MayAskThen first second := by
  intro never
  cases never

lemma MayAskThen.of_call (mayAsk : (call request next).MayAskThen first second) :
    (first = request ∧ ∃ answer rest, next answer = .call second rest) ∨
      ∃ answer, (next answer).MayAskThen first second := by
  cases mayAsk with
  | here answer follows => exact .inl ⟨rfl, answer, _, follows⟩
  | later answer rest => exact .inr ⟨answer, rest⟩

/-- A conversion of the result makes no requests. -/
lemma mayAskThen_bind_done {convert : α → β} :
    (prog >>= fun value => .done (convert value)).MayAskThen first second ↔
      prog.MayAskThen first second := by
  induction prog with
  | done =>
    exact ⟨fun never => (not_mayAskThen_done never).elim,
      fun never => (not_mayAskThen_done never).elim⟩
  | call _ next ih =>
    constructor
    · intro mayAsk
      rcases MayAskThen.of_call mayAsk with ⟨rfl, answer, rest, follows⟩ | ⟨answer, later⟩
      · cases made : next answer with
        | done =>
          rw [made] at follows
          cases follows
        | call =>
          rw [made] at follows
          cases follows
          exact .here answer made
      · exact .later answer ((ih answer).mp later)
    · intro mayAsk
      rcases mayAsk.of_call with ⟨rfl, answer, rest, follows⟩ | ⟨answer, later⟩
      · have converted : (next answer >>= fun value => .done (convert value)) =
            .call second fun result => rest result >>= fun value => .done (convert value) := by
          rw [follows, call_bind]
        exact .here answer converted
      · exact .later answer ((ih answer).mpr later)

variable {allowed : Req₁ ⊕ Req₂ → Prop}

lemma asks_inl {prog : Program Req₁ Resp₁ α}
    (asks : prog.Asks (fun request => allowed (.inl request)) post) :
    (prog.inl : Program (Req₁ ⊕ Req₂) (SumResp Resp₁ Resp₂) α).Asks allowed post := by
  induction prog with
  | done => exact asks_done.mpr (asks_done.mp asks)
  | call _ _ ih =>
    obtain ⟨allows, rest⟩ := asks_call.mp asks
    exact asks_call.mpr ⟨allows, fun answer => ih answer (rest answer)⟩

lemma asks_inr {prog : Program Req₂ Resp₂ α}
    (asks : prog.Asks (fun request => allowed (.inr request)) post) :
    (prog.inr : Program (Req₁ ⊕ Req₂) (SumResp Resp₁ Resp₂) α).Asks allowed post := by
  induction prog with
  | done => exact asks_done.mpr (asks_done.mp asks)
  | call _ _ ih =>
    obtain ⟨allows, rest⟩ := asks_call.mp asks
    exact asks_call.mpr ⟨allows, fun answer => ih answer (rest answer)⟩

end Program

namespace Fallible

/-- Every request is allowed, and every value that the program can return is good, whatever
the calls answer. -/
def Asks (allowed : Req → Prop) (good : α → Prop) (prog : Fallible Req Resp ε α) : Prop :=
  prog.run.Asks allowed fun result => ∀ value, result = .ok value → good value

variable {good : α → Prop} {prog : Fallible Req Resp ε α}

lemma asks_pure (holds : good value) : Asks allowed good (pure value : Fallible Req Resp ε α) := by
  apply asks_done.mpr
  rintro _ ⟨⟩
  exact holds

lemma asks_throw {error : ε} : Asks allowed good (throw error : Fallible Req Resp ε α) := by
  apply asks_done.mpr
  rintro _ ⟨⟩

variable {after : β → Prop}

lemma asks_bind {cont : α → Fallible Req Resp ε β} (first : Asks allowed good prog)
    (rest : ∀ value, good value → Asks allowed after (cont value)) :
    Asks allowed after (prog >>= cont) := by
  rw [Asks, ExceptT.run_bind]
  apply Program.asks_bind
  refine first.mono ?_
  intro result holds
  cases result with
  | ok value => exact rest value (holds value rfl)
  | error => exact asks_throw

variable {others : Req → Prop}

lemma Asks.weaken {fine : α → Prop} (asks : Asks allowed good prog)
    (requests : ∀ request, allowed request → others request)
    (values : ∀ value, good value → fine value) : Asks others fine prog :=
  Program.Asks.weaken asks requests fun _ holds value returned =>
    values value (holds value returned)

lemma asks_request_bind {cont : Resp request → Fallible Req Resp ε β}
    (allows : allowed request) (rest : ∀ answer, Asks allowed after (cont answer)) :
    Asks allowed after (Fallible.request request >>= cont) := by
  rw [Asks, run_request_bind]
  exact asks_call.mpr ⟨allows, rest⟩

lemma asks_mapErr {convert : ε → ε'} (asks : Asks allowed good prog) :
    Asks allowed good (mapErr convert prog) := by
  change (prog.run >>= fun result => .done (result.mapError convert)).Asks allowed _
  apply Program.asks_bind
  refine Program.Asks.mono asks ?_
  intro result holds
  apply asks_done.mpr
  intro _ returned
  cases result with
  | ok =>
    cases returned
    exact holds _ rfl
  | error => cases returned

section

variable {allowed : Req₁ ⊕ Req₂ → Prop}

lemma asks_inl {prog : Fallible Req₁ Resp₁ ε α}
    (asks : Asks (fun request => allowed (.inl request)) good prog) :
    Asks allowed good (inl prog : Fallible (Req₁ ⊕ Req₂) (SumResp Resp₁ Resp₂) ε α) :=
  Program.asks_inl asks

lemma asks_inr {prog : Fallible Req₂ Resp₂ ε α}
    (asks : Asks (fun request => allowed (.inr request)) good prog) :
    Asks allowed good (inr prog : Fallible (Req₁ ⊕ Req₂) (SumResp Resp₁ Resp₂) ε α) :=
  Program.asks_inr asks

end

/-- Every value that the program can return is good, whatever the calls answer. -/
abbrev Promises (good : α → Prop) (prog : Fallible Req Resp ε α) : Prop :=
  Asks (fun _ => True) good prog

lemma promises_true : Promises (fun _ => True) prog :=
  always_of_forall fun _ _ _ => trivial

lemma Asks.of_returns {state after : State}
    (asks : Asks allowed good prog) (returns : Returns service prog state value after) :
    good value :=
  Program.Asks.of_ends asks returns value rfl

variable {cont : Except ε α → Fallible Req Resp ε β}

lemma asks_attempt_bind (first : Asks allowed good prog)
    (rest : ∀ result, Asks allowed after (cont result)) :
    Asks allowed after (attempt prog >>= cont) := by
  rw [Asks, run_attempt_bind]
  exact Program.asks_bind (Program.Asks.mono first fun result _ => rest result)

/-! ### Errors -/

/-- Every request is allowed, and every error is among the given ones, whatever the calls answer.
-/
def Raises (allowed : Req → Prop) (errors : ε → Prop) (prog : Fallible Req Resp ε α) : Prop :=
  prog.run.Asks allowed fun result => ∀ error, result = .error error → errors error

variable {errors : ε → Prop}

lemma raises_pure : Raises allowed errors (pure value : Fallible Req Resp ε α) := by
  apply asks_done.mpr
  rintro _ ⟨⟩

variable {error : ε}

lemma raises_throw (raised : errors error) :
    Raises allowed errors (throw error : Fallible Req Resp ε α) := by
  apply asks_done.mpr
  rintro _ ⟨⟩
  exact raised

lemma raises_bind {cont : α → Fallible Req Resp ε β} (first : Raises allowed errors prog)
    (rest : ∀ value, Raises allowed errors (cont value)) :
    Raises allowed errors (prog >>= cont) := by
  rw [Raises, ExceptT.run_bind]
  apply Program.asks_bind
  refine Program.Asks.mono first ?_
  intro result raised
  cases result with
  | ok value => exact rest value
  | error error => exact raises_throw (raised error rfl)

lemma raises_request_bind {cont : Resp request → Fallible Req Resp ε β}
    (allows : allowed request) (rest : ∀ answer, Raises allowed errors (cont answer)) :
    Raises allowed errors (Fallible.request request >>= cont) := by
  rw [Raises, run_request_bind]
  exact asks_call.mpr ⟨allows, rest⟩

/-- Errors of an attempt are values. -/
lemma raises_attempt_bind (first : Asks allowed good prog)
    (rest : ∀ result, Raises allowed errors (cont result)) :
    Raises allowed errors (attempt prog >>= cont) := by
  rw [Raises, run_attempt_bind]
  exact Program.asks_bind (Program.Asks.mono first fun result _ => rest result)

lemma Raises.asks (raises : Raises allowed errors prog) : Asks allowed (fun _ => True) prog :=
  Program.Asks.mono raises fun _ _ _ _ => trivial

lemma Raises.allow (raises : Raises allowed errors prog)
    (implies : ∀ request, allowed request → others request) : Raises others errors prog :=
  Program.Asks.weaken raises implies fun _ => id

/-! ### Values and errors -/

/-- Every request is allowed, every value is good, and every error is among the given ones,
whatever the calls answer. -/
def Within (allowed : Req → Prop) (good : α → Prop) (errors : ε → Prop)
    (prog : Fallible Req Resp ε α) : Prop :=
  prog.run.Asks allowed fun result =>
    match result with
    | .ok value => good value
    | .error error => errors error

lemma within_pure (holds : good value) :
    Within allowed good errors (pure value : Fallible Req Resp ε α) :=
  asks_done.mpr holds

lemma within_throw (raised : errors error) :
    Within allowed good errors (throw error : Fallible Req Resp ε α) :=
  asks_done.mpr raised

lemma within_true : Within (fun _ => True) (fun _ => True) (fun _ => True) prog := by
  refine always_of_forall fun result => ?_
  cases result with
  | ok => trivial
  | error => trivial

lemma within_bind {cont : α → Fallible Req Resp ε β} (first : Within allowed good errors prog)
    (rest : ∀ value, good value → Within allowed after errors (cont value)) :
    Within allowed after errors (prog >>= cont) := by
  rw [Within, ExceptT.run_bind]
  apply Program.asks_bind
  refine Program.Asks.mono first ?_
  intro result holds
  cases result with
  | ok value => exact rest value holds
  | error => exact within_throw holds

lemma within_request_bind {cont : Resp request → Fallible Req Resp ε β} (allows : allowed request)
    (rest : ∀ answer, Within allowed after errors (cont answer)) :
    Within allowed after errors (Fallible.request request >>= cont) := by
  rw [Within, run_request_bind]
  exact asks_call.mpr ⟨allows, rest⟩

lemma Within.weaken {fine : α → Prop} (within : Within allowed good errors prog)
    (values : ∀ value, good value → fine value) : Within allowed fine errors prog := by
  refine Program.Asks.mono within ?_
  intro result holds
  cases result with
  | ok value => exact values value holds
  | error => exact holds

lemma Within.asks (within : Within allowed good errors prog) : Asks allowed good prog := by
  refine Program.Asks.mono within ?_
  intro _ holds _ returned
  subst returned
  exact holds

lemma Within.raises (within : Within allowed good errors prog) :
    Raises allowed errors prog := by
  refine Program.Asks.mono within ?_
  intro _ holds _ raised
  subst raised
  exact holds

section

variable {allowed : Req₁ ⊕ Req₂ → Prop}

lemma within_inl {prog : Fallible Req₁ Resp₁ ε α}
    (within : Within (fun request => allowed (.inl request)) good errors prog) :
    Within allowed good errors (inl prog : Fallible (Req₁ ⊕ Req₂) (SumResp Resp₁ Resp₂) ε α) :=
  Program.asks_inl within

lemma within_inr {prog : Fallible Req₂ Resp₂ ε α}
    (within : Within (fun request => allowed (.inr request)) good errors prog) :
    Within allowed good errors (inr prog : Fallible (Req₁ ⊕ Req₂) (SumResp Resp₁ Resp₂) ε α) :=
  Program.asks_inr within

end

lemma Raises.of_fails {state after : State}
    (raises : Raises allowed errors prog) (fails : Fails service prog state error after) :
    errors error :=
  Program.Asks.of_ends raises fails error rfl

end Fallible

/-! ## Watching for a call -/

/-- Same service with a record of whether a call of some kind was served. -/
def Service.watch (service : Service Req Resp State)
    (noted : (request : Req) → Resp request → Bool) : Service Req Resp (State × Bool) where
  serve request now :=
    let served := service.serve request now.1
    (served.1, served.2, now.2 || noted request served.1)
  faulty := service.faulty

variable {answer : Resp request}

/-- A call leaves the record as it is, or sets it because the call is noted. -/
lemma Service.Answers.of_watch {noted : (request : Req) → Resp request → Bool}
    {before after : State × Bool}
    (answers : (service.watch noted).Answers request before answer after) :
    service.Answers request before.1 answer after.1 ∧
      (after.2 = (before.2 || noted request answer) ∨
        service.faulty request answer ∧ after.2 = before.2) := by
  rcases answers with served | ⟨faulty, rfl⟩
  · cases served
    exact ⟨.inl rfl, .inl rfl⟩
  · exact ⟨.inr ⟨faulty, rfl⟩, .inr ⟨faulty, rfl⟩⟩

/-! ## Recording the calls -/

/-- Same service with a record of the calls that were served. -/
def Service.recording (service : Service Req Resp State) : Service Req Resp (State × List Req) where
  serve request now :=
    let served := service.serve request now.1
    (served.1, served.2, now.2 ++ [request])
  faulty := service.faulty

variable {before after : State}

lemma Service.Answers.recorded (log : List Req)
    (answers : service.Answers request before answer after) :
    ∃ asked, service.recording.Answers request (before, log) answer (after, log ++ asked) := by
  rcases answers with served | ⟨faulty, rfl⟩
  · refine ⟨[request], .inl ?_⟩
    exact congrArg (fun result => (result.1, result.2, log ++ [request])) served
  · exact ⟨[], .inr ⟨faulty, by rw [List.append_nil]⟩⟩

variable {prog : Program Req Resp α}

/-- Every run can be recorded. -/
lemma Program.Ends.recorded (log : List Req) (ends : Ends service prog before value after) :
    ∃ asked, Ends service.recording prog (before, log) value (after, log ++ asked) := by
  induction ends generalizing log with
  | done => exact ⟨[], by rw [List.append_nil]; exact .done⟩
  | call answers _ ih =>
    obtain ⟨first, here⟩ := answers.recorded log
    obtain ⟨others, later⟩ := ih (log ++ first)
    exact ⟨first ++ others, by rw [← List.append_assoc]; exact .call here later⟩

/-- Only allowed requests are recorded. -/
lemma Program.Asks.of_recorded
    {post : α → Prop} {before after : State × List Req} (asks : prog.Asks allowed post)
    (ends : Ends service.recording prog before value after) :
    ∀ request ∈ after.2, request ∈ before.2 ∨ allowed request := by
  induction ends with
  | done => exact fun request mem => .inl mem
  | call answers _ ih =>
    obtain ⟨allows, rest⟩ := asks_call.mp asks
    intro request mem
    rcases ih (rest _) request mem with earlier | allowed
    · rcases answers with served | ⟨_, same⟩
      · cases served
        rcases List.mem_append.mp earlier with before | now
        · exact .inl before
        · rw [List.mem_singleton] at now
          exact .inr (now ▸ allows)
      · exact .inl (same ▸ earlier)
    · exact .inr allowed

/-- What every transition guarantees holds in every state that is reached. -/
lemma Program.wp_reached {invariant : State → Prop}
    {post : α → State → Prop} {rest : Program Req Resp α} {state left : State}
    (holds : prog.wp service (fun _ after => invariant after) post state) (start : invariant state)
    (reached : Relation.ReflTransGen (Step service) (prog, state) (rest, left)) :
    invariant left := by
  have along : ∀ {config : Program Req Resp α × State},
      Relation.ReflTransGen (Step service) (prog, state) config →
        invariant config.2 ∧ config.1.wp service (fun _ after => invariant after) post config.2 := by
    intro _ steps
    induction steps with
    | refl => exact ⟨start, holds⟩
    | tail _ step ih => exact wp_step ih.2 step
  exact (along reached).1

namespace Method

/-- A call on this receiver leaves it with the property, whatever the calls answer. -/
def KeepsAt (property : σ → Prop) (method : Method Req Resp σ ε α) (self : σ) : Prop :=
  (method.exec self).Always fun outcome => property outcome.2

variable {property : σ → Prop} {self : σ}

lemma keepsAt_pure (holds : property self) :
    KeepsAt property (pure value : Method Req Resp σ ε α) self := asks_done.mpr holds

lemma keepsAt_throw {error : ε} (holds : property self) :
    KeepsAt property (throw error : Method Req Resp σ ε α) self := asks_done.mpr holds

lemma keepsAt_set {next : σ} (holds : property next) :
    KeepsAt property (set next : Method Req Resp σ ε PUnit) self := asks_done.mpr holds

lemma keepsAt_get_bind {cont : σ → Method Req Resp σ ε β}
    (keeps : KeepsAt property (cont self) self) :
    KeepsAt property (get >>= cont) self := by
  rw [KeepsAt, exec_get_bind]
  exact keeps

variable {method : Method Req Resp σ ε α} {cont : α → Method Req Resp σ ε β}

lemma keepsAt_bind (first : KeepsAt property method self)
    (rest : ∀ value next, property next → KeepsAt property (cont value) next) :
    KeepsAt property (method >>= cont) self := by
  rw [KeepsAt, exec_bind]
  apply Program.asks_bind
  refine first.mono ?_
  rintro ⟨result, next⟩ holds
  cases result with
  | ok value => exact rest value next holds
  | error => exact asks_done.mpr holds

/-- What follows a method that keeps the property starts on a receiver that has it. -/
lemma KeepsAt.wp_bind {post : Except ε β × σ → State → Prop} (first : KeepsAt property method self)
    (fails : ∀ error next after, post (.error error, next) after)
    (rest : ∀ value next after, property next →
      ((cont value).exec next).wp service (fun _ _ => True) post after) :
    ((method >>= cont).exec self).wp service (fun _ _ => True) post state := by
  rw [Method.wp_bind]
  refine wp_mono ?_ (Program.Asks.wp first)
  rintro ⟨result, next⟩ after holds
  cases result with
  | ok value => exact rest value next after holds
  | error error => exact fails error next after

lemma keepsAt_ofFallible {prog : Fallible Req Resp ε α} (holds : property self) :
    KeepsAt property (ofFallible prog : Method Req Resp σ ε α) self := by
  rw [KeepsAt, exec_ofFallible]
  apply Program.asks_bind
  exact always_of_forall fun _ => asks_done.mpr holds

lemma keepsAt_mapErr {convert : ε → ε'}
    (keeps : KeepsAt property method self) : KeepsAt property (mapErr convert method) self := by
  rw [KeepsAt, exec_mapErr]
  apply Program.asks_bind
  exact keeps.mono fun _ holds => asks_done.mpr holds

end Method

end Parqonaut.Effects
