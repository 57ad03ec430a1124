import RoborockPlus.Async.Loop

/-! Angelic preconditions: what a coroutine returns with in some run. The environment
of each suspension is chosen here, where `wp` has to endure it. -/
namespace RoborockPlus.Async
variable {L : Signature} {α β : Type}

/-- What happens outside while no task goes on. -/
def Program.observe (P : Program L) (inputs : List L.Stimulus) (p : Point L) : Point L :=
  inputs.foldl (fun p input => ⟨P.outside input p.state,.outside input :: p.history⟩) p

theorem Program.observe_suffix (P : Program L) (inputs : List L.Stimulus) (p : Point L) :
    p.history <:+ (P.observe inputs p).history := by
  induction inputs generalizing p with
  | nil => exact List.suffix_refl _
  | cons first rest ih => exact (List.suffix_cons _ _).trans (ih ⟨P.outside first p.state,.outside first :: p.history⟩)

def MaySuspend (P : Program L) (t : ℕ) (request : L.Request) (Q : L.Reply → Point L → Prop) (p : Point L) : Prop :=
  ∃ inputs reply, Q reply ((P.observe inputs (p.push (.waiting t request))).push (.resumed t (.ok reply)))

/-- Some run of a coroutine that neither creates nor cancels tasks returns so. -/
def may (P : Program L) (t : ℕ) : {α : Type} → Co L α → (α → Point L → Prop) → Point L → Prop
  | _, .ret value, Q, p => Q value p
  | _, .throw _, _, _ | _, .spawn _, _, _ | _, .cancel _, _, _ => False
  | _, .act f, Q, p => Q (f p.state).1 {p with state := (f p.state).2}
  | _, .emit event, Q, p => Q () (p.push (.event t event))
  | _, .await request, Q, p => MaySuspend P t request Q p
  | _, .bind first next, Q, p => may P t first (fun value => may P t (next value) Q) p
  | _, .attempt body _, Q, p => may P t body Q p
  | _, .poll body request, Q, p =>
    ∃ n : ℕ, (fun rounds => may P t body fun found q => match found with
      | some value => Q value q
      | none => MaySuspend P t request (fun _ => rounds) q)^[n] (fun _ => False) p

section Rules
variable (P : Program L) (t : ℕ) {Q Q' : α → Point L → Prop} (p : Point L)

@[simp] theorem may_pure (value : α) : may P t (pure value) Q p = Q value p := rfl

@[simp] theorem may_get (Q : L.State → Point L → Prop) : may P t .get Q p = Q p.state p := rfl

@[simp] theorem may_modify (f : L.State → L.State) (Q : Unit → Point L → Prop) :
    may P t (.modify f) Q p = Q () {p with state := f p.state} := rfl

@[simp] theorem may_emit (event : L.Event) (Q : Unit → Point L → Prop) :
    may P t (.emit event) Q p = Q () (p.push (.event t event)) := rfl

@[simp] theorem may_await (request : L.Request) (Q : L.Reply → Point L → Prop) :
    may P t (.await request) Q p = MaySuspend P t request Q p := rfl

@[simp] theorem may_bind (first : Co L β) (next : β → Co L α) :
    may P t (first >>= next) Q p = may P t first (fun value => may P t (next value) Q) p := rfl

@[simp] theorem may_attempt (body : Co L α) (handler : L.Exn → Co L α) :
    may P t (.attempt body handler) Q p = may P t body Q p := rfl

@[simp] theorem may_ite (c : Prop) [Decidable c] (a b : Co L α) :
    may P t (if c then a else b) Q p = if c then may P t a Q p else may P t b Q p := by
  split <;> rfl

end Rules

section
variable {P : Program L} {t : ℕ} {p : Point L}

theorem may_mono {m : Co L α} {Q Q' : α → Point L → Prop} (held : may P t m Q p) (weaker : ∀ v q, Q v q → Q' v q) :
    may P t m Q' p := by
  induction m generalizing p with
  | ret value => exact weaker _ _ held
  | throw error => exact held.elim
  | act f => exact weaker _ _ held
  | emit event => exact weaker _ _ held
  | spawn call => exact held.elim
  | cancel task => exact held.elim
  | await request => exact held.imp fun inputs held => held.imp fun reply held => weaker _ _ held
  | bind first next firstMono nextMono => exact firstMono held fun value q held => nextMono value held weaker
  | attempt body handler bodyMono handlerMono => exact bodyMono held weaker
  | poll body request bodyMono =>
    obtain ⟨n,held⟩ := held
    refine ⟨n,?_⟩
    induction n generalizing p with
    | zero => exact held.elim
    | succ n ih =>
      rw [Function.iterate_succ_apply'] at held ⊢
      refine bodyMono held fun found q held => ?_
      cases found with
      | some value => exact weaker value q held
      | none => exact held.imp fun inputs held => held.imp fun reply held => ih held

theorem may_poll_twice {body : Co L (Option α)} {request : L.Request} {Q : α → Point L → Prop}
    (held : may P t body (fun found q => match found with
      | some value => Q value q
      | none => MaySuspend P t request (fun _ => may P t body fun found q => ∃ value, found = some value ∧ Q value q) q) p) :
    may P t (.poll body request) Q p := by
  refine ⟨2,?_⟩
  rw [Function.iterate_succ_apply',Function.iterate_succ_apply']
  refine may_mono held fun found q held => ?_
  cases found with
  | some value => exact held
  | none =>
    refine held.imp fun inputs held => held.imp fun reply held => may_mono held ?_
    rintro _ q ⟨value,rfl,held⟩
    exact held

def Conf.moved (c : Conf L) (p : Point L) : Conf L := ⟨p,c.next,c.ready,c.cancelled⟩

/-- The environment may lead this outcome of a slice to a return. -/
inductive Finishes (P : Program L) (t : ℕ) : Out L α × Conf L → α → Conf L → Prop
  | done {value : α} {c : Conf L} (free : c.cancelled = []) : Finishes P t (.done value,c) value c
  | wait {request : L.Request} {rest : Except L.Exn L.Reply → Co L α} {c d : Conf L} {value : α}
    (inputs : List L.Stimulus) (reply : L.Reply) (free : c.cancelled = [])
    (ends : Finishes P t ((rest (.ok reply)).run t
      (c.moved ((P.observe inputs (c.toPoint.push (.waiting t request))).push (.resumed t (.ok reply))))) value d) :
    Finishes P t (.wait request rest,c) value d

def Out.andThen (t : ℕ) (next : β → Co L α) : Out L β × Conf L → Out L α × Conf L
  | (.done value,c) => (next value).run t c
  | (.failed error,c) => (.failed error,c)
  | (.wait request rest,c) => (.wait request fun answer => .bind (rest answer) next,c)

theorem run_bind (first : Co L β) (next : β → Co L α) (c : Conf L) :
    (Co.bind first next).run t c = Out.andThen t next (first.run t c) := by
  rw [Co.run]
  rcases first.run t c with ⟨_ | _ | _,d⟩ <;> rfl

theorem run_poll (body : Co L (Option α)) (request : L.Request) (c : Conf L) :
    (Co.poll body request).run t c = Out.andThen t (.again body request) (body.run t c) := by
  rw [Co.run]
  rcases body.run t c with ⟨(_ | _) | _ | _,d⟩ <;> rfl

theorem Finishes.free {out : Out L α × Conf L} {value : α} {d : Conf L} (ends : Finishes P t out value d) : d.cancelled = [] := by
  induction ends with
  | done free => exact free
  | wait inputs reply free ends ih => exact ih

theorem Finishes.andThen {next : β → Co L α} {out : Out L β × Conf L} {value : β} {result : α} {d e : Conf L}
    (first : Finishes P t out value d) (second : Finishes P t ((next value).run t d) result e) :
    Finishes P t (Out.andThen t next out) result e := by
  induction first with
  | done free => exact second
  | wait inputs reply free ends ih =>
    refine .wait inputs reply free ?_
    rw [run_bind]
    exact ih second

theorem Finishes.attempt {body : Co L α} {handler : L.Exn → Co L α} {c d : Conf L} {value : α}
    (ends : Finishes P t (body.run t c) value d) : Finishes P t ((Co.attempt body handler).run t c) value d := by
  generalize ran : body.run t c = out at ends
  induction ends generalizing body c with
  | done free =>
    rw [Co.run,ran]
    exact .done free
  | wait inputs reply free ends ih =>
    rw [Co.run,ran]
    exact .wait inputs reply free (ih rfl)

theorem may_sound {m : Co L α} {Q : α → Point L → Prop} {c : Conf L} (free : c.cancelled = []) (held : may P t m Q c.toPoint) :
    ∃ value d, Finishes P t (m.run t c) value d ∧ Q value d.toPoint := by
  induction m generalizing c with
  | ret value => exact ⟨value,c,.done free,held⟩
  | throw error => exact held.elim
  | act f => exact ⟨_,_,.done free,held⟩
  | emit event => exact ⟨_,_,.done free,held⟩
  | spawn call => exact held.elim
  | cancel task => exact held.elim
  | await request =>
    obtain ⟨inputs,reply,held⟩ := held
    exact ⟨reply,_,.wait inputs reply free (.done free),held⟩
  | bind first next firstSound nextSound =>
    obtain ⟨value,d,head,held⟩ := firstSound free held
    obtain ⟨result,e,tail,held⟩ := nextSound value head.free held
    rw [run_bind]
    exact ⟨result,e,head.andThen tail,held⟩
  | attempt body handler bodySound handlerSound =>
    obtain ⟨value,d,ends,held⟩ := bodySound free held
    exact ⟨value,d,ends.attempt,held⟩
  | poll body request bodySound =>
    obtain ⟨n,held⟩ := held
    induction n generalizing c with
    | zero => exact held.elim
    | succ n ih =>
      rw [Function.iterate_succ_apply'] at held
      obtain ⟨found,d,head,held⟩ := bodySound free held
      rw [run_poll]
      cases found with
      | some value => exact ⟨value,d,head.andThen (.done head.free),held⟩
      | none =>
        obtain ⟨inputs,reply,held⟩ := held
        let q := (P.observe inputs (d.toPoint.push (.waiting t request))).push (.resumed t (.ok reply))
        obtain ⟨result,e,tail,held⟩ := ih (c := d.moved q) head.free held
        refine ⟨result,e,head.andThen (.wait inputs reply head.free ?_),held⟩
        rw [run_bind]
        exact tail

theorem exec_outside (inputs : List L.Stimulus) (c : Conf L) (tasks : List (Task L)) :
    (Loop.mk c tasks).exec P (inputs.map .outside) = ⟨c.moved (P.observe inputs c.toPoint),tasks⟩ := by
  induction inputs generalizing c with
  | nil => rfl
  | cons input inputs ih => exact ih _

theorem Finishes.exec {out : Out L Unit × Conf L} {value : Unit} {d : Conf L} (ends : Finishes P t out value d) :
    ∃ schedule, ((Loop.settle [] t out).exec P schedule).conf = d.push (.finished t) := by
  induction ends with
  | done free => exact ⟨[],rfl⟩
  | @wait request rest c d value inputs reply free ends ih =>
    obtain ⟨schedule,reached⟩ := ih
    refine ⟨inputs.map .outside ++ .resume t (.ok reply) :: schedule,?_⟩
    have waited := exec_outside (P := P) inputs (c.push (.waiting t request)) [⟨t,rest⟩]
    rw [← reached]
    unfold Loop.exec at waited ⊢
    rw [List.foldl_append,List.foldl_cons]
    change (List.foldl (Loop.step P) (Loop.step P (List.foldl (Loop.step P) ⟨c.push (.waiting t request),[⟨t,rest⟩]⟩
      (inputs.map .outside)) (.resume t (.ok reply))) schedule).conf = _
    rw [waited]
    simp [Loop.step,Conf.moved,Conf.push,free]
    rfl

/-- A call may return in some run, from wherever its surroundings were taken before it. -/
theorem exec_may {state : L.State} {call : L.Call} {Q : Point L → Prop} (entry : P.entry call = true) (inputs : List L.Stimulus)
    (held : may P 0 (P.body call) (fun _ => Q) ((P.observe inputs ⟨state,[]⟩).push (.started 0 call))) :
    ∃ schedule q, Q q ∧ ((Loop.init state).exec P schedule).conf.toPoint = q.push (.finished 0) := by
  obtain ⟨value,d,ends,held⟩ := may_sound (c := ⟨_,1,[],[]⟩) rfl held
  obtain ⟨schedule,reached⟩ := ends.exec
  refine ⟨inputs.map .outside ++ .call call :: schedule,d.toPoint,held,?_⟩
  have begun := exec_outside (P := P) inputs (Loop.init state).conf []
  unfold Loop.exec at begun reached ⊢
  rw [List.foldl_append,List.foldl_cons]
  change (List.foldl (Loop.step P) (Loop.step P (List.foldl (Loop.step P) ⟨(Loop.init state).conf,[]⟩
    (inputs.map .outside)) (.call call)) schedule).conf.toPoint = _
  rw [begun]
  simp only [Loop.step,entry,if_true]
  exact congrArg Conf.toPoint reached

end

end RoborockPlus.Async
