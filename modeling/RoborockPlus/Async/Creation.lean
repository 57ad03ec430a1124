import RoborockPlus.Async.History

/-! The creation of tasks. A coroutine that creates none may be verified with an
invariant that its own creations would void. -/
namespace RoborockPlus.Async
variable {L : Signature} {α β : Type}

/-- This coroutine creates no task. -/
def Co.Alone : {α : Type} → Co L α → Prop
  | _, .ret _ | _, .throw _ | _, .act _ | _, .emit _ | _, .cancel _ | _, .await _ => True
  | _, .spawn _ => False
  | _, .bind first next => first.Alone ∧ ∀ value, (next value).Alone
  | _, .attempt body handler => body.Alone ∧ ∀ error, (handler error).Alone
  | _, .poll body _ => body.Alone

section Alone

@[simp] theorem alone_pure (value : α) : (pure value : Co L α).Alone := trivial

@[simp] theorem alone_throw (error : L.Exn) : (Co.throw error : Co L α).Alone := trivial

@[simp] theorem alone_cancel (task : ℕ) : (Co.cancel task : Co L Unit).Alone := trivial

@[simp] theorem alone_emit (event : L.Event) : (Co.emit event : Co L Unit).Alone := trivial

@[simp] theorem alone_modify (f : L.State → L.State) : (Co.modify f : Co L Unit).Alone := trivial

@[simp] theorem alone_bind (first : Co L β) (next : β → Co L α) :
    (first >>= next).Alone ↔ first.Alone ∧ ∀ value, (next value).Alone := Iff.rfl

@[simp] theorem alone_attempt (body : Co L α) (handler : L.Exn → Co L α) :
    (Co.attempt body handler).Alone ↔ body.Alone ∧ ∀ error, (handler error).Alone := Iff.rfl

@[simp] theorem alone_poll (body : Co L (Option α)) (request : L.Request) :
    (Co.poll body request).Alone ↔ body.Alone := Iff.rfl

@[simp] theorem alone_guarded {body : Co L α} {cleanup : Co L Unit} (main : body.Alone) (last : cleanup.Alone) :
    (Co.guarded body cleanup).Alone :=
  ⟨⟨main,fun _ => ⟨last,fun _ => trivial⟩⟩,fun _ => ⟨last,fun _ => trivial⟩⟩

@[simp] theorem alone_ite (c : Prop) [Decidable c] (a b : Co L α) :
    (if c then a else b).Alone ↔ (c → a.Alone) ∧ (¬c → b.Alone) := by
  split <;> simp_all

end Alone

/-- So far the task has created none. -/
def Childless (t : ℕ) (p : Point L) : Prop := ∀ n call, .spawned t n call ∉ p.history

/-- The invariant, up to the first task that `t` creates. -/
abbrev Until (I : Point L → Prop) (t : ℕ) (p : Point L) : Prop := Childless t p → I p

section Childless
variable {I F : Point L → Prop} {t : ℕ} {p q : Point L} {item : Item L}

theorem Childless.before {s : L.State} (childless : Childless t ⟨s,item :: p.history⟩) : Childless t p :=
  fun n call member => childless n call (List.mem_cons_of_mem _ member)

theorem Childless.push {s : L.State} (childless : Childless t p) (other : ∀ n call, item ≠ .spawned t n call) :
    Childless t ⟨s,item :: p.history⟩ := by
  intro n call member
  rcases List.mem_cons.mp member with same | old
  · exact other n call same.symm
  · exact childless n call old

theorem Childless.stable (t : ℕ) : Stable t (Childless (L := L) t) := by
  intro p q childless later n call member
  have mine : .spawned t n call ∈ Async.own t q.history := List.mem_filter.mpr ⟨member,by simp [Item.owner]⟩
  rw [later.own] at mine
  exact childless n call (List.mem_filter.mp mine).1

theorem Childless.begun {call : L.Call} (begun : own t p.history = [.started t call]) : Childless t p := by
  intro n other member
  have mine : .spawned t n other ∈ own t p.history := List.mem_filter.mpr ⟨member,by simp [Item.owner]⟩
  rw [begun] at mine
  simp at mine

theorem Until.ignores {R : L.State → L.State → Prop} {S : L.Event → Prop}
    (act : ∀ p s, I p → R p.state s → I {p with state := s})
    (event : ∀ p event, I p → S event → I (p.push (.event t event)))
    (waiting : ∀ p request, I p → I (p.push (.waiting t request)))
    (resumed : ∀ p answer, I p → I (p.push (.resumed t answer))) : Ignores (Until I t) t R S where
  act p s held moves childless := act p s (held childless) moves
  event p e held inside childless := event p e (held childless.before) inside
  spawned _ n call _ childless := absurd List.mem_cons_self (childless n call)
  waiting p request held childless := waiting p request (held childless.before)
  resumed p answer held childless := resumed p answer (held childless.before)

theorem Co.Alone.wp {m : Co L α} (alone : m.Alone) {Q : α → Point L → Prop} {X : L.Exn → Point L → Prop}
    (held : wp (Until I t) t m Q X p) (childless : Childless t p) :
    wp I t m (fun value q => Q value q ∧ Childless t q) (fun error q => X error q ∧ Childless t q) p := by
  have push {p : Point L} (childless : Childless t p) {item : Item L} (other : ∀ n call, item ≠ .spawned t n call) :
      Childless t (p.push item) := childless.push other
  have wait {request : L.Request} {Q : L.Reply → Point L → Prop} {X : L.Exn → Point L → Prop} {p : Point L}
      (held : Suspends (Until I t) t request Q X p) (childless : Childless t p) :
      Suspends I t request (fun reply q => Q reply q ∧ Childless t q) (fun error q => X error q ∧ Childless t q) p := by
    have waits : Childless t (p.push (.waiting t request)) := push childless (by simp)
    refine ⟨held.1 waits,fun q inv later answer => ?_⟩
    have ended := held.2 q (fun _ => inv) later answer
    have kept : Childless t (q.push (.resumed t answer)) := push (Childless.stable t _ _ waits later) (by simp)
    cases answer with
    | ok reply => exact ⟨ended,kept⟩
    | error error => exact ⟨ended,kept⟩
  induction m generalizing X p with
  | ret value => exact ⟨held,childless⟩
  | throw error => exact ⟨held,childless⟩
  | act f => exact ⟨held,childless⟩
  | emit event => exact ⟨held,push childless (by simp)⟩
  | spawn call => exact alone.elim
  | cancel task => exact ⟨held,childless⟩
  | await request => exact wait held childless
  | bind first next firstAlone nextAlone =>
    rw [wp_seq] at held ⊢
    refine wp_mono (firstAlone alone.1 held childless) ?_ (fun _ _ both => both)
    exact fun value q both => nextAlone value (alone.2 value) both.1 both.2
  | attempt body handler bodyAlone handlerAlone =>
    rw [wp_attempt] at held ⊢
    refine wp_mono (bodyAlone alone.1 held childless) (fun _ _ both => both) ?_
    exact fun error q both => handlerAlone error (alone.2 error) both.1 both.2
  | poll body request bodyAlone =>
    obtain ⟨J,entry,iteration⟩ := held
    refine ⟨fun q => J q ∧ Childless t q,⟨entry,childless⟩,fun q loop => ?_⟩
    refine wp_mono (bodyAlone alone (iteration q loop.1) loop.2) ?_ (fun _ _ both => both)
    intro found q both
    cases found with
    | some value => exact both
    | none => exact wait both.1 both.2

theorem Co.Alone.carries {m : Co L α} (alone : m.Alone) (carries : Carries (Until I t) F t m) :
    Carries I (fun p => F p ∧ Childless t p) t m := by
  intro p inv both
  have inside := alone.wp (carries p (fun _ => inv) both.1) both.2
  exact wp_mono inside (fun _ _ held => ⟨held.1.1 held.2,held.1.2,held.2⟩) (fun _ _ held => ⟨held.1.1 held.2,held.1.2,held.2⟩)

end Childless

end RoborockPlus.Async
