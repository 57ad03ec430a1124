import RoborockPlus.Async.Coroutine
import Mathlib.Data.List.Infix
import Mathlib.Tactic

/-! Weakest preconditions for coroutines under interference. A coroutine must
establish the invariant whenever it suspends, and may rely on it, and on its own
part of the history, when it is resumed. Nothing else survives a suspension. -/
namespace RoborockPlus.Async
variable {L : Signature} {α β : Type}

namespace Item

def owner : Item L → Option ℕ
  | .outside _ => none
  | .started task _ | .spawned task _ _ | .event task _ | .waiting task _
  | .resumed task _ | .finished task | .failed task _ => some task

def names : Item L → List ℕ
  | .outside _ => []
  | .spawned task child _ => [task,child]
  | .started task _ | .event task _ | .waiting task _
  | .resumed task _ | .finished task | .failed task _ => [task]

theorem mem_names_of_owner {item : Item L} {t : ℕ} (owned : item.owner = some t) : t ∈ item.names := by
  cases item <;> simp_all [owner,names]

end Item

def own (t : ℕ) (history : List (Item L)) : List (Item L) :=
  history.filter fun item => item.owner == some t

@[simp] theorem own_nil (t : ℕ) : own t ([] : List (Item L)) = [] := rfl

theorem own_cons_self {t : ℕ} {item : Item L} (history : List (Item L)) (owned : item.owner = some t) :
    own t (item :: history) = item :: own t history := by
  simp [own,owned]

theorem own_cons_other {t : ℕ} {item : Item L} (history : List (Item L)) (other : item.owner ≠ some t) :
    own t (item :: history) = own t history := by
  simp [own,other]

@[simp] theorem own_append (t : ℕ) (first second : List (Item L)) :
    own t (first++second) = own t first ++ own t second := by
  simp [own]

theorem of_unowned {A : List (Item L) → Prop} {t : ℕ} {history : List (Item L)} (empty : own t history = []) (start : A [])
    (step : ∀ item past, item.owner ≠ some t → A past → A (item :: past)) : A history := by
  induction history with
  | nil => exact start
  | cons item past ih =>
    have foreign : item.owner ≠ some t := fun owned => by simp [own_cons_self past owned] at empty
    rw [own_cons_other past foreign] at empty
    exact step item past foreign (ih empty)

/-- What a suspended task knows when it goes on: the history has only grown, and
nothing was added in its name. -/
structure Later (t : ℕ) (p q : Point L) : Prop where
  suffix : p.history <:+ q.history
  own : own t q.history = own t p.history

theorem Later.refl (t : ℕ) (p : Point L) : Later t p p := ⟨List.suffix_refl _,rfl⟩

theorem Later.trans {t : ℕ} {p q r : Point L} (first : Later t p q) (second : Later t q r) :
    Later t p r :=
  ⟨first.suffix.trans second.suffix,second.own.trans first.own⟩

theorem Later.of_push {t : ℕ} {p : Point L} {item : Item L} (s : L.State)
    (other : item.owner ≠ some t) : Later t p ⟨s,item :: p.history⟩ :=
  ⟨List.suffix_cons _ _,own_cons_other _ other⟩

def Fresh (n : ℕ) (p : Point L) : Prop := ∀ item ∈ p.history, n ∉ item.names

theorem Fresh.own_nil {n : ℕ} {p : Point L} (fresh : Fresh n p) : own n p.history = [] := by
  simp only [own,List.filter_eq_nil_iff,beq_iff_eq]
  exact fun item member owned => fresh item member (Item.mem_names_of_owner owned)

def answered (Q : L.Reply → Point L → Prop) (X : L.Exn → Point L → Prop) :
    Except L.Exn L.Reply → Point L → Prop
  | .ok value => Q value
  | .error error => X error

/-- Suspending on a request: the invariant holds now, and whatever happens in
between, the continuation is good for any answer. -/
def Suspends (I : Point L → Prop) (t : ℕ) (request : L.Request)
    (Q : L.Reply → Point L → Prop) (X : L.Exn → Point L → Prop) (p : Point L) : Prop :=
  I (p.push (.waiting t request)) ∧
    ∀ q, I q → Later t (p.push (.waiting t request)) q →
      ∀ answer, answered Q X answer (q.push (.resumed t answer))

def wp (I : Point L → Prop) (t : ℕ) : {α : Type} → Co L α →
    (α → Point L → Prop) → (L.Exn → Point L → Prop) → Point L → Prop
  | _, .ret value, Q, _, p => Q value p
  | _, .throw error, _, X, p => X error p
  | _, .act f, Q, _, p => Q (f p.state).1 {p with state := (f p.state).2}
  | _, .emit event, Q, _, p => Q () (p.push (.event t event))
  | _, .spawn call, Q, _, p => ∀ n, Fresh n p → Q n (p.push (.spawned t n call))
  | _, .cancel _, Q, _, p => Q () p
  | _, .await request, Q, X, p => Suspends I t request Q X p
  | _, .bind first next, Q, X, p => wp I t first (fun value => wp I t (next value) Q X) X p
  | _, .attempt body handler, Q, X, p => wp I t body Q (fun error => wp I t (handler error) Q X) p
  | _, .poll body request, Q, X, p =>
    ∃ J : Point L → Prop, J p ∧ ∀ q, J q →
      wp I t body (fun found q => match found with
        | some value => Q value q
        | none => Suspends I t request (fun _ => J) X q) X q

section Rules
variable (I : Point L → Prop) (t : ℕ) {Q Q' : α → Point L → Prop} {X X' : L.Exn → Point L → Prop}
  (p : Point L)

@[simp] theorem wp_pure (value : α) : wp I t (pure value) Q X p = Q value p := rfl

@[simp] theorem wp_throw (error : L.Exn) : wp I t (.throw error) Q X p = X error p := rfl

@[simp] theorem wp_get (Q : L.State → Point L → Prop) : wp I t .get Q X p = Q p.state p := rfl

@[simp] theorem wp_modify (f : L.State → L.State) (Q : Unit → Point L → Prop) :
    wp I t (.modify f) Q X p = Q () {p with state := f p.state} := rfl

@[simp] theorem wp_emit (event : L.Event) (Q : Unit → Point L → Prop) :
    wp I t (.emit event) Q X p = Q () (p.push (.event t event)) := rfl

@[simp] theorem wp_seq (first : Co L β) (next : β → Co L α) :
    wp I t (.bind first next) Q X p = wp I t first (fun value => wp I t (next value) Q X) X p := rfl

@[simp] theorem wp_bind (first : Co L β) (next : β → Co L α) :
    wp I t (first >>= next) Q X p = wp I t first (fun value => wp I t (next value) Q X) X p := rfl

@[simp] theorem wp_attempt (body : Co L α) (handler : L.Exn → Co L α) :
    wp I t (.attempt body handler) Q X p =
      wp I t body Q (fun error => wp I t (handler error) Q X) p := rfl

theorem wp_guarded (body : Co L α) (cleanup : Co L Unit) :
    wp I t (.guarded body cleanup) Q X p =
      wp I t body (fun value => wp I t cleanup (fun _ => Q value) X)
        (fun error => wp I t cleanup (fun _ => X error) X) p := rfl

@[simp] theorem wp_ite (c : Prop) [Decidable c] (a b : Co L α) :
    wp I t (if c then a else b) Q X p = if c then wp I t a Q X p else wp I t b Q X p := by
  split <;> rfl

/-- The loop rule: an invariant of the loop that the body and the wait preserve. -/
theorem wp_poll {body : Co L (Option α)} {request : L.Request} (J : Point L → Prop) (entry : J p)
    (iteration : ∀ q, J q → wp I t body (fun found q => match found with
      | some value => Q value q
      | none => Suspends I t request (fun _ => J) X q) X q) :
    wp I t (.poll body request) Q X p := ⟨J,entry,iteration⟩

end Rules

theorem Suspends.mono {I : Point L → Prop} {t : ℕ} {request : L.Request}
    {Q Q' : L.Reply → Point L → Prop} {X X' : L.Exn → Point L → Prop} {p : Point L}
    (held : Suspends I t request Q X p)
    (value : ∀ v q, Q v q → Q' v q) (error : ∀ e q, X e q → X' e q) :
    Suspends I t request Q' X' p := by
  refine ⟨held.1,?_⟩
  intro q inv later answer
  have := held.2 q inv later answer
  cases answer with
  | ok v => exact value v _ this
  | error e => exact error e _ this

theorem wp_mono {I : Point L → Prop} {t : ℕ} {m : Co L α} {Q Q' : α → Point L → Prop}
    {X X' : L.Exn → Point L → Prop} {p : Point L} (held : wp I t m Q X p)
    (value : ∀ v q, Q v q → Q' v q) (error : ∀ e q, X e q → X' e q) : wp I t m Q' X' p := by
  induction m generalizing X X' p with
  | ret v => exact value v p held
  | throw e => exact error e p held
  | act f => exact value _ _ held
  | emit event => exact value _ _ held
  | spawn call => exact fun n fresh => value _ _ (held n fresh)
  | cancel task => exact value _ _ held
  | await request => exact Suspends.mono held value error
  | bind first next firstMono nextMono =>
    exact firstMono held (fun v q holds => nextMono v holds value error) error
  | attempt body handler bodyMono handlerMono =>
    exact bodyMono held value (fun e q holds => handlerMono e holds value error)
  | poll body request bodyMono =>
    obtain ⟨J,entry,iteration⟩ := held
    refine ⟨J,entry,fun q loop => bodyMono (iteration q loop) ?_ error⟩
    intro found q holds
    cases found with
    | some v => exact value v q holds
    | none => exact Suspends.mono holds (fun _ _ holds => holds) error

theorem Suspends.join {I J : Point L → Prop} {t : ℕ} {request : L.Request} {Q Q' : L.Reply → Point L → Prop}
    {X X' : L.Exn → Point L → Prop} {p : Point L} (weaker : ∀ q, I q → J q) (first : Suspends J t request Q X p)
    (second : Suspends I t request Q' X' p) :
    Suspends I t request (fun v q => Q v q ∧ Q' v q) (fun e q => X e q ∧ X' e q) p := by
  refine ⟨second.1,fun q inv later answer => ?_⟩
  have one := first.2 q (weaker q inv) later answer
  have other := second.2 q inv later answer
  cases answer with
  | ok v => exact ⟨one,other⟩
  | error e => exact ⟨one,other⟩

theorem wp_join {I J : Point L → Prop} {t : ℕ} {m : Co L α} {Q Q' : α → Point L → Prop}
    {X X' : L.Exn → Point L → Prop} {p : Point L} (weaker : ∀ q, I q → J q) (first : wp J t m Q X p)
    (second : wp I t m Q' X' p) : wp I t m (fun v q => Q v q ∧ Q' v q) (fun e q => X e q ∧ X' e q) p := by
  induction m generalizing X X' p with
  | ret v => exact ⟨first,second⟩
  | throw e => exact ⟨first,second⟩
  | act f => exact ⟨first,second⟩
  | emit event => exact ⟨first,second⟩
  | spawn call => exact fun n fresh => ⟨first n fresh,second n fresh⟩
  | cancel task => exact ⟨first,second⟩
  | await request => exact Suspends.join weaker first second
  | bind head next headJoin nextJoin =>
    rw [wp_seq] at first second ⊢
    exact wp_mono (headJoin first second) (fun v _ both => nextJoin v both.1 both.2) (fun _ _ both => both)
  | attempt body handler bodyJoin handlerJoin =>
    rw [wp_attempt] at first second ⊢
    exact wp_mono (bodyJoin first second) (fun _ _ both => both) (fun e _ both => handlerJoin e both.1 both.2)
  | poll body request bodyJoin =>
    obtain ⟨K,entry,iteration⟩ := first
    obtain ⟨K',entry',iteration'⟩ := second
    refine ⟨fun q => K q ∧ K' q,⟨entry,entry'⟩,fun q loop => ?_⟩
    refine wp_mono (bodyJoin (iteration q loop.1) (iteration' q loop.2)) ?_ (fun _ _ both => both)
    intro found q both
    cases found with
    | some v => exact both
    | none => exact Suspends.join weaker both.1 both.2

theorem wp_give {I : Point L → Prop} {t : ℕ} {Q : L.Reply → Point L → Prop}
    {X : L.Exn → Point L → Prop} (answer : Except L.Exn L.Reply) (p : Point L) :
    wp I t (.give answer) Q X p = answered Q X answer p := by
  cases answer <;> rfl

def Conf.Bounded (c : Conf L) : Prop := ∀ item ∈ c.history, ∀ n ∈ item.names, n < c.next

theorem Conf.Bounded.fresh {c : Conf L} (bounded : c.Bounded) : Fresh c.next c.toPoint :=
  fun item member named => absurd (bounded item member _ named) (lt_irrefl _)

theorem Conf.Bounded.push {c : Conf L} {item : Item L} (bounded : c.Bounded)
    (named : ∀ n ∈ item.names, n < c.next) : (c.push item).Bounded := by
  intro other member n inside
  rcases List.mem_cons.mp member with rfl | old
  · exact named n inside
  · exact bounded other old n inside

structure Slice (t : ℕ) (c d : Conf L) : Prop where
  bounded : c.Bounded → t < c.next → d.Bounded
  next : c.next ≤ d.next
  ready : ∃ added, d.ready = c.ready ++ added ∧
    ∀ entry ∈ added, c.next ≤ entry.1 ∧ entry.1 < d.next ∧ .spawned t entry.1 entry.2 ∈ d.history
  ordered : (c.ready.map Prod.fst).Nodup → (∀ entry ∈ c.ready, entry.1 < c.next) →
    (d.ready.map Prod.fst).Nodup
  later : ∃ added, d.history = added ++ c.history ∧ ∀ item ∈ added, item.owner = some t

theorem Slice.refl (t : ℕ) (c : Conf L) : Slice t c c :=
  ⟨fun bounded _ => bounded,le_refl _,⟨[],by simp,by simp⟩,fun distinct _ => distinct,⟨[],by simp,by simp⟩⟩

theorem Slice.mem {t : ℕ} {c d : Conf L} (slice : Slice t c d) {item : Item L}
    (member : item ∈ c.history) : item ∈ d.history := by
  obtain ⟨added,same,_⟩ := slice.later
  simp [same,member]

theorem Slice.trans {t : ℕ} {c d e : Conf L} (first : Slice t c d) (second : Slice t d e) :
    Slice t c e := by
  obtain ⟨readyA,sameA,newA⟩ := first.ready
  obtain ⟨readyB,sameB,newB⟩ := second.ready
  have below := first.next
  have above := second.next
  refine ⟨fun bounded small => second.bounded (first.bounded bounded small) (by omega),by omega,
    ⟨readyA++readyB,by simp [sameA,sameB],?_⟩,?_,?_⟩
  · intro entry member
    rcases List.mem_append.mp member with old | new
    · obtain ⟨low,high,spawned⟩ := newA entry old
      exact ⟨low,by omega,second.mem spawned⟩
    · obtain ⟨low,high,spawned⟩ := newB entry new
      exact ⟨by omega,high,spawned⟩
  · intro distinct small
    apply second.ordered (first.ordered distinct small)
    intro entry member
    rw [sameA] at member
    rcases List.mem_append.mp member with old | new
    · exact lt_of_lt_of_le (small entry old) below
    · exact (newA entry new).2.1
  · obtain ⟨itemsA,historyA,ownedA⟩ := first.later
    obtain ⟨itemsB,historyB,ownedB⟩ := second.later
    refine ⟨itemsB++itemsA,by simp [historyA,historyB],?_⟩
    intro item member
    rcases List.mem_append.mp member with new | old
    · exact ownedB item new
    · exact ownedA item old

theorem Slice.of_event {t : ℕ} (c : Conf L) (item : Item L) (owned : item.owner = some t)
    (named : item.names = [t]) : Slice t c (c.push item) :=
  ⟨fun bounded small => bounded.push (by simpa [named] using small),le_refl _,⟨[],by simp [Conf.push],by simp⟩,
    fun distinct _ => distinct,⟨[item],rfl,by simpa using owned⟩⟩

theorem Slice.other {t u : ℕ} {c d : Conf L} (slice : Slice t c d) (different : t ≠ u) :
    Later u c.toPoint d.toPoint := by
  obtain ⟨added,same,owned⟩ := slice.later
  refine ⟨⟨added,same.symm⟩,?_⟩
  rw [same,own_append]
  have none : own u added = [] := by
    simp only [own,List.filter_eq_nil_iff,beq_iff_eq]
    intro item member equal
    exact different (Option.some.inj ((owned item member).symm.trans equal))
  simp [none]

theorem Co.run_slice (t : ℕ) (m : Co L α) (c : Conf L) : Slice t c (m.run t c).2 := by
  induction m generalizing c with
  | ret v => exact .refl t c
  | throw e => exact .refl t c
  | act f => exact ⟨fun bounded _ => bounded,le_refl _,⟨[],by simp [run],by simp⟩,fun distinct _ => distinct,⟨[],rfl,by simp⟩⟩
  | emit event => exact .of_event c (.event t event) rfl rfl
  | spawn call =>
    refine ⟨?_,by simp [run],⟨[(c.next,call)],rfl,?_⟩,?_,⟨[.spawned t c.next call],rfl,by simp [Item.owner]⟩⟩
    · intro bounded small item member n named
      rcases List.mem_cons.mp member with rfl | old
      · simp only [Item.names,List.mem_cons,List.not_mem_nil,or_false] at named
        simp only [run]
        omega
      · exact Nat.lt_succ_of_lt (bounded item old n named)
    · intro entry member
      rw [List.mem_singleton] at member
      subst entry
      simp [run,Conf.push]
    · intro distinct small
      simp only [run,List.map_append,List.map_cons,List.map_nil]
      apply distinct.append (by simp)
      intro n member same
      obtain ⟨entry,inside,rfl⟩ := List.mem_map.mp member
      exact absurd (List.mem_singleton.mp same) (ne_of_lt (small entry inside))
  | cancel task => exact ⟨fun bounded _ => bounded,le_refl _,⟨[],by simp [run],by simp⟩,fun distinct _ => distinct,⟨[],rfl,by simp⟩⟩
  | await request => exact .refl t c
  | bind first next firstSlice nextSlice =>
    have start := firstSlice c
    rw [run]
    rcases ran : first.run t c with ⟨out,d⟩
    rw [ran] at start
    cases out with
    | done v => exact start.trans (nextSlice v d)
    | failed e => exact start
    | wait request rest => exact start
  | attempt body handler bodySlice handlerSlice =>
    have start := bodySlice c
    rw [run]
    rcases ran : body.run t c with ⟨out,d⟩
    rw [ran] at start
    cases out with
    | done v => exact start
    | failed e => exact start.trans (handlerSlice e d)
    | wait request rest => exact start
  | poll body request bodySlice =>
    have start := bodySlice c
    rw [run]
    rcases ran : body.run t c with ⟨out,d⟩
    rw [ran] at start
    rcases out with (_ | v) | e | ⟨inner,rest⟩ <;> exact start

def Meets (I : Point L → Prop) (t : ℕ) (Q : α → Point L → Prop) (X : L.Exn → Point L → Prop) :
    Out L α × Conf L → Prop
  | (.done value,c) => Q value c.toPoint
  | (.failed error,c) => X error c.toPoint
  | (.wait request rest,c) =>
    I (c.toPoint.push (.waiting t request)) ∧
      ∀ q, I q → Later t (c.toPoint.push (.waiting t request)) q →
        ∀ answer, wp I t (rest answer) Q X (q.push (.resumed t answer))

/-- The precondition is sound for the slice that runs now, and hands the rest of
the coroutine its own precondition. -/
theorem wp_sound {I : Point L → Prop} {t : ℕ} {m : Co L α} {Q : α → Point L → Prop}
    {X : L.Exn → Point L → Prop} {c : Conf L} (bounded : c.Bounded) (small : t < c.next)
    (held : wp I t m Q X c.toPoint) : Meets I t Q X (m.run t c) := by
  induction m generalizing X c with
  | ret v => exact held
  | throw e => exact held
  | act f => exact held
  | emit event => exact held
  | spawn call => exact held c.next bounded.fresh
  | cancel task => exact held
  | await request =>
    refine ⟨held.1,fun q inv later answer => ?_⟩
    rw [wp_give]
    exact held.2 q inv later answer
  | bind first next firstSound nextSound =>
    have start := firstSound bounded small held
    have slice := Co.run_slice t first c
    rw [Co.run]
    rcases ran : first.run t c with ⟨out,d⟩
    rw [ran] at start slice
    cases out with
    | done v => exact nextSound v (slice.bounded bounded small) (lt_of_lt_of_le small slice.next) start
    | failed e => exact start
    | wait request rest => exact start
  | attempt body handler bodySound handlerSound =>
    have start := bodySound bounded small held
    have slice := Co.run_slice t body c
    rw [Co.run]
    rcases ran : body.run t c with ⟨out,d⟩
    rw [ran] at start slice
    cases out with
    | done v => exact start
    | failed e => exact handlerSound e (slice.bounded bounded small) (lt_of_lt_of_le small slice.next) start
    | wait request rest => exact start
  | poll body request bodySound =>
    obtain ⟨J,entry,iteration⟩ := held
    have start := bodySound bounded small (iteration _ entry)
    rw [Co.run]
    rcases ran : body.run t c with ⟨out,d⟩
    rw [ran] at start
    rcases out with (_ | v) | e | ⟨inner,rest⟩
    · refine ⟨start.1,fun q inv later answer => ?_⟩
      rw [wp_seq,wp_give]
      have next := start.2 q inv later answer
      cases answer with
      | ok v => exact ⟨J,next,iteration⟩
      | error e => exact next
    · exact start
    · exact start
    · refine ⟨start.1,fun q inv later answer => ?_⟩
      rw [wp_seq]
      -- the rest of the body, then the loop itself, which keeps its invariant
      refine wp_mono (start.2 q inv later answer) ?_ (fun _ _ holds => holds)
      intro found r holds
      cases found with
      | some v => exact holds
      | none => exact Suspends.mono holds (fun _ _ loop => ⟨J,loop,iteration⟩) (fun _ _ failed => failed)

end RoborockPlus.Async
