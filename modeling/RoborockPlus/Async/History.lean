import RoborockPlus.Async.Loop

/-! Properties of histories. A safety property is a check of each entry against
the past it was added to; a coroutine whose events a property ignores keeps it. -/
namespace RoborockPlus.Async
variable {L : Signature} {α β : Type}

/-- Every entry passes its check against the entries before it. -/
def throughout (check : List (Item L) → Item L → Bool) : List (Item L) → Bool
  | [] => true
  | item :: past => check past item && throughout check past

@[simp] theorem throughout_cons (check : List (Item L) → Item L → Bool) (item : Item L)
    (past : List (Item L)) :
    throughout check (item :: past) = true ↔ check past item = true ∧ throughout check past = true := by
  simp [throughout]

theorem throughout_agree {one other : List (Item L) → Item L → Bool} {item : Item L} {past : List (Item L)}
    (held : throughout one past = throughout other past)
    (same : throughout other past = true → one past item = other past item) :
    throughout one (item :: past) = throughout other (item :: past) := by
  rw [throughout,throughout,held]
  cases so : throughout other past with
  | false => rw [Bool.and_false,Bool.and_false]
  | true => rw [same so]

theorem throughout_suffix {check : List (Item L) → Item L → Bool} {past history : List (Item L)}
    (holds : throughout check history = true) (suffix : past <:+ history) :
    throughout check past = true := by
  obtain ⟨later,rfl⟩ := suffix
  induction later with
  | nil => exact holds
  | cons item later ih => exact ih ((throughout_cons _ _ _).mp holds).2

theorem throughout_second {check : List (Item L) → Item L → Bool} {last item : Item L} {past : List (Item L)}
    (holds : throughout check (last :: item :: past) = true) : check past item = true :=
  ((throughout_cons _ _ _).mp ((throughout_cons _ _ _).mp holds).2).1

theorem throughout_at {check : List (Item L) → Item L → Bool} {later past : List (Item L)} {item : Item L}
    (holds : throughout check (later++item :: past) = true) : check past item = true :=
  ((throughout_cons _ _ _).mp (throughout_suffix holds (List.suffix_append _ _))).1

/-- The condition that is none. -/
abbrev anything (_ : List (Item L)) (_ : Item L) : Bool := true

theorem throughout_anything (history : List (Item L)) : throughout anything history = true := by
  induction history with
  | nil => rfl
  | cons item past ih => exact (throughout_cons _ _ _).mpr ⟨rfl,ih⟩

def atEvents (check : ℕ → List (Item L) → L.Event → Bool) : List (Item L) → Item L → Bool
  | past, .event t event => check t past event
  | _, _ => true

theorem throughout_same {one other : ℕ → List (Item L) → L.Event → Bool} {history : List (Item L)}
    (same : throughout (atEvents fun t past event => one t past event == other t past event) history = true) :
    throughout (atEvents one) history = throughout (atEvents other) history := by
  induction history with
  | nil => rfl
  | cons item past ih =>
    obtain ⟨now,before⟩ := (throughout_cons _ _ _).mp same
    refine throughout_agree (ih before) fun _ => ?_
    cases item with
    | event t event => exact eq_of_beq now
    | _ => rfl

/-- Nothing of this coroutine moves the state outside `R` or records an event outside `S`. -/
def Co.Within (R : L.State → L.State → Prop) (S : L.Event → Prop) : {α : Type} → Co L α → Prop
  | _, .ret _ | _, .throw _ | _, .spawn _ | _, .cancel _ | _, .await _ => True
  | _, .act f => ∀ s, R s (f s).2
  | _, .emit event => S event
  | _, .bind first next => first.Within R S ∧ ∀ value, (next value).Within R S
  | _, .attempt body handler => body.Within R S ∧ ∀ error, (handler error).Within R S
  | _, .poll body _ => body.Within R S

section Within
variable {R : L.State → L.State → Prop} {S : L.Event → Prop}

@[simp] theorem within_pure (value : α) : (pure value : Co L α).Within R S := trivial

@[simp] theorem within_ret (value : α) : (Co.ret value : Co L α).Within R S := trivial

@[simp] theorem within_throw (error : L.Exn) : (Co.throw error : Co L α).Within R S := trivial

@[simp] theorem within_await (request : L.Request) : (Co.await request : Co L L.Reply).Within R S := trivial

@[simp] theorem within_spawn (call : L.Call) : (Co.spawn call : Co L ℕ).Within R S := trivial

@[simp] theorem within_cancel (task : ℕ) : (Co.cancel task : Co L Unit).Within R S := trivial

@[simp] theorem within_emit (event : L.Event) : (Co.emit event : Co L Unit).Within R S ↔ S event := Iff.rfl

@[simp] theorem within_modify (f : L.State → L.State) :
    (Co.modify f : Co L Unit).Within R S ↔ ∀ s, R s (f s) := Iff.rfl

@[simp] theorem within_get : (Co.get : Co L L.State).Within R S ↔ ∀ s, R s s := Iff.rfl

@[simp] theorem within_bind (first : Co L β) (next : β → Co L α) :
    (first >>= next).Within R S ↔ first.Within R S ∧ ∀ value, (next value).Within R S := Iff.rfl

@[simp] theorem within_seq (first : Co L β) (next : β → Co L α) :
    (Co.bind first next).Within R S ↔ first.Within R S ∧ ∀ value, (next value).Within R S := Iff.rfl

@[simp] theorem within_attempt (body : Co L α) (handler : L.Exn → Co L α) :
    (Co.attempt body handler).Within R S ↔ body.Within R S ∧ ∀ error, (handler error).Within R S := Iff.rfl

@[simp] theorem within_poll (body : Co L (Option α)) (request : L.Request) :
    (Co.poll body request).Within R S ↔ body.Within R S := Iff.rfl

theorem within_guarded {body : Co L α} {cleanup : Co L Unit} (main : body.Within R S)
    (last : cleanup.Within R S) : (Co.guarded body cleanup).Within R S :=
  ⟨⟨main,fun _ => ⟨last,fun _ => trivial⟩⟩,fun _ => ⟨last,fun _ => trivial⟩⟩

@[simp] theorem within_ite (c : Prop) [Decidable c] (a b : Co L α) :
    (if c then a else b).Within R S ↔ (c → a.Within R S) ∧ (¬c → b.Within R S) := by
  split <;> simp_all

end Within

theorem Co.Within.mono {R R' : L.State → L.State → Prop} {S S' : L.Event → Prop} {m : Co L α}
    (inside : m.Within R S) (moves : ∀ s s', R s s' → R' s s') (events : ∀ e, S e → S' e) :
    m.Within R' S' := by
  induction m with
  | ret v => trivial
  | throw e => trivial
  | spawn call => trivial
  | cancel task => trivial
  | await request => trivial
  | act f => exact fun s => moves _ _ (inside s)
  | emit event => exact events event inside
  | bind first next firstMono nextMono =>
    exact ⟨firstMono inside.1,fun value => nextMono value (inside.2 value)⟩
  | attempt body handler bodyMono handlerMono =>
    exact ⟨bodyMono inside.1,fun error => handlerMono error (inside.2 error)⟩
  | poll body request bodyMono => exact bodyMono inside

def Item.Inside (S : L.Event → Prop) : Item L → Prop
  | .event _ e => S e
  | .started _ _ | .finished _ | .failed _ _ => False
  | .outside _ | .spawned _ _ _ | .waiting _ _ | .resumed _ _ => True

theorem Later.foreign {t : ℕ} {p q : Point L} (later : Later t p q) :
    ∃ added, q.history = added++p.history ∧ ∀ item ∈ added, item.owner ≠ some t := by
  obtain ⟨added,same⟩ := later.suffix
  refine ⟨added,same.symm,fun item member owned => ?_⟩
  have none : Async.own t added = [] := by
    have held := later.own
    rw [← same,own_append] at held
    simpa using held
  have inside : item ∈ Async.own t added := by
    simp [Async.own,member,owned]
  rw [none] at inside
  exact absurd inside (List.not_mem_nil)

/-- From `p` to `q` the history has grown, and what `t` added itself lies in `S`. -/
def Trace (S : L.Event → Prop) (t : ℕ) (p q : Point L) : Prop :=
  ∃ added, q.history = added++p.history ∧ ∀ item ∈ added, item.owner = some t → item.Inside S

namespace Trace
variable {S : L.Event → Prop} {t : ℕ} {p q r : Point L}

theorem refl (S : L.Event → Prop) (t : ℕ) (p : Point L) : Trace S t p p := ⟨[],rfl,by simp⟩

theorem of_item {item : Item L} (same : q.history = item :: p.history)
    (inside : item.owner = some t → item.Inside S) : Trace S t p q :=
  ⟨[item],same,by simpa using inside⟩

theorem trans (first : Trace S t p q) (second : Trace S t q r) : Trace S t p r := by
  obtain ⟨addedA,sameA,insideA⟩ := first
  obtain ⟨addedB,sameB,insideB⟩ := second
  refine ⟨addedB++addedA,by rw [sameB,sameA,List.append_assoc],?_⟩
  intro item member
  rcases List.mem_append.mp member with new | old
  · exact insideB item new
  · exact insideA item old

theorem of_later (later : Later t p q) : Trace S t p q := by
  obtain ⟨added,same,foreign⟩ := later.foreign
  exact ⟨added,same,fun item member owned => absurd owned (foreign item member)⟩

end Trace

/-- The invariant does not see what a coroutine within `R` and `S` does as the task `t`. -/
structure Ignores (I : Point L → Prop) (t : ℕ) (R : L.State → L.State → Prop) (S : L.Event → Prop) : Prop where
  act : ∀ p s, I p → R p.state s → I {p with state := s}
  event : ∀ p event, I p → S event → I (p.push (.event t event))
  spawned : ∀ p n call, I p → I (p.push (.spawned t n call))
  waiting : ∀ p request, I p → I (p.push (.waiting t request))
  resumed : ∀ p answer, I p → I (p.push (.resumed t answer))

theorem Ignores.of_push {I : Point L → Prop} {t : ℕ} {R : L.State → L.State → Prop} {S : L.Event → Prop}
    (act : ∀ p s, I p → R p.state s → I {p with state := s})
    (push : ∀ p item, item.owner = some t → item.Inside S → I p → I (p.push item)) : Ignores I t R S where
  act := act
  event p _ held inside := push p _ rfl inside held
  spawned p _ _ held := push p _ rfl trivial held
  waiting p _ held := push p _ rfl trivial held
  resumed p _ held := push p _ rfl trivial held

def Stable (t : ℕ) (F : Point L → Prop) : Prop := ∀ p q, F p → Later t p q → F q

/-- Run as `t`, the coroutine keeps the invariant and a fact of its own, whether it
returns or raises. -/
def Carries (I F : Point L → Prop) (t : ℕ) (m : Co L α) : Prop :=
  ∀ p, I p → F p → wp I t m (fun _ q => I q ∧ F q) (fun _ q => I q ∧ F q) p

namespace Carries
variable {I F : Point L → Prop} {t : ℕ}

theorem bind {first : Co L β} {next : β → Co L α} (head : Carries I F t first)
    (tail : ∀ value, Carries I F t (next value)) : Carries I F t (first >>= next) := by
  intro p inv fact
  rw [wp_bind]
  exact wp_mono (head p inv fact) (fun value q both => tail value q both.1 both.2) (fun _ _ both => both)

theorem ite {c : Prop} [Decidable c] {first second : Co L α} (yes : c → Carries I F t first)
    (no : ¬c → Carries I F t second) : Carries I F t (if c then first else second) := by
  split
  next holds => exact yes holds
  next fails => exact no fails

theorem attempt {body : Co L α} {handler : L.Exn → Co L α} (main : Carries I F t body)
    (caught : ∀ error, Carries I F t (handler error)) : Carries I F t (.attempt body handler) := by
  intro p inv fact
  rw [wp_attempt]
  exact wp_mono (main p inv fact) (fun _ _ both => both) (fun error q both => caught error q both.1 both.2)

theorem forM {γ : Type} {body : γ → Co L PUnit} {items : List γ} (each : ∀ item, Carries I F t (body item)) :
    Carries I F t (items.forM body) := by
  induction items with
  | nil => exact fun p inv fact => ⟨inv,fact⟩
  | cons item items ih => exact bind (each item) fun _ => ih

theorem guarded {body : Co L α} {cleanup : Co L Unit} (main : Carries I F t body)
    (last : Carries I F t cleanup) : Carries I F t (.guarded body cleanup) := by
  intro p inv fact
  rw [wp_guarded]
  exact wp_mono (main p inv fact) (fun _ q both => last q both.1 both.2) (fun _ q both => last q both.1 both.2)

theorem poll {body : Co L (Option α)} {request : L.Request} (main : Carries I F t body)
    (wait : Carries I F t (.await request)) : Carries I F t (.poll body request) := by
  intro p inv fact
  refine wp_poll I t p (fun q => I q ∧ F q) ⟨inv,fact⟩ fun q loop =>
    wp_mono (main q loop.1 loop.2) ?_ (fun _ _ both => both)
  intro found r both
  cases found with
  | some value => exact both
  | none => exact wait r both.1 both.2

end Carries

/-- Run as `t`, the coroutine keeps the invariant and may use the fact up. -/
def Spends (I F : Point L → Prop) (t : ℕ) (m : Co L α) : Prop :=
  ∀ p, I p → F p → wp I t m (fun _ => I) (fun _ => I) p

namespace Spends
variable {I F : Point L → Prop} {t : ℕ}

theorem of_carries {m : Co L α} (carries : Carries I F t m) : Spends I F t m :=
  fun p inv fact => wp_mono (carries p inv fact) (fun _ _ both => both.1) (fun _ _ both => both.1)

/-- The fact is still there for what comes after. -/
theorem bind {first : Co L β} {next : β → Co L α} (head : Carries I F t first) (tail : ∀ value, Spends I F t (next value)) :
    Spends I F t (first >>= next) := by
  intro p inv fact
  rw [wp_bind]
  exact wp_mono (head p inv fact) (fun value q both => tail value q both.1 both.2) (fun _ _ both => both.1)

/-- What comes after goes without the fact. -/
theorem last {first : Co L β} {next : β → Co L α} (head : Spends I F t first) (tail : ∀ value, Carries I (fun _ => True) t (next value)) :
    Spends I F t (first >>= next) := by
  intro p inv fact
  rw [wp_bind]
  refine wp_mono (head p inv fact) (fun value q inv => ?_) (fun _ _ inv => inv)
  exact wp_mono (tail value q inv trivial) (fun _ _ both => both.1) (fun _ _ both => both.1)

theorem ite {c : Prop} [Decidable c] {first second : Co L α} (yes : Spends I F t first) (no : Spends I F t second) :
    Spends I F t (if c then first else second) := by
  split
  · exact yes
  · exact no

theorem guarded {body : Co L α} {cleanup : Co L Unit} (main : Carries I F t body) (last : Spends I F t cleanup) :
    Spends I F t (.guarded body cleanup) := by
  intro p inv fact
  rw [wp_guarded]
  exact wp_mono (main p inv fact) (fun _ q both => last q both.1 both.2) (fun _ q both => last q both.1 both.2)

end Spends

theorem Ignores.and {I J : Point L → Prop} {t : ℕ} {R : L.State → L.State → Prop} {S : L.Event → Prop}
    (first : Ignores I t R S) (second : Ignores J t R S) : Ignores (fun p => I p ∧ J p) t R S where
  act p s held moves := ⟨first.act p s held.1 moves,second.act p s held.2 moves⟩
  event p e held inside := ⟨first.event p e held.1 inside,second.event p e held.2 inside⟩
  spawned p n call held := ⟨first.spawned p n call held.1,second.spawned p n call held.2⟩
  waiting p request held := ⟨first.waiting p request held.1,second.waiting p request held.2⟩
  resumed p answer held := ⟨first.resumed p answer held.1,second.resumed p answer held.2⟩

theorem Carries.plain {I F : Point L → Prop} {t : ℕ} {m : Co L α} {p : Point L} (carries : Carries I F t m)
    (inv : I p) (fact : F p) : wp I t m (fun _ => I) (fun _ => I) p :=
  wp_mono (carries p inv fact) (fun _ _ both => both.1) (fun _ _ both => both.1)

theorem Co.Within.carries_both {I F : Point L → Prop} {t : ℕ} {R : L.State → L.State → Prop}
    {S : L.Event → Prop} (blind : Ignores (fun p => I p ∧ F p) t R S) (stable : Stable t F)
    {m : Co L α} (inside : m.Within R S) : Carries I F t m := by
  have wait (request : L.Request) : Carries I F t (.await request) := by
    intro q inv fact
    have waiting := blind.waiting q request ⟨inv,fact⟩
    refine ⟨waiting.1,fun r later grown answer => ?_⟩
    have kept := blind.resumed r answer ⟨later,stable _ _ waiting.2 grown⟩
    cases answer <;> exact kept
  induction m with
  | ret v => exact fun p inv fact => ⟨inv,fact⟩
  | throw e => exact fun p inv fact => ⟨inv,fact⟩
  | act f => exact fun p inv fact => blind.act p _ ⟨inv,fact⟩ (inside p.state)
  | emit event => exact fun p inv fact => blind.event p event ⟨inv,fact⟩ inside
  | spawn call => exact fun p inv fact n fresh => blind.spawned p n call ⟨inv,fact⟩
  | cancel task => exact fun p inv fact => ⟨inv,fact⟩
  | await request => exact wait request
  | bind first next firstCarries nextCarries =>
    exact .bind (firstCarries inside.1) (fun value => nextCarries value (inside.2 value))
  | attempt body handler bodyCarries handlerCarries =>
    exact .attempt (bodyCarries inside.1) (fun error => handlerCarries error (inside.2 error))
  | poll body request bodyCarries => exact .poll (bodyCarries inside) (wait request)

theorem Co.Within.carries {I F : Point L → Prop} {t : ℕ} {R : L.State → L.State → Prop}
    {S : L.Event → Prop} (blind : Ignores I t R S) (framed : Ignores F t R S) (stable : Stable t F)
    {m : Co L α} (inside : m.Within R S) : Carries I F t m :=
  inside.carries_both (blind.and framed) stable

/-- The frame rule: a fact the coroutine does not touch joins whatever is shown of it. -/
theorem Co.Within.frame {I F : Point L → Prop} {t : ℕ} {R : L.State → L.State → Prop} {S : L.Event → Prop}
    (blind : Ignores F t R S) (stable : Stable t F) {m : Co L α} (inside : m.Within R S)
    {Q : α → Point L → Prop} {X : L.Exn → Point L → Prop} {p : Point L} (held : wp I t m Q X p) (fact : F p) :
    wp I t m (fun value q => Q value q ∧ F q) (fun error q => X error q ∧ F q) p := by
  have wait {request : L.Request} {Q : L.Reply → Point L → Prop} {X : L.Exn → Point L → Prop} {p : Point L}
      (held : Suspends I t request Q X p) (fact : F p) :
      Suspends I t request (fun reply q => Q reply q ∧ F q) (fun error q => X error q ∧ F q) p := by
    refine ⟨held.1,fun q inv later answer => ?_⟩
    have ended := held.2 q inv later answer
    have kept := blind.resumed q answer (stable _ _ (blind.waiting p request fact) later)
    cases answer with
    | ok reply => exact ⟨ended,kept⟩
    | error error => exact ⟨ended,kept⟩
  induction m generalizing X p with
  | ret value => exact ⟨held,fact⟩
  | throw error => exact ⟨held,fact⟩
  | act f => exact ⟨held,blind.act p _ fact (inside p.state)⟩
  | emit event => exact ⟨held,blind.event p event fact inside⟩
  | spawn call => exact fun n fresh => ⟨held n fresh,blind.spawned p n call fact⟩
  | cancel task => exact ⟨held,fact⟩
  | await request => exact wait held fact
  | bind first next firstFrame nextFrame =>
    rw [wp_seq] at held ⊢
    refine wp_mono (firstFrame inside.1 held fact) ?_ (fun _ _ both => both)
    exact fun value q both => nextFrame value (inside.2 value) both.1 both.2
  | attempt body handler bodyFrame handlerFrame =>
    rw [wp_attempt] at held ⊢
    refine wp_mono (bodyFrame inside.1 held fact) (fun _ _ both => both) ?_
    exact fun error q both => handlerFrame error (inside.2 error) both.1 both.2
  | poll body request bodyFrame =>
    obtain ⟨J,entry,iteration⟩ := held
    refine ⟨fun q => J q ∧ F q,⟨entry,fact⟩,fun q loop => ?_⟩
    refine wp_mono (bodyFrame inside (iteration q loop.1) loop.2) ?_ (fun _ _ both => both)
    intro found q both
    cases found with
    | some value => exact both
    | none => exact wait both.1 both.2

theorem Carries.frame {I F : Point L → Prop} {t : ℕ} {R : L.State → L.State → Prop} {S : L.Event → Prop} {m : Co L α}
    (carries : Carries I (fun _ => True) t m) (blind : Ignores F t R S) (stable : Stable t F)
    (inside : m.Within R S) : Carries I F t m := by
  intro p inv fact
  have both := inside.frame blind stable (carries p inv trivial) fact
  exact wp_mono both (fun _ _ held => ⟨held.1.1,held.2⟩) (fun _ _ held => ⟨held.1.1,held.2⟩)

theorem Ignores.mono {I : Point L → Prop} {t : ℕ} {R R' : L.State → L.State → Prop} {S S' : L.Event → Prop}
    (blind : Ignores I t R S) (moves : ∀ s s', R' s s' → R s s') (events : ∀ e, S' e → S e) : Ignores I t R' S' where
  act p s held moved := blind.act p s held (moves _ _ moved)
  event p e held inside := blind.event p e held (events e inside)
  spawned := blind.spawned
  waiting := blind.waiting
  resumed := blind.resumed

theorem Ignores.top {t : ℕ} {R : L.State → L.State → Prop} {S : L.Event → Prop} :
    Ignores (fun _ => True) t R S :=
  ⟨fun _ _ _ _ => trivial,fun _ _ _ _ => trivial,fun _ _ _ _ => trivial,fun _ _ _ => trivial,fun _ _ _ => trivial⟩

theorem Stable.top {t : ℕ} : Stable t (fun _ : Point L => True) := fun _ _ _ _ => trivial

theorem Ignores.growing {F : Point L → Prop} {t : ℕ} {R : L.State → L.State → Prop} {S : L.Event → Prop}
    (grows : ∀ p q : Point L, p.history <:+ q.history → F p → F q) : Ignores F t R S :=
  .of_push (fun p _ held _ => grows p _ (List.suffix_refl _) held) fun p _ _ _ held => grows p _ (List.suffix_cons _ _) held

theorem Stable.growing {F : Point L → Prop} {t : ℕ}
    (grows : ∀ p q : Point L, p.history <:+ q.history → F p → F q) : Stable t F :=
  fun p q held later => grows p q later.suffix held

/-! A fact about the history is settled entry by entry: what the task itself adds, and
what the others add while it waits. -/

theorem Ignores.of_history {A : List (Item L) → Prop} {t : ℕ} {R : L.State → L.State → Prop} {S : L.Event → Prop}
    (step : ∀ item past, item.owner = some t → item.Inside S → A past → A (item :: past)) :
    Ignores (fun p => A p.history) t R S :=
  .of_push (fun _ _ held _ => held) fun p item owned inside held => step item p.history owned inside held

theorem Stable.of_history {A : List (Item L) → Prop} {t : ℕ}
    (step : ∀ item past, item.owner ≠ some t → A past → A (item :: past)) : Stable t fun p => A p.history := by
  intro p q held later
  obtain ⟨added,same,foreign⟩ := later.foreign
  rw [same]
  clear same
  induction added with
  | nil => exact held
  | cons item added ih =>
    exact step item _ (foreign item List.mem_cons_self) (ih fun other member => foreign other (List.mem_cons_of_mem _ member))

def Owned (A : List (Item L) → Prop) (t : ℕ) (p : Point L) : Prop := A (own t p.history)

section Owned
variable {A : List (Item L) → Prop} {R : L.State → L.State → Prop} {S : L.Event → Prop} {t : ℕ}

theorem Owned.stable (A : List (Item L) → Prop) (t : ℕ) : Stable t (Owned A t) := by
  intro p q held later
  unfold Owned
  rw [later.own]
  exact held

theorem Owned.push {p : Point L} {item : Item L} (owned : item.owner = some t) (inside : item.Inside S)
    (step : ∀ item past, item.owner = some t → item.Inside S → A past → A (item :: past)) (held : Owned A t p) :
    Owned A t (p.push item) := by
  unfold Owned
  rw [Point.push_history,own_cons_self _ owned]
  exact step _ _ owned inside held

theorem Owned.ignores (step : ∀ item past, item.owner = some t → item.Inside S → A past → A (item :: past)) :
    Ignores (Owned A t) t R S :=
  .of_push (fun _ _ held _ => held) fun _ _ owned inside held => held.push owned inside step

theorem Owned.trace {p q : Point L} (trace : Trace S t p q)
    (step : ∀ item past, item.owner = some t → item.Inside S → A past → A (item :: past)) (held : Owned A t p) :
    Owned A t q := by
  obtain ⟨added,same,inside⟩ := trace
  unfold Owned
  rw [same]
  clear same
  induction added with
  | nil => exact held
  | cons item added ih =>
    have rest : A (own t (added++p.history)) := ih fun other member => inside other (List.mem_cons_of_mem _ member)
    rw [List.cons_append]
    by_cases owned : item.owner = some t
    · rw [own_cons_self _ owned]
      exact step _ _ owned (inside item List.mem_cons_self owned) rest
    · rw [own_cons_other _ owned]
      exact rest

end Owned

theorem Stable.under {F : Point L → Prop} {t : ℕ} (condition : List (Item L) → Item L → Bool) (stable : Stable t F) :
    Stable t fun p => throughout condition p.history = true → F p :=
  fun p q held later all => stable p q (held (throughout_suffix all later.suffix)) later

theorem Ignores.under {F : Point L → Prop} {t : ℕ} {R : L.State → L.State → Prop} {S : L.Event → Prop}
    (condition : List (Item L) → Item L → Bool) (blind : Ignores F t R S) :
    Ignores (fun p => throughout condition p.history = true → F p) t R S where
  act p s held moves all := blind.act p s (held all) moves
  event p e held inside all := blind.event p e (held ((throughout_cons _ _ _).mp all).2) inside
  spawned p n call held all := blind.spawned p n call (held ((throughout_cons _ _ _).mp all).2)
  waiting p request held all := blind.waiting p request (held ((throughout_cons _ _ _).mp all).2)
  resumed p answer held all := blind.resumed p answer (held ((throughout_cons _ _ _).mp all).2)

theorem Preserves.of_bodies {P : Program L} {I : Point L → Prop}
    (outside : ∀ input p, I p → I ⟨P.outside input p.state,.outside input :: p.history⟩)
    (started : ∀ t call p, I p → I (p.push (.started t call)))
    (finished : ∀ t p, I p → I (p.push (.finished t)))
    (failed : ∀ t error p, I p → I (p.push (.failed t error)))
    (body : ∀ call t p, I p → own t p.history = [.started t call] →
      wp I t (P.body call) (fun _ => I) (fun _ => I) p) : Preserves P I where
  outside := outside
  dropped t p inv _ := failed t _ p inv
  body call t p inv empty _ := by
    have begun : own t (p.push (.started t call)).history = [.started t call] := by
      rw [Point.push_history,own_cons_self _ rfl,empty]
    exact wp_mono (body call t _ (started t call p inv) begun)
      (fun _ q inv => finished t q inv) (fun error q inv => failed t error q inv)

theorem Preserves.of_carried {P : Program L} {I : Point L → Prop} {F : ℕ → Point L → Prop}
    (outside : ∀ input p, I p → I ⟨P.outside input p.state,.outside input :: p.history⟩)
    (started : ∀ t call p, I p → own t p.history = [] → I (p.push (.started t call)) ∧ F t (p.push (.started t call)))
    (dropped : ∀ t p, I p → own t p.history = [] → I (p.push (.failed t P.cancelledError)))
    (finished : ∀ t p, I p → F t p → I (p.push (.finished t)))
    (failed : ∀ t error p, I p → F t p → I (p.push (.failed t error)))
    (body : ∀ call t, Carries I (F t) t (P.body call)) : Preserves P I where
  outside := outside
  dropped := dropped
  body call t p inv empty _ := by
    obtain ⟨begun,fact⟩ := started t call p inv empty
    exact wp_mono (body call t _ begun fact) (fun _ q held => finished t q held.1 held.2)
      (fun error q held => failed t error q held.1 held.2)

/-- Where every entry meets the condition, every entry meets the promise. -/
def Promise (condition promise : List (Item L) → Item L → Bool) (p : Point L) : Prop :=
  throughout condition p.history = true → throughout promise p.history = true

namespace Promise
variable {condition promise : List (Item L) → Item L → Bool} {check : ℕ → List (Item L) → L.Event → Bool}
  {p q : Point L}

theorem of_same (held : Promise condition promise p) (same : q.history = p.history) :
    Promise condition promise q := by
  rw [Promise,same]
  exact held

theorem push (held : Promise condition promise p) {item : Item L}
    (passes : condition p.history item = true → throughout condition p.history = true →
      promise p.history item = true) : Promise condition promise (p.push item) := by
  intro all
  obtain ⟨now,before⟩ := (throughout_cons _ _ _).mp all
  exact (throughout_cons _ _ _).mpr ⟨passes now before,held before⟩

theorem event (held : Promise condition (atEvents check) p) {t : ℕ} {e : L.Event}
    (passes : throughout condition p.history = true → check t p.history e = true) :
    Promise condition (atEvents check) (p.push (.event t e)) :=
  held.push fun _ before => passes before

theorem ignores {t : ℕ} {R : L.State → L.State → Prop} {S : L.Event → Prop}
    (quiet : ∀ past e, S e → check t past e = true) : Ignores (Promise condition (atEvents check)) t R S where
  act _ _ held _ := held.of_same rfl
  event _ e held inside := held.event fun _ => quiet _ e inside
  spawned _ _ _ held := held.push fun _ _ => rfl
  waiting _ _ held := held.push fun _ _ => rfl
  resumed _ _ held := held.push fun _ _ => rfl

end Promise

end RoborockPlus.Async
