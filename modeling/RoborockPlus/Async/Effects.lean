import RoborockPlus.Async.History

/-! Runs as chains of effects. What a slice does to the state is cut into atomic effects with their
guards, and a run of the loop is a chain of these, of silent entries and of what comes from outside.
An invariant of all interleavings is then an induction over chains. -/
namespace RoborockPlus.Async
variable {L : Signature} {α β : Type}

/-- The state changes, and the history says so. -/
def Co.record (f : L.State → L.State) (event : L.State → L.Event) : Co L Unit := do
  .modify f
  let s ← .get
  .emit (event s)

def Co.when (c : Bool) (m : Co L Unit) : Co L Unit := if c then m else pure ()

/-- An entry of the task that is no event. -/
structure Item.Silent (t : ℕ) (item : Item L) : Prop where
  owned : item.owner = some t
  quiet : ∀ u event, item ≠ .event u event

/-- `E t p event s`: at `p` the task `t` may record the event and leave the state `s`. -/
inductive Chain (P : Program L) (E : ℕ → Point L → L.Event → L.State → Prop) (start : L.State) : Point L → Prop
  | init : Chain P E start ⟨start,[]⟩
  | outside {p : Point L} (input : L.Stimulus) (before : Chain P E start p) :
    Chain P E start ⟨P.outside input p.state,.outside input :: p.history⟩
  | silent {p : Point L} {t : ℕ} {item : Item L} (silent : item.Silent t) (before : Chain P E start p) :
    Chain P E start (p.push item)
  | effect {p : Point L} {t : ℕ} {event : L.Event} {s : L.State} (made : E t p event s) (before : Chain P E start p) :
    Chain P E start ⟨s,.event t event :: p.history⟩

/-- Run as `t` from here, the coroutine keeps the invariant, and where it returns, `Q` holds. -/
def Leads (I : Point L → Prop) (t : ℕ) (p : Point L) (m : Co L α) (Q : α → Point L → Prop) : Prop :=
  wp I t m (fun value q => I q ∧ p.history <:+ q.history ∧ Q value q) (fun _ q => I q ∧ p.history <:+ q.history) p

/-- The request of the task has just been answered. -/
def Answered (t : ℕ) (request : L.Request) (reply : L.Reply) (history : List (Item L)) : Prop :=
  ∃ past, history = .resumed t (.ok reply) :: past ∧ (own t past).head? = some (.waiting t request)

namespace Leads
variable {I : Point L → Prop} {t : ℕ} {p : Point L}

theorem mono {m : Co L α} {Q R : α → Point L → Prop} (leads : Leads I t p m Q)
    (weaker : ∀ value q, I q → p.history <:+ q.history → Q value q → R value q) : Leads I t p m R :=
  wp_mono leads (fun value q held => ⟨held.1,held.2.1,weaker value q held.1 held.2.1 held.2.2⟩) (fun _ _ held => held)

theorem of_suffix {m : Co L α} {Q : α → Point L → Prop} {q : Point L} (leads : Leads I t q m Q) (suffix : p.history <:+ q.history) :
    wp I t m (fun value r => I r ∧ p.history <:+ r.history ∧ Q value r) (fun _ r => I r ∧ p.history <:+ r.history) q :=
  wp_mono leads (fun _ _ held => ⟨held.1,suffix.trans held.2.1,held.2.2⟩) (fun _ _ held => ⟨held.1,suffix.trans held.2⟩)

theorem pure {value : α} {Q : α → Point L → Prop} (inv : I p) (holds : Q value p) : Leads I t p (pure value) Q :=
  ⟨inv,List.suffix_refl _,holds⟩

theorem throw {error : L.Exn} {Q : α → Point L → Prop} (inv : I p) : Leads I t p (.throw error) Q := ⟨inv,List.suffix_refl _⟩

theorem get (inv : I p) : Leads I t p .get fun s q => q = p ∧ s = p.state := ⟨inv,List.suffix_refl _,rfl,rfl⟩

theorem bind {first : Co L β} {next : β → Co L α} {Q : β → Point L → Prop} {R : α → Point L → Prop} (head : Leads I t p first Q)
    (tail : ∀ value q, I q → p.history <:+ q.history → Q value q → Leads I t q (next value) R) : Leads I t p (first >>= next) R := by
  rw [Leads,wp_bind]
  exact wp_mono head (fun value q held => (tail value q held.1 held.2.1 held.2.2).of_suffix held.2.1) (fun _ _ held => held)

theorem ite {c : Prop} [Decidable c] {first second : Co L α} {Q : α → Point L → Prop} (yes : c → Leads I t p first Q)
    (no : ¬c → Leads I t p second Q) : Leads I t p (if c then first else second) Q := by
  split
  next holds => exact yes holds
  next fails => exact no fails

theorem when {c : Bool} {m : Co L Unit} (inv : I p) (yes : c = true → Leads I t p m fun _ _ => True) :
    Leads I t p (.when c m) fun _ _ => True :=
  .ite yes fun _ => .pure inv trivial

theorem attempt {body : Co L α} {handler : L.Exn → Co L α} {Q : α → Point L → Prop} (main : Leads I t p body Q)
    (caught : ∀ error q, I q → p.history <:+ q.history → Leads I t q (handler error) Q) : Leads I t p (.attempt body handler) Q := by
  rw [Leads,wp_attempt]
  exact wp_mono main (fun _ _ held => held) (fun error q held => (caught error q held.1 held.2).of_suffix held.2)

theorem guarded {body : Co L α} {cleanup : Co L Unit} {Q : α → Point L → Prop} (main : Leads I t p body Q)
    (last : ∀ q, I q → Leads I t q cleanup fun _ _ => True) : Leads I t p (.guarded body cleanup) fun _ _ => True := by
  rw [Leads,wp_guarded]
  have done {q : Point L} (inv : I q) (suffix : p.history <:+ q.history) :
      wp I t cleanup (fun _ r => I r ∧ p.history <:+ r.history) (fun _ r => I r ∧ p.history <:+ r.history) q :=
    wp_mono ((last q inv).of_suffix suffix) (fun _ _ held => ⟨held.1,held.2.1⟩) (fun _ _ held => held)
  refine wp_mono main (fun value q held => ?_) (fun error q held => done held.1 held.2)
  exact wp_mono (done held.1 held.2.1) (fun _ _ held => ⟨held.1,held.2,trivial⟩) (fun _ _ held => held)

theorem record {f : L.State → L.State} {event : L.State → L.Event} (inv : I ⟨f p.state,.event t (event (f p.state)) :: p.history⟩) :
    Leads I t p (.record f event) fun _ q => q = ⟨f p.state,.event t (event (f p.state)) :: p.history⟩ := ⟨inv,List.suffix_cons _ _,rfl⟩

theorem spawn {call : L.Call} {Q : ℕ → Point L → Prop} (inv : ∀ n, I (p.push (.spawned t n call)) ∧ Q n (p.push (.spawned t n call))) :
    Leads I t p (.spawn call) Q := fun n _ => ⟨(inv n).1,List.suffix_cons _ _,(inv n).2⟩

/-- Whoever is answered has asked before, and knows what the answer brings. -/
theorem await {request : L.Request} (waits : I (p.push (.waiting t request)))
    (resumes : ∀ q answer, I q → I (q.push (.resumed t answer))) :
    Leads I t p (.await request) fun reply q => Answered t request reply q.history := by
  refine ⟨waits,fun q inv later answer => ?_⟩
  have resumed := resumes q answer inv
  have grown := (List.suffix_cons _ _).trans (later.suffix.trans (List.suffix_cons (.resumed t answer) q.history))
  cases answer with
  | error error => exact ⟨resumed,grown⟩
  | ok reply =>
    refine ⟨resumed,grown,q.history,rfl,?_⟩
    rw [later.own,Point.push_history,own_cons_self _ rfl,List.head?_cons]

end Leads

namespace Chain
variable {P : Program L} {E : ℕ → Point L → L.Event → L.State → Prop} {start : L.State} {t : ℕ} {p : Point L}

theorem record (chain : Chain P E start p) {f : L.State → L.State} {event : L.State → L.Event}
    (made : E t p (event (f p.state)) (f p.state)) :
    Leads (Chain P E start) t p (.record f event) fun _ q => q = ⟨f p.state,.event t (event (f p.state)) :: p.history⟩ :=
  Leads.record (chain.effect made)

theorem await (chain : Chain P E start p) (request : L.Request) :
    Leads (Chain P E start) t p (.await request) fun reply q => Answered t request reply q.history :=
  Leads.await (chain.silent ⟨rfl,by simp⟩) fun q _ before => before.silent (t := t) ⟨rfl,by simp⟩

/-- Every effect of the program is one of `E`, so every run is a chain of them. -/
theorem run (bodies : ∀ call t p, Chain P E start p → Leads (Chain P E start) t p (P.body call) fun _ _ => True) (schedule : List (Label L)) :
    Chain P E start ((Loop.init start).exec P schedule).conf.toPoint := by
  have keeps : Preserves P (Chain P E start) := .of_bodies (fun input p chain => chain.outside input)
    (fun t call p chain => chain.silent (t := t) ⟨rfl,by simp⟩) (fun t p chain => chain.silent (t := t) ⟨rfl,by simp⟩)
    (fun t error p chain => chain.silent (t := t) ⟨rfl,by simp⟩)
    fun call t p chain _ => wp_mono (bodies call t p chain) (fun _ _ held => held.1) (fun _ _ held => held.1)
  exact keeps.exec start .init schedule

/-- Whatever the history says was done was done at a point of the same run. -/
theorem event_at (chain : Chain P E start p) {later past : List (Item L)} {event : L.Event}
    (happened : p.history = later++.event t event :: past) :
    ∃ q s, Chain P E start q ∧ q.history = past ∧ E t q event s ∧ Chain P E start ⟨s,.event t event :: past⟩ := by
  induction chain generalizing later with
  | init => simp at happened
  | outside input before ih =>
    cases later with
    | nil => simp at happened
    | cons item later => exact ih (List.cons.inj happened).2
  | silent silent before ih =>
    cases later with
    | nil => exact absurd (List.cons.inj happened).1 (silent.quiet _ _)
    | cons item later => exact ih (List.cons.inj happened).2
  | @effect q u other s made before ih =>
    cases later with
    | nil =>
      obtain ⟨same,rfl⟩ := List.cons.inj happened
      obtain ⟨rfl,rfl⟩ := Item.event.inj same
      exact ⟨q,s,before,rfl,made,before.effect made⟩
    | cons item later => exact ih (List.cons.inj happened).2

end Chain

end RoborockPlus.Async
