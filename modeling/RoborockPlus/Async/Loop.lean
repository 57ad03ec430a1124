import RoborockPlus.Async.Wp

/-! The event loop: a pool of suspended tasks over one shared state. A schedule is
a list of labels, so a run is a fold and every reachable state has its schedule.
The main result turns preconditions of the single coroutines into an invariant of
every interleaving. -/
namespace RoborockPlus.Async
variable {L : Signature}

structure Program (L : Signature) where
  body : L.Call → Co L Unit
  /-- Calls the outside may make; the others are only ever spawned. -/
  entry : L.Call → Bool
  outside : L.Stimulus → L.State → L.State
  cancelledError : L.Exn

structure Task (L : Signature) : Type 1 where
  id : ℕ
  rest : Except L.Exn L.Reply → Co L Unit

structure Loop (L : Signature) : Type 1 where
  conf : Conf L
  tasks : List (Task L)

inductive Label (L : Signature)
  | outside (input : L.Stimulus)
  | call (call : L.Call)
  | start
  | resume (task : ℕ) (answer : Except L.Exn L.Reply)

namespace Loop

def init (state : L.State) : Loop L := ⟨⟨⟨state,[]⟩,0,[],[]⟩,[]⟩

def settle (tasks : List (Task L)) (t : ℕ) : Out L Unit × Conf L → Loop L
  | (.done _,c) => ⟨c.push (.finished t),tasks⟩
  | (.failed error,c) => ⟨c.push (.failed t error),tasks⟩
  | (.wait request rest,c) => ⟨c.push (.waiting t request),⟨t,rest⟩ :: tasks⟩

/-- One turn of the loop. A cancelled task receives the cancellation in place of
its answer, and one that has not begun never runs. A label that does not apply
changes nothing. -/
def step (P : Program L) (l : Loop L) : Label L → Loop L
  | .outside input =>
    {l with conf := {l.conf with
      state := P.outside input l.conf.state, history := .outside input :: l.conf.history}}
  | .call call =>
    if P.entry call then
      settle l.tasks l.conf.next
        ((P.body call).run l.conf.next ({l.conf with next := l.conf.next+1}.push (.started l.conf.next call)))
    else l
  | .start =>
    match l.conf.ready with
    | [] => l
    | (t,call) :: rest =>
      if t ∈ l.conf.cancelled then
        ⟨{l.conf with ready := rest}.push (.failed t P.cancelledError),l.tasks⟩
      else settle l.tasks t ((P.body call).run t ({l.conf with ready := rest}.push (.started t call)))
  | .resume t answer =>
    match l.tasks.find? (fun task => task.id == t) with
    | none => l
    | some task =>
      let answer := if t ∈ l.conf.cancelled then .error P.cancelledError else answer
      let conf := {l.conf with cancelled := l.conf.cancelled.filter (fun u => u != t)}
      settle (l.tasks.filter fun task => task.id != t) t
        ((task.rest answer).run t (conf.push (.resumed t answer)))

def exec (P : Program L) (l : Loop L) (schedule : List (Label L)) : Loop L :=
  schedule.foldl (step P) l

end Loop

/-- What each coroutine of a program owes an invariant of the whole loop. -/
structure Preserves (P : Program L) (I : Point L → Prop) : Prop where
  outside : ∀ input p, I p → I ⟨P.outside input p.state,.outside input :: p.history⟩
  dropped : ∀ t p, I p → own t p.history = [] → I (p.push (.failed t P.cancelledError))
  body : ∀ call t p, I p → own t p.history = [] →
    (P.entry call = true ∨ ∃ parent, .spawned parent t call ∈ p.history) →
    wp I t (P.body call) (fun _ p => I (p.push (.finished t)))
      (fun error p => I (p.push (.failed t error))) (p.push (.started t call))

def Resumes (I : Point L → Prop) (t : ℕ) (rest : Except L.Exn L.Reply → Co L Unit) (p : Point L) : Prop :=
  ∀ q, I q → Later t p q → ∀ answer,
    wp I t (rest answer) (fun _ q => I (q.push (.finished t)))
      (fun error q => I (q.push (.failed t error))) (q.push (.resumed t answer))

theorem Resumes.later {I : Point L → Prop} {t : ℕ} {rest : Except L.Exn L.Reply → Co L Unit}
    {p q : Point L} (ready : Resumes I t rest p) (later : Later t p q) : Resumes I t rest q :=
  fun r inv further => ready r inv (later.trans further)

structure Sound (I : Point L → Prop) (l : Loop L) : Prop where
  inv : I l.conf.toPoint
  bounded : l.conf.Bounded
  waiting : ∀ task ∈ l.tasks, task.id < l.conf.next ∧ Resumes I task.id task.rest l.conf.toPoint
  pending : ∀ entry ∈ l.conf.ready, entry.1 < l.conf.next ∧ own entry.1 l.conf.history = [] ∧
    ∃ parent, .spawned parent entry.1 entry.2 ∈ l.conf.history
  distinct : (l.conf.ready.map Prod.fst).Nodup
  separate : ∀ task ∈ l.tasks, ∀ entry ∈ l.conf.ready, task.id ≠ entry.1

/-- Where a task's slice ends, the loop is sound again: the other tasks have only
seen their history grow, and the task itself meets its precondition. -/
theorem Sound.settle {I : Point L → Prop} {tasks : List (Task L)} {t : ℕ} {c d : Conf L}
    {out : Out L Unit} (slice : Slice t c d)
    (meets : Meets I t (fun _ p => I (p.push (.finished t))) (fun error p => I (p.push (.failed t error))) (out,d))
    (bounded : c.Bounded) (small : t < c.next)
    (waiting : ∀ task ∈ tasks, task.id ≠ t ∧ task.id < c.next ∧ Resumes I task.id task.rest c.toPoint)
    (pending : ∀ entry ∈ c.ready, entry.1 ≠ t ∧ entry.1 < c.next ∧ own entry.1 c.history = [] ∧
      ∃ parent, .spawned parent entry.1 entry.2 ∈ c.history)
    (distinct : (c.ready.map Prod.fst).Nodup)
    (separate : ∀ task ∈ tasks, ∀ entry ∈ c.ready, task.id ≠ entry.1) :
    Sound I (Loop.settle tasks t (out,d)) := by
  have grown := slice.bounded bounded small
  have below := lt_of_lt_of_le small slice.next
  obtain ⟨added,readySame,readyNew⟩ := slice.ready
  have others (item : Item L) (owned : item.owner = some t) (task : Task L) (member : task ∈ tasks) :
      task.id < d.next ∧ Resumes I task.id task.rest (d.push item).toPoint := by
    obtain ⟨different,inside,ready⟩ := waiting task member
    refine ⟨lt_of_lt_of_le inside slice.next,ready.later ((slice.other (Ne.symm different)).trans ?_)⟩
    exact Later.of_push _ (by rw [owned]; exact fun same => different (Option.some.inj same).symm)
  have entries (item : Item L) (owned : item.owner = some t) (entry : ℕ × L.Call) (member : entry ∈ d.ready) :
      entry.1 < d.next ∧ own entry.1 (d.push item).history = [] ∧
        ∃ parent, .spawned parent entry.1 entry.2 ∈ (d.push item).history := by
    rw [readySame] at member
    rcases List.mem_append.mp member with old | new
    · obtain ⟨different,inside,empty,parent,spawned⟩ := pending entry old
      refine ⟨lt_of_lt_of_le inside slice.next,?_,parent,List.mem_cons_of_mem _ (slice.mem spawned)⟩
      have same := (slice.other (Ne.symm different)).own
      rw [← empty,← same]
      exact own_cons_other _ (by rw [owned]; exact fun equal => different (Option.some.inj equal).symm)
    · obtain ⟨low,high,spawned⟩ := readyNew entry new
      refine ⟨high,?_,t,List.mem_cons_of_mem _ spawned⟩
      have fresh : own entry.1 c.history = [] := by
        simp only [own,List.filter_eq_nil_iff,beq_iff_eq]
        intro other present owns
        have := bounded other present _ (Item.mem_names_of_owner owns)
        omega
      have different : t ≠ entry.1 := by omega
      rw [← fresh,← (slice.other different).own]
      exact own_cons_other _ (by rw [owned]; exact fun equal => different (Option.some.inj equal))
  have apart (task : Task L) (member : task ∈ tasks) (entry : ℕ × L.Call) (inside : entry ∈ d.ready) :
      task.id ≠ entry.1 := by
    rw [readySame] at inside
    rcases List.mem_append.mp inside with old | new
    · exact separate task member entry old
    · have := (waiting task member).2.1
      have := (readyNew entry new).1
      omega
  have ordered := slice.ordered distinct (fun entry member => (pending entry member).2.1)
  cases out with
  | done v =>
    exact ⟨meets,grown.push (by simpa [Item.names] using below),others _ rfl,entries _ rfl,ordered,apart⟩
  | failed e =>
    exact ⟨meets,grown.push (by simpa [Item.names] using below),others _ rfl,entries _ rfl,ordered,apart⟩
  | wait request rest =>
    refine ⟨meets.1,grown.push (by simpa [Item.names] using below),?_,entries _ rfl,ordered,?_⟩
    · intro task member
      rcases List.mem_cons.mp member with rfl | old
      · exact ⟨below,meets.2⟩
      · exact others _ rfl task old
    · intro task member entry inside
      rcases List.mem_cons.mp member with rfl | old
      · change t ≠ entry.1
        change entry ∈ d.ready at inside
        rw [readySame] at inside
        rcases List.mem_append.mp inside with older | new
        · exact (pending entry older).1.symm
        · have := (readyNew entry new).1
          omega
      · exact apart task old entry inside

theorem Sound.call {P : Program L} {I : Point L → Prop} {l : Loop L} (keeps : Preserves P I)
    (sound : Sound I l) (call : L.Call) : Sound I (l.step P (.call call)) := by
  rw [Loop.step]
  split
  next allowed =>
    let t := l.conf.next
    let c : Conf L := {l.conf with next := t+1}.push (.started t call)
    have wide : ({l.conf with next := t+1} : Conf L).Bounded :=
      fun item member n named => Nat.lt_succ_of_lt (sound.bounded item member n named)
    have bounded : c.Bounded := wide.push (by simp [Item.names])
    have absent : own t l.conf.history = [] := sound.bounded.fresh.own_nil
    have different {n : ℕ} (inside : n < t) :
        (Item.started t call : Item L).owner ≠ some n := by
      simp only [Item.owner,ne_eq,Option.some.injEq]
      omega
    refine Sound.settle (c := c) (Co.run_slice t (P.body call) c)
      (wp_sound bounded (Nat.lt_succ_self t) (keeps.body call t _ sound.inv absent (Or.inl allowed)))
      bounded (Nat.lt_succ_self t) ?_ ?_ sound.distinct sound.separate
    · intro task member
      obtain ⟨inside,ready⟩ := sound.waiting task member
      exact ⟨ne_of_lt inside,Nat.lt_succ_of_lt inside,ready.later (Later.of_push _ (different inside))⟩
    · intro entry member
      obtain ⟨inside,empty,parent,spawned⟩ := sound.pending entry member
      refine ⟨ne_of_lt inside,Nat.lt_succ_of_lt inside,?_,parent,List.mem_cons_of_mem _ spawned⟩
      exact (own_cons_other _ (different inside)).trans empty
  next => exact sound

theorem Sound.start {P : Program L} {I : Point L → Prop} {l : Loop L} (keeps : Preserves P I)
    (sound : Sound I l) : Sound I (l.step P .start) := by
  rw [Loop.step]
  split
  next => exact sound
  next t call rest queue =>
    have head : (t,call) ∈ l.conf.ready := by simp [queue]
    obtain ⟨small,empty,origin⟩ := sound.pending _ head
    have distinct : ((t,call) :: rest).map Prod.fst |>.Nodup := queue ▸ sound.distinct
    obtain ⟨absent,restDistinct⟩ := List.nodup_cons.mp distinct
    have later (entry : ℕ × L.Call) (member : entry ∈ rest) : entry ∈ l.conf.ready := by simp [queue,member]
    have different (entry : ℕ × L.Call) (member : entry ∈ rest) : entry.1 ≠ t := by
      intro same
      exact absent (List.mem_map.mpr ⟨entry,member,same⟩)
    have apart (task : Task L) (member : task ∈ l.tasks) : task.id ≠ t := sound.separate task member _ head
    have other {item : Item L} (owned : item.owner = some t) {n : ℕ} (distinct : n ≠ t) :
        item.owner ≠ some n := by
      rw [owned]
      exact fun same => distinct (Option.some.inj same).symm
    split
    next =>
      refine ⟨keeps.dropped t _ sound.inv empty,sound.bounded.push (by simpa [Item.names] using small),?_,?_,restDistinct,?_⟩
      · intro task member
        obtain ⟨inside,ready⟩ := sound.waiting task member
        exact ⟨inside,ready.later (Later.of_push _ (other rfl (apart task member)))⟩
      · intro entry member
        obtain ⟨inside,none,parent,spawned⟩ := sound.pending entry (later entry member)
        refine ⟨inside,?_,parent,List.mem_cons_of_mem _ spawned⟩
        exact (own_cons_other _ (other rfl (different entry member))).trans none
      · exact fun task member entry inside => sound.separate task member entry (later entry inside)
    next =>
      let c : Conf L := {l.conf with ready := rest}.push (.started t call)
      have bounded : c.Bounded := Conf.Bounded.push (c := {l.conf with ready := rest}) sound.bounded
        (by simpa [Item.names] using small)
      refine Sound.settle (c := c) (Co.run_slice t (P.body call) c)
        (wp_sound bounded small (keeps.body call t _ sound.inv empty (Or.inr origin)))
        bounded small ?_ ?_ restDistinct
        (fun task member entry inside => sound.separate task member entry (later entry inside))
      · intro task member
        obtain ⟨inside,ready⟩ := sound.waiting task member
        exact ⟨apart task member,inside,ready.later (Later.of_push _ (other rfl (apart task member)))⟩
      · intro entry member
        obtain ⟨inside,none,parent,spawned⟩ := sound.pending entry (later entry member)
        refine ⟨different entry member,inside,?_,parent,List.mem_cons_of_mem _ spawned⟩
        exact (own_cons_other _ (other rfl (different entry member))).trans none

theorem Sound.resume {P : Program L} {I : Point L → Prop} {l : Loop L}
    (sound : Sound I l) (t : ℕ) (answer : Except L.Exn L.Reply) : Sound I (l.step P (.resume t answer)) := by
  rw [Loop.step]
  split
  next => exact sound
  next task found =>
    have member := List.mem_of_find?_eq_some found
    have same : task.id = t := by simpa using List.find?_some found
    obtain ⟨small,ready⟩ := sound.waiting task member
    subst t
    dsimp only
    generalize (if task.id ∈ l.conf.cancelled then Except.error P.cancelledError else answer) = answer
    let c : Conf L := {l.conf with
      cancelled := l.conf.cancelled.filter (fun u => u != task.id)}.push (.resumed task.id answer)
    have bounded : c.Bounded := Conf.Bounded.push (c := {l.conf with cancelled := _}) sound.bounded
      (by simpa [Item.names] using small)
    have other {n : ℕ} (distinct : n ≠ task.id) : (Item.resumed task.id answer : Item L).owner ≠ some n :=
      fun equal => distinct (Option.some.inj equal).symm
    refine Sound.settle (c := c) (Co.run_slice task.id (task.rest answer) c)
      (wp_sound bounded small (ready _ sound.inv (Later.refl _ _) answer)) bounded small ?_ ?_ sound.distinct ?_
    · intro peer inside
      obtain ⟨old,distinct⟩ := List.mem_filter.mp inside
      have distinct : peer.id ≠ task.id := by simpa using distinct
      obtain ⟨below,resumes⟩ := sound.waiting peer old
      exact ⟨distinct,below,resumes.later (Later.of_push _ (other distinct))⟩
    · intro entry inside
      obtain ⟨below,none,parent,spawned⟩ := sound.pending entry inside
      have distinct := (sound.separate task member entry inside).symm
      refine ⟨distinct,below,?_,parent,List.mem_cons_of_mem _ spawned⟩
      exact (own_cons_other _ (other distinct)).trans none
    · exact fun peer inside => sound.separate peer (List.mem_filter.mp inside).1

theorem Sound.outside {P : Program L} {I : Point L → Prop} {l : Loop L} (keeps : Preserves P I)
    (sound : Sound I l) (input : L.Stimulus) : Sound I (l.step P (.outside input)) := by
  have apart (n : ℕ) : (Item.outside input : Item L).owner ≠ some n := by simp [Item.owner]
  refine ⟨keeps.outside input _ sound.inv,?_,?_,?_,sound.distinct,sound.separate⟩
  · intro item member n named
    rcases List.mem_cons.mp member with rfl | old
    · simp [Item.names] at named
    · exact sound.bounded item old n named
  · intro task member
    obtain ⟨inside,ready⟩ := sound.waiting task member
    exact ⟨inside,ready.later (Later.of_push _ (apart task.id))⟩
  · intro entry member
    obtain ⟨inside,none,parent,spawned⟩ := sound.pending entry member
    exact ⟨inside,(own_cons_other _ (apart entry.1)).trans none,parent,List.mem_cons_of_mem _ spawned⟩

theorem Preserves.exec {P : Program L} {I : Point L → Prop} (keeps : Preserves P I)
    (state : L.State) (initial : I ⟨state,[]⟩) (schedule : List (Label L)) :
    I ((Loop.init state).exec P schedule).conf.toPoint := by
  suffices ∀ l : Loop L, Sound I l → Sound I (l.exec P schedule) from
    (this (Loop.init state) ⟨initial,by simp [Conf.Bounded,Loop.init],by simp [Loop.init],
      by simp [Loop.init],by simp [Loop.init],by simp [Loop.init]⟩).inv
  induction schedule with
  | nil => exact fun l sound => sound
  | cons label rest ih =>
    intro l sound
    apply ih (l.step P label)
    cases label with
    | outside input => exact sound.outside keeps input
    | call call => exact sound.call keeps call
    | start => exact sound.start keeps
    | resume t answer => exact sound.resume t answer

end RoborockPlus.Async
