import RoborockPlus.Async.Effects

/-! State that keeps the newest entry of a kind, and stamps that a clock has passed. Where a field
is written together with its entry, the history says at any time what the field holds. -/
namespace RoborockPlus.Async
variable {L : Signature} {β : Type}

/-- What is picked of the events, newest first. -/
def picked (pick : L.Event → Option β) : List (Item L) → List β
  | [] => []
  | .event _ event :: past => (pick event).toList ++ picked pick past
  | _ :: past => picked pick past

section Picked
variable {pick : L.Event → Option β} {past history : List (Item L)} {item : Item L} {event : L.Event} {t : ℕ} {value : β}

@[simp] theorem picked_nil : picked pick ([] : List (Item L)) = [] := rfl

@[simp] theorem picked_some (found : pick event = some value) : picked pick (.event t event :: past) = value :: picked pick past := by
  simp [picked,found]

@[simp] theorem picked_none (ignored : pick event = none) : picked pick (.event t event :: past) = picked pick past := by
  simp [picked,ignored]

theorem picked_quiet (quiet : ∀ t event, item ≠ .event t event) : picked pick (item :: past) = picked pick past := by
  cases item with
  | event t event => exact absurd rfl (quiet t event)
  | _ => rfl

@[simp] theorem picked_append (later past : List (Item L)) : picked pick (later++past) = picked pick later ++ picked pick past := by
  induction later with
  | nil => rfl
  | cons item later ih =>
    cases item with
    | event t event => simp [picked,ih]
    | _ => exact ih

/-- An entry from before anything was picked is older than one by which something was. -/
theorem older_of_picked {later between before : List (Item L)} {first : Item L} (split : later++item :: past = between++first :: before)
    (apart : first ≠ item) (some : picked pick (item :: past) ≠ []) (none : picked pick before = []) :
    ∃ since, past = since++first :: before := by
  rcases List.append_eq_append_iff.mp split with ⟨shift,_,moved⟩ | ⟨shift,_,moved⟩
  · cases shift with
    | nil => exact absurd (List.cons.inj moved).1.symm apart
    | cons other shift => exact ⟨shift,(List.cons.inj moved).2⟩
  · cases shift with
    | nil => exact absurd (List.cons.inj moved).1 apart
    | cons other shift =>
      rw [List.cons_append] at moved
      obtain ⟨_,rfl⟩ := List.cons.inj moved
      rw [picked_append,List.append_eq_nil_iff] at none
      exact absurd none.2 some

theorem mem_picked : value ∈ picked pick history ↔ ∃ t event, .event t event ∈ history ∧ pick event = some value := by
  induction history with
  | nil => simp
  | cons item past ih =>
    cases item with
    | event t event =>
      rw [picked,List.mem_append,ih,Option.mem_toList]
      constructor
      · rintro (found | ⟨u,other,inside,found⟩)
        · exact ⟨t,event,List.mem_cons_self,found⟩
        · exact ⟨u,other,List.mem_cons_of_mem _ inside,found⟩
      · rintro ⟨u,other,inside,found⟩
        rcases List.mem_cons.mp inside with same | old
        · obtain ⟨rfl,rfl⟩ := Item.event.inj same
          exact Or.inl found
        · exact Or.inr ⟨u,other,old,found⟩
    | _ =>
      rw [picked_quiet (by simp),ih]
      simp

end Picked

/-- The value came with the newest entry of the kind, behind which only the later ones stand. -/
def Newest (kind : Item L → Bool) (brings : β → List (Item L) → Item L → Prop) (history later : List (Item L)) (value : β) : Prop :=
  ∃ item past, history = later++item :: past ∧ later.any kind = false ∧ brings value past item

section Newest
variable {kind : Item L → Bool} {brings : β → List (Item L) → Item L → Prop} {history later recent past : List (Item L)} {item : Item L}
  {value : β}

theorem Newest.cons (newest : Newest kind brings history later value) (other : kind item = false) :
    Newest kind brings (item :: history) (item :: later) value := by
  obtain ⟨last,past,rfl,none,brought⟩ := newest
  exact ⟨last,past,rfl,by rw [List.any_cons,other,none,Bool.or_self],brought⟩

/-- It came no earlier than any other entry of the kind. -/
theorem Newest.since (newest : Newest kind brings history later value) (split : history = recent++item :: past)
    (same : kind item = true) : later <+: recent := by
  obtain ⟨last,past,rfl,none,_⟩ := newest
  rcases List.append_eq_append_iff.mp split with ⟨shift,grown,_⟩ | ⟨shift,grown,moved⟩
  · exact ⟨shift,grown.symm⟩
  · cases shift with
    | nil => exact ⟨[],by rw [grown,List.append_nil,List.append_nil]⟩
    | cons other shift =>
      obtain ⟨rfl,_⟩ := List.cons.inj moved
      rw [grown,List.any_append,List.any_cons,same,Bool.true_or,Bool.or_true] at none
      exact nomatch none

/-- The value is the first one, if no entry of the kind has come, or came with the newest of them. -/
def Sourced (kind : Item L → Bool) (brings : β → List (Item L) → Item L → Prop) (first : β) (history : List (Item L)) (value : β) : Prop :=
  (history.any kind = false ∧ value = first) ∨ ∃ later, Newest kind brings history later value

theorem Sourced.cons {first : β} (sourced : Sourced kind brings first history value) (other : kind item = false) :
    Sourced kind brings first (item :: history) value := by
  rcases sourced with ⟨none,same⟩ | ⟨later,newest⟩
  · exact Or.inl ⟨by rw [List.any_cons,other,none,Bool.or_self],same⟩
  · exact Or.inr ⟨_,newest.cons other⟩

/-- Behind an entry of the kind it is no longer the first one. -/
theorem Sourced.newest {first : β} (sourced : Sourced kind brings first history value) (split : history = recent++item :: past)
    (same : kind item = true) : ∃ later, Newest kind brings history later value ∧ later <+: recent := by
  rcases sourced with ⟨none,_⟩ | ⟨later,newest⟩
  · rw [split,List.any_append,List.any_cons,same,Bool.true_or,Bool.or_true] at none
    exact nomatch none
  · exact ⟨later,newest,newest.since split same⟩

end Newest

/-- The field holds what was picked last. -/
def Notes (pick : L.Event → Option β) (field : L.State → Option β) (p : Point L) : Prop :=
  field p.state = (picked pick p.history).head?

/-- The clock has passed every stamp, and they are in order. -/
structure Stamped (pick : L.Event → Option ℚ) (clock : L.State → ℚ) (p : Point L) : Prop where
  ordered : (picked pick p.history).Pairwise (· ≥ ·)
  passed : ∀ stamp ∈ picked pick p.history, stamp ≤ clock p.state

section Ledger
variable {P : Program L} {E : ℕ → Point L → L.Event → L.State → Prop} {start : L.State} {pick : L.Event → Option β}
  {field : L.State → Option β} {stamp : L.Event → Option ℚ} {clock : L.State → ℚ} {p : Point L}

theorem Notes.newest (notes : Notes pick field p) {value : β} (held : field p.state = some value) :
    value ∈ picked pick p.history := by
  rw [notes] at held
  exact List.mem_of_mem_head? held

/-- What a field holds was noted at a point of the same run. -/
theorem Chain.noted (chain : Chain P E start p) (notes : Notes pick field p) {value : β} (held : field p.state = some value) :
    ∃ t event later q s, p.history = later++.event t event :: q.history ∧ pick event = some value ∧ Chain P E start q ∧ E t q event s := by
  obtain ⟨t,event,inside,found⟩ := mem_picked.mp (notes.newest held)
  obtain ⟨later,past,grown⟩ := List.append_of_mem inside
  obtain ⟨q,s,before,rfl,made,_⟩ := chain.event_at grown
  exact ⟨t,event,later,q,s,grown,found,before,made⟩

theorem Notes.head (notes : Notes pick field p) {value : β} (held : field p.state = some value) :
    ∃ older, picked pick p.history = value :: older := by
  rw [notes] at held
  exact List.head?_eq_some_iff.mp held

theorem Notes.none_iff (notes : Notes pick field p) : field p.state = none ↔ picked pick p.history = [] := by
  rw [notes,List.head?_eq_none_iff]

/-- A field that only the picked events write, each with what it is picked for, notes them. -/
theorem Chain.notes (chain : Chain P E start p) (unset : field start = none)
    (outside : ∀ input s, field (P.outside input s) = field s)
    (written : ∀ t p event s, E t p event s → field s = (pick event).or (field p.state)) : Notes pick field p := by
  induction chain with
  | init => exact unset
  | outside input before ih =>
    rw [Notes,picked_quiet (by simp)]
    exact (outside input _).trans ih
  | silent silent before ih =>
    rw [Notes,Point.push_history,picked_quiet silent.quiet]
    exact ih
  | effect made before ih =>
    rw [Notes,picked]
    refine (written _ _ _ _ made).trans ?_
    cases pick _ with
    | none => exact ih
    | some value => rfl

/-- A field that changes only where an entry of the kind brings its value. -/
theorem Chain.sourced (chain : Chain P E start p) (field : L.State → β) {kind : Item L → Bool}
    {brings : β → List (Item L) → Item L → Prop} (quiet : ∀ t item, Item.Silent t item → kind item = false)
    (outside : ∀ input (q : Point L), (kind (.outside input) = false ∧ field (P.outside input q.state) = field q.state) ∨
      brings (field (P.outside input q.state)) q.history (.outside input))
    (written : ∀ t (q : Point L) event s, E t q event s →
      (kind (.event t event) = false ∧ field s = field q.state) ∨ brings (field s) q.history (.event t event)) :
    Sourced kind brings (field start) p.history (field p.state) := by
  induction chain with
  | init => exact Or.inl ⟨rfl,rfl⟩
  | @outside p input before ih =>
    rcases outside input p with ⟨other,same⟩ | brought
    · exact same ▸ ih.cons other
    · exact Or.inr ⟨[],_,_,rfl,rfl,brought⟩
  | silent silent before ih => exact ih.cons (quiet _ _ silent)
  | @effect p t event s made before ih =>
    rcases written t p event s made with ⟨other,same⟩ | brought
    · exact same ▸ ih.cons other
    · exact Or.inr ⟨[],_,_,rfl,rfl,brought⟩

theorem Stamped.same {q : Point L} (stamped : Stamped stamp clock p) (later : clock p.state ≤ clock q.state)
    (unstamped : picked stamp q.history = picked stamp p.history) : Stamped stamp clock q := by
  refine ⟨?_,?_⟩
  · rw [unstamped]
    exact stamped.ordered
  · rw [unstamped]
    exact fun time inside => (stamped.passed time inside).trans later

theorem Stamped.record {event : L.Event} {t : ℕ} {s : L.State} (stamped : Stamped stamp clock p) (kept : clock s = clock p.state)
    (found : stamp event = some (clock p.state)) : Stamped stamp clock ⟨s,.event t event :: p.history⟩ := by
  refine ⟨?_,?_⟩
  · rw [picked_some found]
    exact List.pairwise_cons.mpr ⟨stamped.passed,stamped.ordered⟩
  · rw [picked_some found,kept]
    exact List.forall_mem_cons.mpr ⟨le_rfl,stamped.passed⟩

/-- Stamps that are read off a clock which is never set back. -/
theorem Chain.stamped (chain : Chain P E start p) (outside : ∀ input s, clock s ≤ clock (P.outside input s))
    (read : ∀ t p event s, E t p event s → clock s = clock p.state ∧ ∀ time ∈ stamp event, time = clock p.state) :
    Stamped stamp clock p := by
  induction chain with
  | init => exact ⟨by simp,by simp⟩
  | outside input before ih => exact ih.same (outside input _) (picked_quiet (by simp))
  | silent silent before ih => exact ih.same le_rfl (picked_quiet silent.quiet)
  | @effect p t event s made before ih =>
    obtain ⟨kept,now⟩ := read _ _ _ _ made
    cases found : stamp event with
    | none => exact ih.same kept.ge (picked_none found)
    | some time => exact ih.record kept (found.trans (congrArg some (now time found)))

/-- No stamp is younger than the one that was noted last. -/
theorem Notes.latest {field : L.State → Option ℚ} (notes : Notes stamp field p) (stamped : Stamped stamp clock p) {last : ℚ}
    (held : field p.state = some last) : ∀ time ∈ picked stamp p.history, time ≤ last := by
  have ordered := stamped.ordered
  obtain ⟨older,stamps⟩ := notes.head held
  rw [stamps] at ordered ⊢
  exact List.forall_mem_cons.mpr ⟨le_rfl,(List.pairwise_cons.mp ordered).1⟩

end Ledger

end RoborockPlus.Async
