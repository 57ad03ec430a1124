import RoborockPlus.Release
import RoborockPlus.Succession

/-! What a stage of a script transmits. The stage is given to the runtime together with a
callback that would pass its command on; the runtime calls that callback with nothing. -/
namespace RoborockPlus
open Async GarageController GarageRuntime

def stageCall (t : ℕ) : List (Item Garage) → Option String
  | [] => none
  | .started u (.asyncStartStage command _) :: past => if u = t then some command else stageCall t past
  | _ :: past => stageCall t past

section StageCall
variable {t : ℕ} {item : Item Garage} {past : List (Item Garage)}

theorem stageCall_other (other : ∀ call, item ≠ .started t call) : stageCall t (item :: past) = stageCall t past := by
  rcases item with _ | ⟨u,call⟩ | _ | _ | _ | _ | _ | _
  case started =>
    cases call with
    | asyncStartStage command timeoutMinutes => exact if_neg fun same => other _ (by rw [same])
    | _ => rfl
  all_goals rfl

theorem stageCall_foreign (foreign : item.owner ≠ some t) : stageCall t (item :: past) = stageCall t past := by
  refine stageCall_other fun call same => foreign ?_
  rw [same]
  rfl

theorem stageCall_empty (empty : own t past = []) : stageCall t past = none :=
  of_unowned (A := fun past => stageCall t past = none) empty rfl fun _ _ foreign unstaged => (stageCall_foreign foreign).trans unstaged

theorem stageCall_begun {call : Call} (empty : own t past = [])
    (other : ∀ command timeoutMinutes, call ≠ .asyncStartStage command timeoutMinutes) :
    stageCall t (.started t call :: past) = none := by
  have none : stageCall t past = none := stageCall_empty empty
  cases call with
  | asyncStartStage command timeoutMinutes => exact absurd rfl (other command timeoutMinutes)
  | _ => exact none

theorem stageCall_stable (t : ℕ) : Stable t fun p : Point Garage => stageCall t p.history = none :=
  Stable.of_history (A := fun past => stageCall t past = none) fun _ _ foreign unstaged =>
    (stageCall_foreign foreign).trans unstaged

theorem body_kinds (call : Call) : (body call).Within SameWorld fun (e : Event) => e.kind ∈ call.kinds := by
  by_cases shut : call = .shutdown
  · subst shut
    refine ⟨fun _ => ⟨rfl,rfl⟩,fun s => ⟨fun _ => ⟨rfl,rfl⟩,fun _ => ⟨List.mem_singleton_self _,fun _ => ?_⟩⟩⟩
    dsimp only
    split <;> trivial
  · exact (emits_body shut (List.Subset.refl _)).mono (fun _ _ frame => ⟨frame.world,frame.binding⟩) fun _ member => member

/-- An invariant that the stages are all there is to: every other call keeps it, whatever it records. -/
theorem stagedProgram_keeps {I : Point Garage → Prop} {send : String → Action}
    (outside : ∀ input p, I p → I ⟨p.state.apply input,.outside input :: p.history⟩)
    (moves : ∀ p s, I p → SameWorld p.state s → I {p with state := s})
    (starts : ∀ t call p, I p → I (p.push (.started t call)))
    (others : ∀ t p item, I p → stageCall t p.history = none → item.owner = some t → I (p.push item))
    (stage : ∀ t p command timeoutMinutes, I p → own t p.history = [] →
      wp I t (startStage (send command) command timeoutMinutes) (fun _ q => I (q.push (.finished t)))
        (fun error q => I (q.push (.failed t error))) (p.push (.started t (.asyncStartStage command timeoutMinutes)))) :
    Preserves (stagedProgram send) I where
  outside := outside
  dropped t p inv empty := others t p _ inv (stageCall_empty empty) rfl
  body call t p inv empty _ := by
    by_cases staged : ∃ command timeoutMinutes, call = .asyncStartStage command timeoutMinutes
    · obtain ⟨command,timeoutMinutes,rfl⟩ := staged
      exact stage t p command timeoutMinutes inv empty
    have other (command : String) (timeoutMinutes : Option PyValue) : call ≠ .asyncStartStage command timeoutMinutes :=
      fun same => staged ⟨command,timeoutMinutes,same⟩
    have blind : Ignores (fun p : Point Garage => I p ∧ stageCall t p.history = none) t SameWorld fun _ => True := by
      refine .of_push (fun p s both same => ⟨moves p s both.1 same,both.2⟩) fun p item owned inside both => ?_
      refine ⟨others t p item both.1 both.2 owned,(stageCall_other ?_).trans both.2⟩
      rintro call rfl
      exact inside.elim
    have same : stagedBody send call = body call := by
      cases call with
      | asyncStartStage command timeoutMinutes => exact absurd rfl (other command timeoutMinutes)
      | _ => rfl
    have free := (body_kinds call).mono (fun _ _ same => same) fun _ _ => trivial
    have carried := free.carries_both blind (stageCall_stable t) _ (starts t call p inv) (stageCall_begun empty other)
    change wp I t (stagedBody send call) _ _ _
    rw [same]
    exact wp_mono carried (fun _ q both => others t q _ both.1 both.2 rfl) (fun _ q both => others t q _ both.1 both.2 rfl)

end StageCall

def transmitted (t : ℕ) (past : List (Item Garage)) : List (Option String) :=
  past.filterMap fun | .event u (.sent payload) => if u = t then some payload else none | _ => none

theorem transmitted_empty {t : ℕ} {past : List (Item Garage)} (empty : own t past = []) : transmitted t past = [] := by
  refine of_unowned (A := fun past => transmitted t past = []) empty rfl fun item past foreign rest => ?_
  rcases item with _ | _ | _ | ⟨u,_ | _ | _ | _ | _ | payload | _ | _⟩ | _ | _ | _ | _
  case event.sent =>
    have apart : u ≠ t := fun same => foreign (congrArg some same)
    simpa [transmitted,apart] using rest
  all_goals exact rest

def stageDoorOpen (t : ℕ) (past : List (Item Garage)) : Bool :=
  past.any fun | .event u (.succeeded .toOpen .stage) => u == t | _ => false

section Transmits
variable {P : Type} (wire : String × P → String) (params : ℕ → P)

def delivered (t : ℕ) (past : List (Item Garage)) : Bool :=
  match stageCall t past with
  | none => true
  | some command => transmitted t past == [some (wire (command,params t))]

/-- A stage transmits behind its open door only, a stage whose door is open has transmitted
its own command by the time it waits or ends, and so has every stage that succeeds. -/
def transmitsStage : List (Item Garage) → Item Garage → Bool
  | past, .event t (.sent _) => (stageCall t past).isNone || stageDoorOpen t past
  | past, .waiting t _ | past, .failed t _ => !stageDoorOpen t past || delivered wire params t past
  | past, .finished t => delivered wire params t past
  | _, _ => true

/-- No stage waits or ends behind its open door. -/
def staysShut : List (Item Garage) → Item Garage → Bool
  | past, .waiting t _ | past, .failed t _ | past, .finished t => (stageCall t past).isNone || !stageDoorOpen t past
  | _, _ => true

end Transmits

/-- The stage is on its way, and nothing of it was ever transmitted. -/
structure Mute (command : String) (t : ℕ) (past : List (Item Garage)) : Prop where
  stage : stageCall t past = some command
  unsent : ∀ payload ∈ transmitted t past, payload = none

section Mute
variable {P : Type} {wire : String × P → String} {params : ℕ → P} {command : String} {t : ℕ} {item : Item Garage}
  {past : List (Item Garage)} {p : Point Garage}

theorem Mute.undelivered (mute : Mute command t past) : delivered wire params t past = false := by
  rw [delivered,mute.stage]
  refine Bool.eq_false_iff.mpr fun sent => ?_
  have member : some (wire (command,params t)) ∈ transmitted t past := by simp [eq_of_beq sent]
  exact absurd (mute.unsent _ member) (by simp)

theorem Mute.push (mute : Mute command t past) (going : ∀ call, item ≠ .started t call)
    (quiet : ∀ payload, item ≠ .event t (.sent (some payload))) : Mute command t (item :: past) := by
  refine ⟨(stageCall_other going).trans mute.stage,?_⟩
  rcases item with _ | _ | _ | ⟨u,_ | _ | _ | _ | _ | payload | _ | _⟩ | _ | _ | _ | _
  case event.sent =>
    by_cases mine : u = t
    · subst mine
      cases payload with
      | some payload => exact absurd rfl (quiet payload)
      | none => simpa [transmitted] using mute.unsent
    · simpa [transmitted,mine] using mute.unsent
  all_goals exact mute.unsent

theorem stageDoorOpen_grows (item : Item Garage) (opened : stageDoorOpen t past = true) :
    stageDoorOpen t (item :: past) = true := by
  rw [stageDoorOpen,List.any_cons,← stageDoorOpen,opened,Bool.or_true]

def Agrees (wire : String × P → String) (params : ℕ → P) (p : Point Garage) : Prop :=
  throughout (transmitsStage wire params) p.history = throughout staysShut p.history

theorem Agrees.push (held : Agrees wire params p)
    (same : transmitsStage wire params p.history item = staysShut p.history item) : Agrees wire params (p.push item) :=
  throughout_agree held fun _ => same

theorem Agrees.free (held : Agrees wire params p) (other : ∀ u, item.owner = some u → stageCall u p.history = none) :
    Agrees wire params (p.push item) := by
  refine held.push ?_
  rcases item with _ | _ | _ | ⟨u,e⟩ | _ | _ | _ | _
  case event => cases e <;> simp [transmitsStage,staysShut,other u rfl]
  case outside => rfl
  all_goals simp [transmitsStage,staysShut,delivered,other _ rfl]

theorem Agrees.ends (held : Agrees wire params p) (mute : Mute command t p.history)
    (item : Item Garage) (last : (∃ request, item = .waiting t request) ∨ ∃ error, item = .failed t error) :
    Agrees wire params (p.push item) := by
  refine held.push ?_
  have undelivered : delivered wire params t p.history = false := mute.undelivered
  obtain ⟨request,rfl⟩ | ⟨error,rfl⟩ := last
  · simp [transmitsStage,staysShut,undelivered,mute.stage]
  · simp [transmitsStage,staysShut,undelivered,mute.stage]

/-- A stage that has nothing to send, behind its open door if it got so far. -/
def Starting (command : String) (behind : Prop) (t : ℕ) (past : List (Item Garage)) : Prop :=
  Mute command t past ∧ (behind → stageDoorOpen t past = true)

theorem Starting.push {behind : Prop} (held : Starting command behind t past) (going : ∀ call, item ≠ .started t call)
    (quiet : ∀ payload, item ≠ .event t (.sent (some payload))) : Starting command behind t (item :: past) :=
  ⟨held.1.push going quiet,fun reached => stageDoorOpen_grows item (held.2 reached)⟩

theorem Starting.stable (command : String) (behind : Prop) (t : ℕ) :
    Stable t fun p : Point Garage => Starting command behind t p.history := by
  refine .of_history fun item past foreign held => held.push (fun call same => foreign ?_) (fun payload same => foreign ?_)
  · rw [same]
    rfl
  · rw [same]
    rfl

theorem starting_blind (behind : Prop) (t : ℕ) :
    Ignores (fun p => Agrees wire params p ∧ Starting command behind t p.history) t (fun _ _ => True)
      fun (e : Event) => e.kind ≠ .sent := by
  refine ⟨fun p s held _ => held,?_,?_,?_,?_⟩
  · intro p e held other
    have silent (payload : Option String) : e ≠ .sent payload := fun same => other (by rw [same]; rfl)
    refine ⟨held.1.push ?_,held.2.push (by simp) (by simp [silent])⟩
    cases e with
    | sent payload => exact absurd rfl (silent payload)
    | _ => rfl
  · exact fun p n call held => ⟨held.1.push rfl,held.2.push (by simp) (by simp)⟩
  · exact fun p request held => ⟨held.1.ends held.2.1 _ (Or.inl ⟨request,rfl⟩),held.2.push (by simp) (by simp)⟩
  · exact fun p answer held => ⟨held.1.push rfl,held.2.push (by simp) (by simp)⟩

theorem starting_carries {behind : Prop} {t : ℕ} {α : Type} {m : Co Garage α} (kinds : List Kind) (inside : Emits kinds m)
    (apart : .sent ∉ kinds) : Carries (Agrees wire params) (fun p => Starting command behind t p.history) t m := by
  refine Co.Within.carries_both (starting_blind behind t) (.stable command behind t) (inside.mono (fun _ _ _ => trivial) ?_)
  intro e member sent
  rw [sent] at member
  exact apart member

theorem wp_openDoor_stage (t : ℕ) (p : Point Garage) :
    wp (fun _ => True) t (openDoor .stage) (fun _ q => stageDoorOpen t q.history = true) (fun _ _ => True) p := by
  have told (s : GarageRuntime) (past : List (Item Garage)) :
      stageDoorOpen t (Point.mk (L := Garage) s (.event t (.succeeded .toOpen .stage) :: past)).history = true := by
    simp [stageDoorOpen]
  refine wp_openDoor .top .top .top (fun _ _ _ _ => trivial) ?_ (fun _ _ _ _ => ⟨trivial,trivial⟩) ?_ fun _ _ _ _ _ _ => trivial
  · exact fun _ _ => told _ _
  · exact fun x _ _ _ => told _ _

theorem starting_opens {t : ℕ} (held : Agrees wire params p) (fact : Starting command False t p.history) :
    wp (Agrees wire params) t (openDoor .stage)
      (fun _ q => Agrees wire params q ∧ Starting command True t q.history)
      (fun _ q => Agrees wire params q ∧ Starting command False t q.history) p := by
  have carried := starting_carries (openKinds .stage) (emits_openDoor (List.Subset.refl _)) (by simp [openKinds]) p held fact
  refine wp_mono (wp_join (fun _ _ => trivial) (wp_openDoor_stage t p) carried) ?_ fun _ _ both => both.2
  exact fun _ q both => ⟨both.2.1,both.2.2.1,fun _ => both.1⟩

theorem starting_sends (takes : ℕ → Bool) (wire' : String × P → String) {t : ℕ} (held : Agrees wire params p)
    (fact : Starting command True t p.history) :
    wp (Agrees wire params) t (callback takes wire' [])
      (fun _ q => Agrees wire params q ∧ Starting command True t q.history)
      (fun _ q => Agrees wire params q ∧ Starting command True t q.history) p := by
  unfold callback
  rw [wp_ite]
  split
  · have sent : Agrees wire params (p.push (.event t (.sent none))) := held.push (by
      simp [transmitsStage,staysShut,fact.2 trivial])
    have kept : Starting command True t (p.push (.event t (.sent none))).history := fact.push (by simp) (by simp)
    have waits : Carries (Agrees wire params) (fun p => Starting command True t p.history) t (do let _ ← .await .send : Action) :=
      starting_carries [] ⟨trivial,fun _ => trivial⟩ (by simp)
    exact waits _ sent kept
  · exact ⟨held,fact⟩

theorem starting_clean (takes : ℕ → Bool) (wire' : String × P → String) {t : ℕ} (listed : command ∈ controlledExitCommands)
    (held : Agrees wire params p) (fact : Starting command False t p.history) :
    wp (Agrees wire params) t (asyncSend command .stage (callback takes wire' []))
      (fun _ q => Agrees wire params q ∧ Starting command True t q.history)
      (fun _ q => Agrees wire params q ∧ Starting command False t q.history) p := by
  have creates : Emits [.read] createSequence :=
    ⟨emits_publish (by simp),fun _ => ⟨trivial,fun _ => emits_modify fun _ => ⟨rfl,rfl,rfl⟩⟩⟩
  refine wp_asyncSend (G := fun q => Agrees wire params q ∧ Starting command True t q.history)
    (fun _ fact => ⟨fact.1,False.elim⟩) (starting_carries exitKinds (emits_runControlledExit (List.Subset.refl _)) (by
      simp [exitKinds,openKinds,closeKinds])) (fun _ => starting_opens)
    (starting_carries [.read] (emits_publish (by simp)) (by simp)) ?_ (fun _ _ => starting_sends takes wire') ?_ held fact
  · intro direct
    have releases : ∀ name ∈ controlledExitCommands, releasing (some name) = true := by decide +kernel
    exact absurd (direct.symm.trans (releases command listed)) Bool.false_ne_true
  · intro q both
    refine wp_mono (starting_carries [.read] creates (by simp) q both.1 both.2) (fun _ _ both => both) ?_
    exact fun _ _ both => ⟨both.1,both.2.1,False.elim⟩

end Mute

section Keeps
variable {P : Type} (wire : String × P → String) (params : ℕ → P) (takes : ℕ → Bool)

theorem agrees_stage {t : ℕ} {p : Point Garage} {command : String} {timeoutMinutes : Option PyValue}
    (held : Agrees wire params p) (fact : Starting command False t p.history) :
    wp (Agrees wire params) t (startStage (callback takes wire []) command timeoutMinutes)
      (fun _ q => Agrees wire params q ∧ Starting command True t q.history)
      (fun _ q => Agrees wire params q ∧ Starting command False t q.history) p := by
  have weaker (q : Point Garage) (fact : Starting command True t q.history) : Starting command False t q.history :=
    ⟨fact.1,False.elim⟩
  have silently (behind : Prop) {α : Type} {m : Co Garage α} (inside : Emits [.read] m) :
      Carries (Agrees wire params) (fun p => Starting command behind t p.history) t m :=
    starting_carries [.read] inside (by simp)
  refine wp_startStage weaker (fun listed => starting_clean takes wire listed held fact) ?_
    (fun _ => silently True (emits_modify fun _ => ⟨rfl,rfl,rfl⟩)) (fun _ => silently False (emits_modify fun _ => ⟨rfl,rfl,rfl⟩))
    (silently True (emits_publish (by simp))) (silently False (emits_publish (by simp))) held fact
  intro q held fact
  refine wp_mono (silently True (emits_awaitStage (by simp)) q held fact) (fun _ _ both => both) ?_
  exact fun _ q both => ⟨both.1,weaker q both.2⟩

theorem agrees_keeps : Preserves (stagedProgram fun _ => callback takes wire ([] : List (String ⊕ P))) (Agrees wire params) := by
  refine stagedProgram_keeps (fun input p held => show Agrees wire params (p.push (.outside input)) from held.push rfl) (fun _ _ held _ => held)
    (fun t call p held => held.push rfl) ?_ ?_
  · exact fun t p item held unstaged owned => held.free fun u same => Option.some.inj (owned.symm.trans same) ▸ unstaged
  · intro t p command timeoutMinutes held empty
    have begun : Agrees wire params (p.push (.started t (.asyncStartStage command timeoutMinutes))) := held.push rfl
    have mute : Mute command t (p.push (.started t (.asyncStartStage command timeoutMinutes))).history := by
      refine ⟨if_pos rfl,fun payload member => ?_⟩
      change payload ∈ transmitted t p.history at member
      simp [transmitted_empty empty] at member
    refine wp_mono (agrees_stage wire params takes begun ⟨mute,False.elim⟩) ?_ ?_
    · rintro _ q ⟨held,mute,opened⟩
      refine held.push ?_
      have undelivered : delivered wire params t q.history = false := mute.undelivered
      simp [transmitsStage,staysShut,undelivered,mute.stage,opened trivial]
    · exact fun error q both => both.1.ends both.2.1 _ (Or.inr ⟨error,rfl⟩)

end Keeps

/-- Over every run, and with every callable in the place of the entity's: the stages transmit
their own commands just if none of them gets its door open. -/
theorem stage_transmits {P : Type} (takes : ℕ → Bool) (wire : String × P → String) (params : ℕ → P) (binding : Binding)
    (world : World) (schedule : List (Label Garage)) :
    let history := (stagedRun (fun _ => callback takes wire ([] : List (String ⊕ P))) binding world schedule).history
    throughout (transmitsStage wire params) history = true ↔ throughout staysShut history = true := by
  have agrees := (agrees_keeps wire params takes).exec (GarageRuntime.init binding world) (by rfl) schedule
  exact Bool.eq_iff_iff.mp agrees

def oneStage : List (Label Garage) := [.call (.asyncStartStage "app_segment_clean" none),goesOn 0]

/-- The service's stage fails behind its open door with nothing sent; a callable that takes
anything is told of a success, and has sent no command either. -/
theorem stage_transmits_nothing :
    (throughout (transmitsStage Prod.fst fun _ => [3]) (run contactBinding dockedBehindOpen oneStage).history = false ∧
      transmitted 0 (run contactBinding dockedBehindOpen oneStage).history = []) ∧
    let told := stagedRun (fun _ => callback (fun _ => true) Prod.fst ([] : List (String ⊕ List ℕ))) contactBinding dockedBehindOpen oneStage
    throughout (transmitsStage Prod.fst fun _ => [3]) told.history = false ∧
      transmitted 0 told.history = [none] ∧ told.state.stageResult = some .succeeded := by
  decide +kernel

example : (run contactBinding dockedBehindOpen oneStage).state.stageResult = some (.failed .stageFailed) := by decide +kernel

end RoborockPlus
