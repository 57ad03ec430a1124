import RoborockPlus.DoorHistory

/-! What a confirmed position and an estimate rest on. A measured endpoint has been past its
threshold for the whole settle time; an estimated one has a command with its full travel. -/
namespace RoborockPlus
namespace DoorEvidence

section Settling
variable {binding : Binding} {d : Direction}

/-- The position is a number in range, past the threshold of this endpoint. -/
def PastThreshold (binding : Binding) (d : Direction) (position : PyValue) : Prop :=
  ∃ opened closed value, number (binding.get (.threshold .toOpen)) 0 (some 100) = some opened ∧
    number (binding.get (.threshold .toClose)) 0 (some 100) = some closed ∧
    number position 0 (some 100) = some value ∧ positionReached d opened closed value = true

/-- An observation on which the endpoint may start to count as stable. -/
def Steady (d : Direction) (e : DoorEvidence) : DoorCall → Prop
  | .observe now seen => (∃ t, e.Clear now seen t) ∧ PastThreshold e.binding d seen.position
  | _ => False

/-- An observation that leaves the stable reading of the endpoint as it is. -/
def Undisturbed (d : Direction) (e : DoorEvidence) : DoorCall → Prop
  | .observe now seen => Steady d e (.observe now seen) ∧ e.sourceLost seen = false
  | _ => False

/-- Some observation at least this long ago was like `first`, and every call from then on
was an observation like `next`. -/
def HeldFor (first next : DoorEvidence → DoorCall → Prop) (binding : Binding) (calls : List DoorCall) (now : PyValue)
    (seconds : ℚ) : Prop :=
  ∃ before start seen rest since t, calls = before ++ .observe start seen :: rest ∧ number start 0 none = some since ∧
    number now 0 none = some t ∧ seconds ≤ t-since ∧ first (after binding before) (.observe start seen) ∧
    Throughout next (after binding (before ++ [.observe start seen])) rest

structure Measured (binding : Binding) (d : Direction) (settle : ℚ) : Prop where
  source : binding.get (.source d) = .str "position"
  kind : binding.get .positionKind = .str "measured"
  seconds : number (binding.get .positionSettleSeconds) 0 (some 60) = some settle
  levels : ∃ opened closed, number (binding.get (.threshold .toOpen)) 0 (some 100) = some opened ∧
    number (binding.get (.threshold .toClose)) 0 (some 100) = some closed ∧ closed < opened

theorem endpoint_measured {settle : ℚ} (measured : Measured binding d settle) (command : Option Command) (now : ℚ)
    (seen : DoorObservation) (since : Option ℚ) :
    PastThreshold binding d seen.position ∧ (endpoint binding command d now seen since).2 = some (since.getD now) ∧
        (((endpoint binding command d now seen since).1.reached = some true ∧
          (endpoint binding command d now seen since).1.quality = .confirmed) ↔ settle ≤ now-since.getD now) ∨
      ¬PastThreshold binding d seen.position ∧ (endpoint binding command d now seen since).2 = none ∧
        (endpoint binding command d now seen since).1.reached ≠ some true := by
  obtain ⟨opened,closed,high,low,apart⟩ := measured.levels
  have known : ¬(binding.get .positionKind ∉ [.str "measured",.str "estimated"] ∨ opened ≤ closed) := by
    simp [measured.kind,apart]
  unfold endpoint PastThreshold
  rw [measured.source]
  unfold positionEndpoint
  dsimp only
  rw [high,low,measured.seconds]
  simp only [known,if_false]
  rcases shown : number seen.position 0 (some 100) with _ | value
  · exact Or.inr ⟨by simp,rfl,by simp [unknown]⟩
  simp only [measured.kind,PyValue.str.injEq,String.reduceEq,if_false]
  rcases reached : positionReached d opened closed value with _ | _
  · exact Or.inr ⟨by simp [reached],rfl,by simp⟩
  · refine Or.inl ⟨⟨opened,closed,value,rfl,rfl,rfl,reached⟩,?_⟩
    by_cases settled : settle ≤ now-since.getD now
    · simp [DoorEvidence.settled,settled]
    · simp [DoorEvidence.settled,settled]

variable {settle t u : ℚ} {e : DoorEvidence} {now : PyValue} {seen : DoorObservation}

theorem observe_steady (measured : Measured e.binding d settle) (clear : e.Clear now seen t)
    (past : PastThreshold e.binding d seen.position) :
    (e.observe now seen).2.lastNow = some t ∧
      (e.observe now seen).2.stableSince d = some (((e.hears t seen).stableSince d).getD t) ∧
      (((e.observe now seen).1.endpoint d).reached = some true ∧ ((e.observe now seen).1.endpoint d).quality = .confirmed ↔
        settle ≤ t-((e.hears t seen).stableSince d).getD t) := by
  rcases observe_cases e now seen with revoked | ⟨t',clear',unreached,settled⟩
  · exact absurd clear (revoked.unclear t)
  obtain rfl := Option.some.inj (clear.clock.1.symm.trans clear'.clock.1)
  have bound : Measured (e.hears t seen).binding d settle := (hears_binding e seen t).symm ▸ measured
  have level : PastThreshold (e.hears t seen).binding d seen.position := (hears_binding e seen t).symm ▸ past
  have stamped : (e.hears t seen).lastNow = some t := by unfold hears; split_ifs <;> rfl
  rcases endpoint_measured bound (e.hears t seen).command t seen ((e.hears t seen).stableSince d) with
    ⟨_,since,confirmed⟩ | ⟨short,_⟩
  · rw [settled,DoorEvidence.settle,if_neg unreached]
    refine ⟨stamped,since,?_⟩
    cases d <;> exact confirmed
  · exact absurd level short

theorem observe_unsteady (measured : Measured e.binding d settle) (unsteady : ¬Steady d e (.observe now seen)) :
    (e.observe now seen).2.stableSince d = none ∧ ((e.observe now seen).1.endpoint d).reached ≠ some true := by
  rcases observe_cases e now seen with revoked | ⟨t,clear,unreached,settled⟩
  · exact ⟨revoked.stableSince d,by simp [(revoked.endpoint d).1]⟩
  have bound : Measured (e.hears t seen).binding d settle := (hears_binding e seen t).symm ▸ measured
  rcases endpoint_measured bound (e.hears t seen).command t seen ((e.hears t seen).stableSince d) with
    ⟨past,_⟩ | ⟨_,since,unmet⟩
  · exact absurd ⟨⟨t,clear⟩,hears_binding e seen t ▸ past⟩ unsteady
  · rw [settled,DoorEvidence.settle,if_neg unreached]
    refine ⟨since,?_⟩
    cases d <;> exact unmet

theorem stable_since (measured : Measured binding d settle) {history : List DoorCall}
    (stable : (after binding history).stableSince d = some u) :
    (∃ last, (after binding history).lastNow = some last ∧ u ≤ last) ∧
      ∃ before start seen rest, history = before ++ .observe start seen :: rest ∧ number start 0 none = some u ∧
        Steady d (after binding before) (.observe start seen) ∧
        Throughout (Undisturbed d) (after binding (before ++ [.observe start seen])) rest := by
  induction history using List.reverseRecOn generalizing u with
  | nil => simp at stable
  | append_singleton history made ih =>
    rw [after_append] at stable ⊢
    cases made with
    | noteCommand direction now operationId =>
      change ((after binding history).noteCommand direction now operationId).stableSince d = _ at stable
      rw [noteCommand_unstable] at stable
      simp at stable
    | invalidate => simp [call,invalidate] at stable
    | observe now seen =>
      have bound : Measured (after binding history).binding d settle := (after_binding binding history).symm ▸ measured
      by_cases steady : Steady d (after binding history) (.observe now seen)
      pick_goal 2
      · exact absurd ((observe_unsteady bound steady).1.symm.trans stable) (by simp)
      obtain ⟨⟨t,clear⟩,past⟩ := steady
      obtain ⟨stamped,since,_⟩ := observe_steady bound clear past
      by_cases begins : u = t
      · subst begins
        exact ⟨⟨u,stamped,le_rfl⟩,history,now,seen,[],rfl,clear.clock.1,⟨⟨u,clear⟩,past⟩,trivial⟩
      have same := Option.some.inj (stable.symm.trans since)
      by_cases lost : (after binding history).sourceLost seen = true
      · rw [hears,if_pos lost] at same
        exact absurd same begins
      rw [hears,if_neg lost] at same
      rcases earlier : (after binding history).stableSince d with _ | v
      · exact absurd (by simpa [earlier] using same) begins
      · obtain rfl : u = v := by simpa [earlier] using same
        obtain ⟨⟨last,held,before⟩,prior,start,first,rest,split,began,steady,still⟩ := ih earlier
        refine ⟨⟨t,stamped,before.trans (clear.clock.2 last held)⟩,prior,start,first,rest ++ [.observe now seen],
          by simp [split],began,steady,throughout_append.mpr ⟨still,?_⟩⟩
        have here : rest.foldl call (after binding (prior ++ [.observe start first])) = after binding history := by
          simp [split]
        rw [here]
        exact ⟨⟨⟨⟨t,clear⟩,past⟩,by simpa using lost⟩,trivial⟩

theorem held_since (measured : Measured e.binding d settle) {calls : List DoorCall} (stable : e.stableSince d = some u)
    (still : Throughout (Undisturbed d) e calls) : (calls.foldl call e).stableSince d = some u := by
  induction calls generalizing e with
  | nil => exact stable
  | cons made rest ih =>
    obtain ⟨here,later⟩ := still
    cases made with
    | observe now seen =>
      obtain ⟨⟨⟨t,clear⟩,past⟩,kept⟩ := here
      refine ih ((call_binding e _).symm ▸ measured) ?_ later
      refine (observe_steady measured clear past).2.1.trans ?_
      rw [hears,if_neg (by simp [kept]),stable]
      rfl
    | _ => exact here.elim

/-- A measured endpoint is confirmed as reached exactly when it has been past its threshold
for the settle time, undisturbed since the observation at which that began. -/
theorem measured_confirmed (measured : Measured binding d settle) (history : List DoorCall) (now : PyValue) (seen : DoorObservation) :
    (((after binding history).observe now seen).1.endpoint d).reached = some true ∧
        (((after binding history).observe now seen).1.endpoint d).quality = .confirmed ↔
      HeldFor (Steady d) (Undisturbed d) binding (history ++ [.observe now seen]) now settle := by
  have bound : Measured (after binding history).binding d settle := (after_binding binding history).symm ▸ measured
  have last : (after binding (history ++ [.observe now seen])) = ((after binding history).observe now seen).2 := by
    rw [after_append]
    rfl
  constructor
  · intro confirmed
    by_cases steady : Steady d (after binding history) (.observe now seen)
    pick_goal 2
    · exact absurd confirmed.1 (observe_unsteady bound steady).2
    obtain ⟨⟨t,clear⟩,past⟩ := steady
    obtain ⟨_,since,held⟩ := observe_steady bound clear past
    obtain ⟨_,before,start,first,rest,split,began,steady,still⟩ := stable_since measured ((congrArg (stableSince · d) last).trans since)
    exact ⟨before,start,first,rest,_,t,split,began,clear.clock.1,held.mp confirmed,steady,still⟩
  · rintro ⟨before,start,first,rest,since,t,split,began,read,long,⟨⟨t',clear⟩,past⟩,still⟩
    obtain rfl := Option.some.inj (began.symm.trans clear.clock.1)
    have prior : Measured (after binding before).binding d settle := (after_binding binding before).symm ▸ measured
    obtain ⟨stamped,begins,_⟩ := observe_steady prior clear past
    have first_ : after binding (before ++ [.observe start first]) = ((after binding before).observe start first).2 := by
      rw [after_append]
      rfl
    obtain ⟨⟨stamp,held,earlier⟩,_⟩ := stable_since measured ((congrArg (stableSince · d) first_).trans begins)
    have whole : after binding (history ++ [.observe now seen]) = rest.foldl call (after binding (before ++ [.observe start first])) := by
      rw [split,← after_append]
      simp
    have bound' : Measured (after binding (before ++ [.observe start first])).binding d settle := (after_binding binding _).symm ▸ measured
    have kept := held_since bound' ((congrArg (stableSince · d) first_).trans begins) still
    rw [← whole,last] at kept
    by_cases steady : Steady d (after binding history) (.observe now seen)
    pick_goal 2
    · exact absurd ((observe_unsteady bound steady).1.symm.trans kept) (by simp)
    obtain ⟨⟨t'',clear'⟩,past'⟩ := steady
    obtain rfl := Option.some.inj (read.symm.trans clear'.clock.1)
    obtain ⟨_,same,confirmed⟩ := observe_steady bound clear' past'
    refine confirmed.mpr (long.trans ?_)
    rw [first_,stamped] at held
    have stamp_ := Option.some.inj held
    rw [Option.some.inj (same.symm.trans kept)]
    linarith

/-- A valid binding's measured endpoint is confirmed exactly when it has settled. At the
observation that began it the active command may still have lost its source. -/
theorem settled_exactly {raw : Binding} {supported : Bool} (accepted : GarageConfig.validateBinding raw supported = .ok binding)
    (enabled : (binding.get .enabled).truthy = true) (source : binding.get (.source d) = .str "position")
    (kind : binding.get .positionKind = .str "measured")
    (seconds : number (binding.get .positionSettleSeconds) 0 (some 60) = some settle) (history : List DoorCall)
    (now : PyValue) (seen : DoorObservation) :
    (((after binding history).observe now seen).1.endpoint d).reached = some true ∧
        (((after binding history).observe now seen).1.endpoint d).quality = .confirmed ↔
      HeldFor (Steady d) (Undisturbed d) binding (history ++ [.observe now seen]) now settle := by
  have checked := (GarageConfig.validateBinding_accepts accepted enabled).2
  obtain ⟨_,opened,closed,_,high,low,_,apart⟩ := (accepted_configured checked d).position source
  exact measured_confirmed ⟨source,kind,seconds,opened,closed,high,low,apart⟩ history now seen

theorem mixed_settles :
    HeldFor (Steady .toOpen) (Undisturbed .toOpen) mixedBinding
      ([.observe (.int 5) (positionedAt 95 (some "off"))] ++ [.observe (.int 7) (positionedAt 95 (some "off"))]) (.int 7) 2 :=
  (settled_exactly mixedBinding_accepted (by decide) (by decide) (by decide) (by decide +kernel) _ _ _).mp (by decide +kernel)

/-- A command that lost its source two seconds ago, as the open endpoint began to settle. -/
theorem settled_from_loss :
    GarageConfig.validateBinding mixedBinding true = .ok mixedBinding ∧
      (((after mixedBinding [.noteCommand (some .toClose) (.int 0) (.int 1),.observe (.int 5) (positionedAt 95 none)]).observe
        (.int 7) (positionedAt 95 (some "off"))).1.endpoint .toOpen) = ⟨some true,.confirmed,"position",none⟩ ∧
      ¬HeldFor (Undisturbed .toOpen) (Undisturbed .toOpen) mixedBinding
        ([.noteCommand (some .toClose) (.int 0) (.int 1),.observe (.int 5) (positionedAt 95 none)] ++
          [.observe (.int 7) (positionedAt 95 (some "off"))]) (.int 7) 2 := by
  refine ⟨mixedBinding_accepted,by decide +kernel,?_⟩
  rintro ⟨before,start,seen,rest,since,t,split,began,read,long,here,_⟩
  rcases before with _ | ⟨_,_ | ⟨_,_ | ⟨_,before⟩⟩⟩
  · simp at split
  · obtain ⟨rfl,⟨rfl,rfl⟩,rfl⟩ : _ ∧ (PyValue.int 5 = start ∧ positionedAt 95 none = seen) ∧ _ := by simpa using split
    exact absurd here.2 (by decide +kernel)
  · obtain ⟨rfl,rfl,⟨rfl,rfl⟩,rfl⟩ : _ ∧ _ ∧ (PyValue.int 7 = start ∧ positionedAt 95 (some "off") = seen) ∧ _ := by
      simpa using split
    obtain rfl := Option.some.inj (began.symm.trans read)
    norm_num at long
  · simp at split

end Settling

section Estimates
variable {binding : Binding} {e : DoorEvidence} {now : PyValue} {seen : DoorObservation} {c : Command}

/-- An observation that a command to this endpoint survives. -/
def Followed (d : Direction) (e : DoorEvidence) : DoorCall → Prop
  | .observe now seen => (∃ t, e.Clear now seen t) ∧ readable e.binding d seen = true
  | _ => False

theorem sourceLost_readable (active : e.command = some c) : e.sourceLost seen = !readable e.binding c.direction seen := by
  unfold sourceLost readable
  rw [active]
  dsimp only
  by_cases position : e.binding.get (.source c.direction) = .str "position"
  · simp [position]
  by_cases contact : e.binding.get (.source c.direction) = .str "contact"
  · simp [contact]
  · simp

theorem observe_command (kept : (e.observe now seen).2.command = some c) :
    e.command = some c ∧ Followed c.direction e (.observe now seen) := by
  rcases observe_cases e now seen with revoked | ⟨t,clear,unreached,settled⟩
  · exact absurd (revoked.command.symm.trans kept) (by simp)
  rw [settled,settle,if_neg unreached] at kept
  change (e.hears t seen).command = some c at kept
  by_cases lost : e.sourceLost seen = true
  · rw [hears,if_pos lost] at kept
    simp [invalidate] at kept
  · rw [hears,if_neg lost] at kept
    have kept : e.command = some c := kept
    exact ⟨kept,⟨t,clear⟩,by simpa [sourceLost_readable kept] using lost⟩

theorem command_since {history : List DoorCall} (noted : (after binding history).command = some c) :
    ∃ before at_ rest, history = before ++ .noteCommand (some c.direction) at_ (.int c.operationId) :: rest ∧
      (after binding before).accepts at_ c.startedAt ∧
      Throughout (Followed c.direction) (after binding (before ++ [.noteCommand (some c.direction) at_ (.int c.operationId)])) rest := by
  induction history using List.reverseRecOn with
  | nil => simp at noted
  | append_singleton history made ih =>
    rw [after_append] at noted
    cases made with
    | noteCommand direction now operationId =>
      change ((after binding history).noteCommand direction now operationId).command = _ at noted
      rcases noteCommand_cases (after binding history) direction now operationId with ⟨d,t,id,rfl,rfl,accepted,same⟩ | none
      · obtain rfl := Option.some.inj (noted.symm.trans same)
        exact ⟨history,now,[],rfl,accepted,trivial⟩
      · exact absurd (none.symm.trans noted) (by simp)
    | invalidate => simp [call,invalidate] at noted
    | observe now seen =>
      obtain ⟨kept,followed⟩ := observe_command noted
      obtain ⟨before,at_,rest,rfl,accepted,still⟩ := ih kept
      refine ⟨before,at_,rest ++ [.observe now seen],by simp,accepted,throughout_append.mpr ⟨still,?_,trivial⟩⟩
      simpa using followed

/-- The last command of the history was for this endpoint and has had its full travel, and
nothing since has made the door or the selected source unreadable. -/
def Travelled (binding : Binding) (d : Direction) (history : List DoorCall) (now : PyValue) (seen : DoorObservation) : Prop :=
  ∃ before noted id rest t0 t travel margin, history = before ++ .noteCommand (some d) noted (.int id) :: rest ∧
    (after binding before).accepts noted t0 ∧ number now 0 none = some t ∧
    number (binding.get (.travelSeconds d)) 1 (some 600) = some travel ∧
    number (binding.get .travelMarginSeconds) 0 (some 120) = some margin ∧ travel+margin ≤ t-t0 ∧
    Throughout (Followed d) (after binding (before ++ [.noteCommand (some d) noted (.int id)])) (rest ++ [.observe now seen])

theorem estimated_since {d : Direction} {history : List DoorCall}
    (estimated : (((after binding history).observe now seen).1.endpoint d).quality = .estimated) :
    Travelled binding d history now seen := by
  rcases observe_cases (after binding history) now seen with revoked | ⟨t,clear,unreached,settled⟩
  · exact absurd ((revoked.endpoint d).2.1.symm.trans estimated) (by simp)
  have read : ((after binding history).observe now seen).1.endpoint d = (((after binding history).hears t seen).read d t seen).1 := by
    rw [settled,settle,if_neg unreached]
    cases d <;> rfl
  rw [read] at estimated
  obtain ⟨c,travel,margin,given,rfl,full,spare,elapsed⟩ := endpoint_estimated estimated
  rw [hears_binding,after_binding] at full spare
  have kept : ((after binding history).observe now seen).2.command = some c := by
    rw [settled,settle,if_neg unreached]
    exact given
  have last : after binding (history ++ [.observe now seen]) = ((after binding history).observe now seen).2 := by
    rw [after_append]
    rfl
  obtain ⟨noted,followed⟩ := observe_command kept
  obtain ⟨before,at_,rest,rfl,accepted,still⟩ := command_since noted
  refine ⟨before,at_,c.operationId,rest,c.startedAt,t,travel,margin,rfl,accepted,clear.clock.1,full,spare,elapsed,
    throughout_append.mpr ⟨still,?_,trivial⟩⟩
  simpa using followed

end Estimates

theorem timed_since :
    Travelled (Binding.ofList [(.source .toOpen,.str "timed"),(.travelSeconds .toOpen,.int 20),(.travelMarginSeconds,.int 5)])
      .toOpen [.noteCommand (some .toOpen) (.int 0) (.int 1)] (.int 25) (positionedAt 0 none) :=
  estimated_since (by decide +kernel)

end DoorEvidence

end RoborockPlus
