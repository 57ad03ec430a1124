import RoborockPlus.Ownership
import RoborockPlus.ZoneStore

/-! The migration of the retired garage guard, two flat options, onto the bindings of the
robots. It runs at every set-up of an entry, over whatever is stored there. -/
namespace RoborockPlus

namespace Migration

/-- The options of an entry as they are stored, of whatever kind each of them is. -/
abbrev OptionMap := PyDict (Stored (PyDict (Stored Binding)))

def legacyGuardEnabled : String := "garage_guard_enabled"

def legacyGuardCover : String := "garage_door_entity_id"

def garageBindings : String := "garage_bindings"

def migrateBinding (cover : String) : Stored Binding → Stored Binding
  | .other value => .other value
  | .mapping binding =>
    if binding.get .enabled = .bool true then .mapping binding
    else if binding.get .coverEntityId ∉ [.none,.str cover] then .mapping binding
    else .mapping (Function.update (Function.update binding .coverEntityId (some (.str cover))) .enabled (some (.bool false)))

/-- The cover of the old pair, where there is one to be taken over. -/
def guardedCover (options : OptionMap) : Option String :=
  match options.lookup legacyGuardEnabled,options.lookup legacyGuardCover with
  | some (.other (.bool true)),some (.other (.str cover)) => if cover = "" then none else some cover
  | _,_ => none

def storedBindings (options : OptionMap) : PyDict (Stored Binding) :=
  match options.lookup garageBindings with
  | some (.mapping bindings) => bindings
  | _ => []

def migratedBindings (options : OptionMap) : PyDict (Stored Binding) :=
  match guardedCover options with
  -- the candidates are updated under keys of their own, so each takes its old place
  | some cover => (storedBindings options).mapValues (migrateBinding cover)
  | none => storedBindings options

def migrateRetiredGuard (options : OptionMap) : OptionMap :=
  if options.lookup legacyGuardEnabled = none ∧ options.lookup legacyGuardCover = none then options
  else
    let left := (options.pop legacyGuardEnabled).pop legacyGuardCover
    if (migratedBindings options).isEmpty then left else left.set garageBindings (.mapping (migratedBindings options))

/-- Neither absent nor empty, and not this cover either. -/
def NamesAnother (cover : String) (binding : Binding) : Prop := binding.get .coverEntityId ∉ [.none,.str "",.str cover]

/-- What the migration is for, of the options before and after it. -/
structure Migrated (old new : OptionMap) : Prop where
  enabled : ∀ duid binding, (storedBindings old).lookup duid = some (.mapping binding) → binding.get .enabled = .bool true →
    (storedBindings new).lookup duid = some (.mapping binding)
  different : ∀ duid binding, (storedBindings old).lookup duid = some (.mapping binding) →
    (∀ cover ∈ guardedCover old, NamesAnother cover binding) → (storedBindings new).lookup duid = some (.mapping binding)
  others : ∀ key, key ∉ [legacyGuardEnabled,legacyGuardCover,garageBindings] → new.lookup key = old.lookup key
  removed : new.lookup legacyGuardEnabled = none ∧ new.lookup legacyGuardCover = none
  disabled : ∀ duid binding, (storedBindings new).lookup duid = some (.mapping binding) → binding.get .enabled = .bool true →
    (storedBindings old).lookup duid = some (.mapping binding)
  again : migrateRetiredGuard new = new
  named : ∀ cover ∈ guardedCover old, ∀ duid binding, (storedBindings old).lookup duid = some (.mapping binding) →
    binding.get .enabled ≠ .bool true → GarageConfig.blank (binding.get .coverEntityId) = true →
      ∃ after, (storedBindings new).lookup duid = some (.mapping after) ∧ after.get .coverEntityId = .str cover

section Bindings
variable {options : OptionMap} {cover duid key : String} {binding : Binding}

theorem migrateBinding_mapping : migrateBinding cover (.mapping binding) =
    if binding.get .enabled = .bool true then .mapping binding
    else if binding.get .coverEntityId ∉ [.none,.str cover] then .mapping binding
    else .mapping (Function.update (Function.update binding .coverEntityId (some (.str cover))) .enabled (some (.bool false))) := rfl

theorem migrateBinding_another (another : binding.get .coverEntityId ∉ [.none,.str cover]) :
    migrateBinding cover (.mapping binding) = .mapping binding := by
  rw [migrateBinding_mapping,if_pos another,ite_self]

theorem migrateBinding_none (off : binding.get .enabled ≠ .bool true) (unnamed : binding.get .coverEntityId ∈ [.none,.str cover]) :
    ∃ after, migrateBinding cover (.mapping binding) = .mapping after ∧ after.get .coverEntityId = .str cover := by
  rw [migrateBinding_mapping,if_neg off,if_neg (not_not.mpr unnamed)]
  refine ⟨_,rfl,?_⟩
  rw [Binding.get,Function.update_of_ne (by simp),Function.update_self,Option.getD_some]

theorem enabled_of_migrateBinding {stored : Stored Binding} (after : migrateBinding cover stored = .mapping binding)
    (on : binding.get .enabled = .bool true) : stored = .mapping binding := by
  cases stored with
  | other value => exact nomatch after
  | mapping before =>
    rw [migrateBinding_mapping] at after
    split_ifs at after
    · exact after
    · obtain rfl := Stored.mapping.inj after
      simp [Binding.get] at on
    · exact after

theorem guardedCover_none (absent : options.lookup legacyGuardEnabled = none) : guardedCover options = none := by
  simp [guardedCover,absent]

theorem guardedCover_ne (guarded : guardedCover options = some cover) : cover ≠ "" := by
  unfold guardedCover at guarded
  split at guarded
  · split_ifs at guarded with empty
    obtain rfl := Option.some.inj guarded
    exact empty
  · exact nomatch guarded

theorem storedBindings_congr {other : OptionMap} (same : other.lookup garageBindings = options.lookup garageBindings) :
    storedBindings other = storedBindings options := by
  rw [storedBindings,same]
  rfl

theorem lookup_left (other : key ∉ [legacyGuardEnabled,legacyGuardCover]) :
    ((options.pop legacyGuardEnabled).pop legacyGuardCover).lookup key = options.lookup key := by
  simp only [List.mem_cons,List.not_mem_nil,or_false,not_or] at other
  rw [PyDict.lookup_pop,if_neg (Ne.symm other.2),PyDict.lookup_pop,if_neg (Ne.symm other.1)]

theorem storedBindings_migrate : storedBindings (migrateRetiredGuard options) = migratedBindings options := by
  unfold migrateRetiredGuard
  split_ifs with absent empty
  · rw [migratedBindings,guardedCover_none absent.1]
  · have stored : storedBindings options = [] := by
      unfold migratedBindings at empty
      cases guarded : guardedCover options with
      | none => simpa [guarded] using empty
      | some cover => simpa [guarded,PyDict.mapValues] using empty
    rw [List.isEmpty_iff.mp empty,storedBindings_congr (lookup_left (by decide)),stored]
  · rw [storedBindings,PyDict.lookup_set,if_pos rfl]

theorem stored_unguarded (unguarded : guardedCover options = none) :
    storedBindings (migrateRetiredGuard options) = storedBindings options := by
  rw [storedBindings_migrate,migratedBindings,unguarded]

theorem stored_guarded (guarded : guardedCover options = some cover) : (storedBindings (migrateRetiredGuard options)).lookup duid =
    ((storedBindings options).lookup duid).map (migrateBinding cover) := by
  rw [storedBindings_migrate,migratedBindings,guarded]
  exact PyDict.lookup_mapValues _ _ _

theorem stored_same (stored : (storedBindings options).lookup duid = some (.mapping binding))
    (same : ∀ cover ∈ guardedCover options, migrateBinding cover (.mapping binding) = .mapping binding) :
    (storedBindings (migrateRetiredGuard options)).lookup duid = some (.mapping binding) := by
  cases guarded : guardedCover options with
  | none => rw [stored_unguarded guarded,stored]
  | some cover => rw [stored_guarded guarded,stored,Option.map_some,same cover guarded]

theorem lookup_migrate (other : key ∉ [legacyGuardEnabled,legacyGuardCover,garageBindings]) :
    (migrateRetiredGuard options).lookup key = options.lookup key := by
  simp only [List.mem_cons,List.not_mem_nil,or_false,not_or] at other
  have left : ((options.pop legacyGuardEnabled).pop legacyGuardCover).lookup key = options.lookup key := lookup_left (by simp [other])
  unfold migrateRetiredGuard
  dsimp only
  split_ifs
  · rfl
  · exact left
  · rw [PyDict.lookup_set,if_neg (Ne.symm other.2.2),left]

theorem lookup_legacy (legacy : key ∈ [legacyGuardEnabled,legacyGuardCover]) : (migrateRetiredGuard options).lookup key = none := by
  have left : ((options.pop legacyGuardEnabled).pop legacyGuardCover).lookup key = none := by
    rw [PyDict.lookup_pop,PyDict.lookup_pop]
    simp only [List.mem_cons,List.not_mem_nil,or_false] at legacy
    rcases legacy with rfl | rfl <;> simp
  unfold migrateRetiredGuard
  dsimp only
  split_ifs with absent
  · simp only [List.mem_cons,List.not_mem_nil,or_false] at legacy
    rcases legacy with rfl | rfl
    · exact absent.1
    · exact absent.2
  · exact left
  · have apart : garageBindings ≠ key := by
      rintro rfl
      exact absurd legacy (by decide)
    rw [PyDict.lookup_set,if_neg apart,left]

theorem migrate_again : migrateRetiredGuard (migrateRetiredGuard options) = migrateRetiredGuard options :=
  if_pos ⟨lookup_legacy (by simp),lookup_legacy (by simp)⟩

end Bindings

section Options
variable {options : OptionMap}

/-- The migration does all it is for exactly when no disabled binding beside a guarded cover names
its own by the empty text. -/
theorem migrated_iff_no_empty_cover : Migrated options (migrateRetiredGuard options) ↔
    ∀ cover ∈ guardedCover options, ∀ duid binding, (storedBindings options).lookup duid = some (.mapping binding) →
      binding.get .enabled ≠ .bool true → binding.get .coverEntityId ≠ .str "" := by
  constructor
  · intro migrated cover guarded duid binding stored off empty
    obtain ⟨after,kept,named⟩ := migrated.named cover guarded duid binding stored off (by simp [GarageConfig.blank,empty])
    have cover_ne := guardedCover_ne guarded
    have another : binding.get .coverEntityId ∉ [.none,.str cover] := by simp [empty,Ne.symm cover_ne]
    rw [stored_guarded guarded,stored] at kept
    have same := (migrateBinding_another another).symm.trans (Option.some.inj kept)
    obtain rfl := Stored.mapping.inj same
    rw [empty] at named
    exact cover_ne (PyValue.str.inj named).symm
  · intro full
    refine ⟨?_,?_,fun key other => lookup_migrate other,⟨lookup_legacy (by simp),lookup_legacy (by simp)⟩,?_,migrate_again,?_⟩
    · intro duid binding stored on
      exact stored_same stored (fun cover _ => if_pos on)
    · intro duid binding stored another
      refine stored_same stored (fun cover guarded => migrateBinding_another ?_)
      have names := another cover guarded
      simp only [NamesAnother,List.mem_cons,List.not_mem_nil,or_false,not_or] at names ⊢
      exact ⟨names.1,names.2.2⟩
    · intro duid binding kept on
      cases guarded : guardedCover options with
      | none => rwa [stored_unguarded guarded] at kept
      | some cover =>
        rw [stored_guarded guarded] at kept
        obtain ⟨stored,found,after⟩ := Option.map_eq_some_iff.mp kept
        rw [found,enabled_of_migrateBinding after on]
    · intro cover guarded duid binding stored off blank
      have empty := full cover guarded duid binding stored off
      have unnamed : binding.get .coverEntityId ∈ [.none,.str cover] := by
        simp only [GarageConfig.blank,decide_eq_true_eq,List.mem_cons,List.not_mem_nil,or_false] at blank ⊢
        exact Or.inl (blank.resolve_right empty)
      obtain ⟨after,moved,named⟩ := migrateBinding_none off unnamed
      refine ⟨after,?_,named⟩
      rw [stored_guarded guarded,stored]
      exact congrArg some moved

/-- A draft of a binding whose cover was cleared in the form, beside the old pair. -/
def clearedCover : OptionMap :=
  [(legacyGuardEnabled,.other (.bool true)),(legacyGuardCover,.other (.str "cover.door")),
    (garageBindings,.mapping [("duid",.mapping (Binding.ofList [(.enabled,.bool false),(.coverEntityId,.str "")]))])]

theorem clearedCover_not_migrated : ¬ Migrated clearedCover (migrateRetiredGuard clearedCover) := by
  intro migrated
  obtain ⟨after,kept,named⟩ := migrated.named "cover.door" (by decide) "duid" _ rfl (by decide) (by decide)
  have stored : (storedBindings (migrateRetiredGuard clearedCover)).lookup "duid" =
      some (.mapping (Binding.ofList [(.enabled,.bool false),(.coverEntityId,.str "")])) := by
    rw [storedBindings_migrate]
    rfl
  obtain rfl := Stored.mapping.inj (Option.some.inj (stored.symm.trans kept))
  exact absurd named (by decide)

end Options

end Migration
end RoborockPlus
