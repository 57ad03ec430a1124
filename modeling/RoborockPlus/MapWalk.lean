import RoborockPlus.Iteration.While
import RoborockPlus.MapPatch

/-! The walk over any bytes, turn by turn. Every turn gets past a block that lies inside the bytes,
so the walk ends, and what is read or written of the position block lies inside them too. -/
namespace RoborockPlus
open Binary Iteration

namespace MapRender

/-- The body of the `while` loop: the next position, or what the function returns. -/
def walkTurn (raw : Bytes) (position : ℕ) : Turn ℕ (Option (ℕ × ℕ)) :=
  if position+8 ≤ raw.length then
    if field raw position 2 2 ≤ 0 ∨ maxBlockHeaderLength < field raw position 2 2 ∨ field raw position 4 4 ≤ 0 then .done none
    else if raw.length < position+field raw position 2 2+field raw position 4 4 then .done none
    else if field raw position 0 2 = robotPositionBlockType then
      if field raw position 4 4 < 8 then .done none else .done (some (position+field raw position 2 2,field raw position 4 4))
    else .next (position+(field raw position 4 4+(field raw position 2 2 &&& 255)))
  else .done none

/-- `find_robot_position_block`, given up when its loop is not over after so many turns. -/
def findWithin (raw : Bytes) (turns : ℕ) : Option (Option (ℕ × ℕ)) :=
  if raw.length < 4 then some none
  else
    let headerLength := fromBytes (slice raw 2 4)
    if headerLength ≤ 0 ∨ raw.length ≤ headerLength then some none
    else run (walkTurn raw) turns headerLength

/-- A block with the header it claims and the data it claims is inside the bytes, and so are the
eight bytes from which both lengths are read. -/
structure BlockInside (raw : Bytes) (block : ℕ) : Prop where
  fields : block+8 ≤ raw.length
  header_pos : 0 < field raw block 2 2
  header_le : field raw block 2 2 ≤ maxBlockHeaderLength
  data_pos : 0 < field raw block 4 4
  whole : dataStart raw block+field raw block 4 4 ≤ raw.length

/-- A block inside the bytes, and where the one behind it starts. -/
def Behind (raw : Bytes) (block next : ℕ) : Prop :=
  BlockInside raw block ∧ next = dataStart raw block+field raw block 4 4

/-- What is returned, and the chain of blocks that leads there from the end of the map header. -/
structure Reached (raw : Bytes) (start size : ℕ) : Prop where
  behind_header : firstHeader raw < start
  long : 8 ≤ size
  inside : start+size ≤ raw.length
  chain : ∃ block, Relation.ReflTransGen (Behind raw) (firstHeader raw) block ∧ BlockInside raw block ∧
    dataStart raw block = start ∧ field raw block 4 4 = size

/-- Eight bytes from `start` on are there to read, and nothing else has changed in `patched`. -/
structure WrittenInside (raw patched : Bytes) (start : ℕ) : Prop where
  room : start+8 ≤ raw.length
  length : patched.length = raw.length
  outside : ∀ i, i < start ∨ start+8 ≤ i → patched[i]? = raw[i]?

/-- A patch that comes back was written inside the bytes that the walk went over. -/
def PatchedInside (gzip : Gzip) (wrapped : Bytes) (x y : ℤ) : Prop :=
  ∀ out, patchRobotPosition gzip wrapped x y = .ok (some out) → ∃ raw patched start size,
    gzipUnwrap gzip wrapped = .ok (some raw) ∧ findRobotPositionBlock raw = some (start,size) ∧ WrittenInside raw patched start ∧
      out = if wrapped.take 2 = gzipMagic then gzip.compress patched else patched

/-- A position that is read comes from eight bytes, all of which are there. -/
def ReadInside (gzip : Gzip) (wrapped : Bytes) : Prop :=
  ∀ point, readRobotPosition gzip wrapped = .ok (some point) → ∃ raw start size first second,
    gzipUnwrap gzip wrapped = .ok (some raw) ∧ findRobotPositionBlock raw = some (start,size) ∧ start+8 ≤ raw.length ∧
      slice raw start (start+4) = first ∧ slice raw (start+4) (start+8) = second ∧ first.length = 4 ∧ second.length = 4 ∧
      point = ((fromSigned first : ℚ),(fromSigned second : ℚ))

section Turns
variable {raw : Bytes} {position next start size turns : ℕ} {found : Option (ℕ × ℕ)}

theorem walkTurn_next (taken : walkTurn raw position = .next next) : Behind raw position next := by
  unfold walkTurn at taken
  split_ifs at taken with fits bad out kind short
  have low : field raw position 2 2 < 2^8 := by
    unfold maxBlockHeaderLength at bad
    omega
  have stride : field raw position 2 2 &&& 255 = field raw position 2 2 := Nat.and_two_pow_sub_one_of_lt_two_pow low
  have there := Turn.next.inj taken
  rw [stride] at there
  refine ⟨⟨fits,by omega,by omega,by omega,?_⟩,?_⟩
  · unfold dataStart
    omega
  · unfold dataStart
    omega

theorem walkTurn_done (taken : walkTurn raw position = .done (some (start,size))) :
    BlockInside raw position ∧ dataStart raw position = start ∧ field raw position 4 4 = size ∧ 8 ≤ size := by
  unfold walkTurn at taken
  split_ifs at taken with fits bad out kind short
  all_goals simp only [Turn.done.injEq,reduceCtorEq,Option.some.injEq,Prod.mk.injEq] at taken
  obtain ⟨rfl,rfl⟩ := taken
  exact ⟨⟨fits,by omega,by omega,by omega,by unfold dataStart; omega⟩,rfl,rfl,by omega⟩

theorem Behind.lt (behind : Behind raw position next) : position < next := by
  obtain ⟨block,rfl⟩ := behind
  have header := block.header_pos
  unfold dataStart
  omega

theorem walkTurn_lowers (taken : walkTurn raw position = .next next) : raw.length-next < raw.length-position := by
  have further := (walkTurn_next taken).lt
  have inside := (walkTurn_next taken).1.fields
  omega

/-- The loop and the recursion that models it agree on every result. -/
theorem run_walk (ended : run (walkTurn raw) turns position = some found) : walk raw position = found := by
  induction turns generalizing position with
  | zero => simp [run] at ended
  | succ turns ih =>
    cases taken : walkTurn raw position with
    | next next =>
      rw [run_next taken] at ended
      have same : walk raw position = walk raw next := by
        unfold walkTurn at taken
        rw [walk]
        split_ifs at taken ⊢
        rw [Turn.next.inj taken]
      exact same.trans (ih ended)
    | done result =>
      rw [run_done taken] at ended
      obtain rfl := Option.some.inj ended
      unfold walkTurn at taken
      rw [walk]
      split_ifs at taken ⊢ <;> exact Turn.done.inj taken

theorem findWithin_length : findWithin raw raw.length = some (findRobotPositionBlock raw) := by
  unfold findWithin findRobotPositionBlock
  dsimp only
  split_ifs with short bad
  · rfl
  · rfl
  · have enough : raw.length-fromBytes (slice raw 2 4) < raw.length := by omega
    obtain ⟨result,ended⟩ := run_ends (fun _ _ (taken : walkTurn raw _ = _) => walkTurn_lowers taken) enough
    rw [ended,run_walk ended]

end Turns

section Reaching
variable {raw : Bytes} {position block start size : ℕ}

theorem chain_le (chain : Relation.ReflTransGen (Behind raw) position block) : position ≤ block := by
  induction chain with
  | refl => exact le_rfl
  | tail _ behind ih => exact ih.trans behind.lt.le

theorem find_reached (found : findRobotPositionBlock raw = some (start,size)) : Reached raw start size := by
  have ended := @findWithin_length raw
  unfold findWithin at ended
  dsimp only at ended
  rw [found] at ended
  split_ifs at ended with short bad
  · simp at ended
  · simp at ended
  obtain ⟨block,reached,done⟩ := run_reaches ended
  obtain ⟨inside,at_,data,long⟩ := walkTurn_done done
  have chain : Relation.ReflTransGen (Behind raw) (firstHeader raw) block :=
    Relation.ReflTransGen.mono (fun _ _ taken => walkTurn_next taken) _ _ reached
  have front := chain_le chain
  have header := inside.header_pos
  have whole := inside.whole
  have later : block < start := by
    rw [← at_,dataStart]
    omega
  exact ⟨by omega,long,by omega,block,chain,inside,at_,data⟩

end Reaching

section Touching
variable {gzip : Gzip} {raw patched wrapped : Bytes} {start size : ℕ} {x y : ℤ}

theorem fits_of_written (written : writePosition raw start x y = .ok patched) : Fits 4 x ∧ Fits 4 y := by
  unfold writePosition toSigned at written
  by_cases across : Fits 4 x
  · by_cases along : Fits 4 y
    · exact ⟨across,along⟩
    · simp [across,along] at written
  · simp [across] at written

theorem written_inside (reached : Reached raw start size) (written : writePosition raw start x y = .ok patched) :
    WrittenInside raw patched start := by
  obtain ⟨across,along⟩ := fits_of_written written
  have room : start+8 ≤ raw.length := by
    have long := reached.long
    have inside := reached.inside
    omega
  rw [writePosition_fits across along room] at written
  obtain rfl := Except.ok.inj written
  exact ⟨room,length_overwrite (by omega) room length_code,fun _ outside => overwrite_outside (by omega) room length_code outside⟩

theorem patched_inside : PatchedInside gzip wrapped x y := by
  intro out patch
  unfold patchRobotPosition at patch
  cases carried : gzipUnwrap gzip wrapped with
  | error failure => simp [carried,bind,Except.bind] at patch
  | ok unwrapped =>
    cases unwrapped with
    | none => simp [carried,bind,Except.bind,pure,Except.pure] at patch
    | some raw =>
      cases found : findRobotPositionBlock raw with
      | none => simp [carried,found,bind,Except.bind,pure,Except.pure] at patch
      | some block =>
        obtain ⟨start,size⟩ := block
        cases written : writePosition raw start x y with
        | error failure => simp [carried,found,written,bind,Except.bind] at patch
        | ok patched =>
          refine ⟨raw,patched,start,size,rfl,found,written_inside (find_reached found) written,?_⟩
          simp only [carried,found,written,bind,Except.bind,pure,Except.pure] at patch
          split_ifs at patch ⊢ <;> exact (Option.some.inj (Except.ok.inj patch)).symm

theorem read_inside : ReadInside gzip wrapped := by
  intro point read
  cases carried : gzipUnwrap gzip wrapped with
  | error failure => simp [readRobotPosition,carried,bind,Except.bind] at read
  | ok unwrapped =>
    cases unwrapped with
    | none => simp [readRobotPosition,carried,bind,Except.bind,pure,Except.pure] at read
    | some raw =>
      rw [readRobotPosition_unwrapped carried,readUnwrapped] at read
      obtain ⟨⟨start,size⟩,found,rfl⟩ := Option.map_eq_some_iff.mp (Except.ok.inj read)
      have reached := find_reached found
      have long := reached.long
      have inside := reached.inside
      have first : (slice raw start (start+4)).length = start+4-start := length_slice (by omega)
      have second : (slice raw (start+4) (start+8)).length = start+8-(start+4) := length_slice (by omega)
      exact ⟨raw,start,size,_,_,rfl,found,by omega,rfl,rfl,by omega,by omega,rfl⟩

/-- Over any bytes the walk is over after as many turns as there are bytes, it comes to the position
block through blocks that lie inside them, and neither the patch nor the reading leaves them. -/
theorem walk_stays_inside (gzip : Gzip) (raw : Bytes) :
    findWithin raw raw.length = some (findRobotPositionBlock raw) ∧
      (∀ start size, findRobotPositionBlock raw = some (start,size) → Reached raw start size) ∧
      (∀ x y, PatchedInside gzip raw x y) ∧ ReadInside gzip raw :=
  ⟨findWithin_length,fun _ _ => find_reached,fun _ _ => patched_inside,read_inside⟩

end Touching

end MapRender
end RoborockPlus
