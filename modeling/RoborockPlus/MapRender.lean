import RoborockPlus.Binary.Bytes

/-! The robot position inside raw map bytes: a walk over the blocks of the map, and the
rewriting of the one block that carries the position. -/
namespace RoborockPlus
open Binary

namespace MapRender

def robotPositionBlockType : ℕ := 8

def maxBlockHeaderLength : ℕ := 255

def gzipMagic : Bytes := [0x1f,0x8b]

/-- What `gzip.decompress` may raise; only the first kind is caught. -/
inductive Failure
  | osError
  | other
  | overflow
deriving DecidableEq

structure Gzip where
  compress : Bytes → Bytes
  decompress : Bytes → Except Failure Bytes

def gzipUnwrap (gzip : Gzip) (raw : Bytes) : Except Failure (Option Bytes) :=
  if raw.take 2 = gzipMagic then
    match gzip.decompress raw with
    | .ok bytes => .ok (some bytes)
    | .error .osError => .ok none
    | .error failure => .error failure
  else .ok (some raw)

def field (raw : Bytes) (position offset width : ℕ) : ℕ :=
  fromBytes (slice raw (position+offset) (position+offset+width))

/-- The `while` loop of `find_robot_position_block`, from one block to the next. -/
def walk (raw : Bytes) (position : ℕ) : Option (ℕ × ℕ) :=
  if position+8 ≤ raw.length then
    if field raw position 2 2 ≤ 0 ∨ maxBlockHeaderLength < field raw position 2 2 ∨ field raw position 4 4 ≤ 0 then none
    else if raw.length < position+field raw position 2 2+field raw position 4 4 then none
    else if field raw position 0 2 = robotPositionBlockType then
      if field raw position 4 4 < 8 then none else some (position+field raw position 2 2,field raw position 4 4)
    -- the stride uses the low byte of the header length
    else walk raw (position+(field raw position 4 4+(field raw position 2 2 &&& 255)))
  else none
termination_by raw.length-position

def findRobotPositionBlock (raw : Bytes) : Option (ℕ × ℕ) :=
  if raw.length < 4 then none
  else
    let headerLength := fromBytes (slice raw 2 4)
    if headerLength ≤ 0 ∨ raw.length ≤ headerLength then none
    else walk raw headerLength

def writePosition (raw : Bytes) (start : ℕ) (x y : ℤ) : Except Failure Bytes :=
  match toSigned 4 x with
  | none => .error .overflow
  | some first =>
    let patched := overwrite raw start (start+4) first
    match toSigned 4 y with
    | none => .error .overflow
    | some second => .ok (overwrite patched (start+4) (start+4+4) second)

def patchRobotPosition (gzip : Gzip) (raw : Bytes) (x y : ℤ) : Except Failure (Option Bytes) := do
  match ← gzipUnwrap gzip raw with
  | none => pure none
  | some unwrapped =>
    match findRobotPositionBlock unwrapped with
    | none => pure none
    | some (start,_) =>
      let patched ← writePosition unwrapped start x y
      if raw.take 2 = gzipMagic then pure (some (gzip.compress patched)) else pure (some patched)

/-- Both numbers are floats in the source; every 32-bit integer is one exactly. -/
def readRobotPosition (gzip : Gzip) (raw : Bytes) : Except Failure (Option (ℚ × ℚ)) := do
  match ← gzipUnwrap gzip raw with
  | none => pure none
  | some unwrapped =>
    match findRobotPositionBlock unwrapped with
    | none => pure none
    | some (start,_) =>
      pure (some (fromSigned (slice unwrapped start (start+4)),fromSigned (slice unwrapped (start+4) (start+4+4))))

/-! The format itself: what a map file is made of, and how it is written. -/

/-- A block. Its header has the eight bytes of its three fields and possibly more. -/
structure Block where
  kind : ℕ
  padding : Bytes
  data : Bytes
  kind_lt : kind < 256^2
  header_le : 8+padding.length ≤ 255
  data_pos : 0 < data.length
  data_lt : data.length < 256^4

namespace Block
variable (b : Block)

def headerLength : ℕ := 8+b.padding.length

def header : Bytes := toBytes 2 b.kind ++ (toBytes 2 b.headerLength ++ (toBytes 4 b.data.length ++ b.padding))

def bytes : Bytes := b.header ++ b.data

/-- The first eight bytes of the data become a position; what follows them stays. -/
def withPosition (x y : ℤ) : Block where
  kind := b.kind
  padding := b.padding
  data := toBytes 4 (x % 256^4).toNat ++ (toBytes 4 (y % 256^4).toNat ++ b.data.drop 8)
  kind_lt := b.kind_lt
  header_le := b.header_le
  data_pos := by simp
  data_lt := by
    have := b.data_lt
    simp only [List.length_append,length_toBytes,List.length_drop]
    omega

@[simp] theorem length_header : b.header.length = b.headerLength := by
  simp [header,headerLength]
  omega

@[simp] theorem length_bytes : b.bytes.length = b.headerLength+b.data.length := by simp [bytes]

end Block

structure MapFile where
  magic : Bytes
  padding : Bytes
  blocks : List Block
  magic_length : magic.length = 2
  header_lt : 4+padding.length < 256^2

/-- The first block of the robot-position type, and where it starts. -/
def locate (offset : ℕ) : List Block → Option (ℕ × Block)
  | [] => none
  | b :: rest => if b.kind = robotPositionBlockType then some (offset,b) else locate (offset+b.bytes.length) rest

def relocate (x y : ℤ) : List Block → List Block
  | [] => []
  | b :: rest => if b.kind = robotPositionBlockType then b.withPosition x y :: rest else b :: relocate x y rest

/-- Its data, unless there is too little of it for a position. -/
def dataRange : ℕ × Block → Option (ℕ × ℕ)
  | (offset,b) => if b.data.length < 8 then none else some (offset+b.headerLength,b.data.length)

namespace MapFile
variable (map : MapFile)

def headerLength : ℕ := 4+map.padding.length

def header : Bytes := map.magic ++ (toBytes 2 map.headerLength ++ map.padding)

def bytes : Bytes := map.header ++ map.blocks.flatMap Block.bytes

def robotPosition : Option (ℕ × ℕ) := (locate map.headerLength map.blocks).bind dataRange

def moved (x y : ℤ) : MapFile := {map with blocks := relocate x y map.blocks}

@[simp] theorem length_header : map.header.length = map.headerLength := by
  simp [header,headerLength,map.magic_length]
  omega

end MapFile

section Reading
variable {raw before after : Bytes} {position : ℕ}

theorem field_part {offset width : ℕ} {value : Bytes} (parts : raw = before ++ (value ++ after))
    (at_ : before.length = position+offset) (size : value.length = width) : field raw position offset width = fromBytes value := by
  rw [field,← size,slice_part parts at_]

theorem block_fields (b : Block) (parts : raw = before ++ (b.bytes ++ after)) (at_ : before.length = position) :
    field raw position 0 2 = b.kind ∧ field raw position 2 2 = b.headerLength ∧ field raw position 4 4 = b.data.length := by
  have small : b.headerLength < 256^2 := by
    have := b.header_le
    unfold Block.headerLength
    omega
  have split : raw = before ++ (toBytes 2 b.kind ++ (toBytes 2 b.headerLength ++ (toBytes 4 b.data.length ++
      (b.padding ++ (b.data ++ after))))) := by simp [parts,Block.bytes,Block.header]
  have second : raw = (before ++ toBytes 2 b.kind) ++ (toBytes 2 b.headerLength ++ (toBytes 4 b.data.length ++
      (b.padding ++ (b.data ++ after)))) := by simp [split]
  have third : raw = (before ++ (toBytes 2 b.kind ++ toBytes 2 b.headerLength)) ++ (toBytes 4 b.data.length ++
      (b.padding ++ (b.data ++ after))) := by simp [split]
  have kind : field raw position 0 2 = fromBytes (toBytes 2 b.kind) := field_part split at_ (length_toBytes _ _)
  have header : field raw position 2 2 = fromBytes (toBytes 2 b.headerLength) :=
    field_part second (by simp [at_]) (length_toBytes _ _)
  have size : field raw position 4 4 = fromBytes (toBytes 4 b.data.length) :=
    field_part third (by simp [at_]) (length_toBytes _ _)
  exact ⟨kind.trans (fromBytes_toBytes b.kind_lt),header.trans (fromBytes_toBytes small),size.trans (fromBytes_toBytes b.data_lt)⟩

theorem stride (b : Block) : b.headerLength &&& 255 = b.headerLength := by
  have low : b.headerLength < 2^8 := by
    have := b.header_le
    unfold Block.headerLength
    omega
  exact Nat.and_two_pow_sub_one_of_lt_two_pow low

/-- The walk from the start of a block: it ends at the position block or goes on behind this one. -/
theorem walk_block (b : Block) (parts : raw = before ++ (b.bytes ++ after)) (at_ : before.length = position) :
    walk raw position = if b.kind = robotPositionBlockType then dataRange (position,b) else walk raw (position+b.bytes.length) := by
  obtain ⟨kind,header,size⟩ := block_fields b parts at_
  have whole : raw.length = position+(b.headerLength+b.data.length)+after.length := by
    simp [parts,at_]
    omega
  have long : 8 ≤ b.headerLength := Nat.le_add_right 8 _
  have short : b.headerLength ≤ maxBlockHeaderLength := b.header_le
  have data := b.data_pos
  rw [walk,kind,header,size,stride,if_pos (by omega),if_neg (by omega),if_neg (by omega)]
  unfold dataRange
  rw [Block.length_bytes,Nat.add_comm b.data.length]

theorem walk_blocks (blocks : List Block) (parts : raw = before ++ blocks.flatMap Block.bytes) (at_ : before.length = position) :
    walk raw position = (locate position blocks).bind dataRange := by
  induction blocks generalizing before position with
  | nil =>
    have ended : raw.length = position := by simp [parts,at_]
    rw [walk,if_neg (by omega)]
    rfl
  | cons b rest ih =>
    have split : raw = before ++ (b.bytes ++ rest.flatMap Block.bytes) := by simpa using parts
    rw [walk_block b split at_,locate]
    split_ifs with found
    · rfl
    · have further : raw = (before ++ b.bytes) ++ rest.flatMap Block.bytes := by simpa using split
      exact ih further (by simp [at_])

theorem find_position (map : MapFile) : findRobotPositionBlock map.bytes = map.robotPosition := by
  have split : map.bytes = map.magic ++ (toBytes 2 map.headerLength ++ (map.padding ++ map.blocks.flatMap Block.bytes)) := by
    simp [MapFile.bytes,MapFile.header]
  have length : fromBytes (slice map.bytes 2 4) = map.headerLength := by
    have read := slice_part split map.magic_length
    rw [length_toBytes] at read
    exact (congrArg fromBytes read).trans (fromBytes_toBytes map.header_lt)
  have whole : map.bytes.length = map.headerLength+(map.blocks.flatMap Block.bytes).length := by
    rw [MapFile.bytes,List.length_append,MapFile.length_header]
  have long : 4 ≤ map.headerLength := Nat.le_add_right 4 _
  unfold findRobotPositionBlock
  rw [if_neg (by omega),length]
  dsimp only
  by_cases empty : map.blocks = []
  · have none : (map.blocks.flatMap Block.bytes).length = 0 := by simp [empty]
    rw [if_pos (by omega),MapFile.robotPosition,empty]
    rfl
  · have some : 0 < (map.blocks.flatMap Block.bytes).length := by
      obtain ⟨b,rest,same⟩ := List.exists_cons_of_ne_nil empty
      have data := b.data_pos
      simp [same]
      omega
    rw [if_neg (by omega)]
    exact walk_blocks map.blocks rfl map.length_header

end Reading

section Patching
variable {offset : ℕ} {b : Block} {blocks : List Block} {x y : ℤ}

theorem locate_parts (found : locate offset blocks = some (position,b)) :
    ∃ before after : Bytes, blocks.flatMap Block.bytes = before ++ (b.bytes ++ after) ∧ offset+before.length = position ∧
      (relocate x y blocks).flatMap Block.bytes = before ++ ((b.withPosition x y).bytes ++ after) := by
  induction blocks generalizing offset with
  | nil => simp [locate] at found
  | cons head rest ih =>
    rw [locate] at found
    split_ifs at found with here
    · obtain ⟨rfl,rfl⟩ := Prod.mk.inj (Option.some.inj found)
      exact ⟨[],rest.flatMap Block.bytes,by simp,rfl,by simp [relocate,here]⟩
    · obtain ⟨before,after,parts,at_,moved⟩ := ih found
      exact ⟨head.bytes ++ before,after,by simp [parts],by simp only [List.length_append]; omega,by simp [relocate,here,moved]⟩

theorem locate_relocate (found : locate offset blocks = some (position,b)) :
    locate offset (relocate x y blocks) = some (position,b.withPosition x y) := by
  induction blocks generalizing offset with
  | nil => simp [locate] at found
  | cons head rest ih =>
    rw [locate] at found
    split_ifs at found with here
    · obtain ⟨rfl,rfl⟩ := Prod.mk.inj (Option.some.inj found)
      have kind : (head.withPosition x y).kind = robotPositionBlockType := here
      simp [relocate,here,locate,kind]
    · simpa [relocate,here,locate] using ih found

/-- The position block of a map with enough data, cut at the four places that matter. -/
theorem position_parts {map : MapFile} {start size : ℕ} (found : map.robotPosition = some (start,size)) (x y : ℤ) :
    (∃ before first second after : Bytes, before.length = start ∧ first.length = 4 ∧ second.length = 4 ∧
      map.bytes = before ++ (first ++ (second ++ after)) ∧
      (map.moved x y).bytes = before ++ (toBytes 4 (x % 256^4).toNat ++ (toBytes 4 (y % 256^4).toNat ++ after))) ∧
      (map.moved x y).robotPosition = some (start,size) := by
  obtain ⟨⟨position,b⟩,located,range⟩ := Option.bind_eq_some_iff.mp found
  simp only [dataRange] at range
  split_ifs at range with short
  obtain ⟨rfl,rfl⟩ := Prod.mk.inj (Option.some.inj range)
  obtain ⟨before,after,parts,at_,moved⟩ := locate_parts (x := x) (y := y) located
  have kept : (b.withPosition x y).data.length = b.data.length := by
    simp only [Block.withPosition,List.length_append,length_toBytes,List.length_drop]
    omega
  have header : (b.withPosition x y).header = b.header := by
    rw [Block.header,kept]
    rfl
  have data : b.data = b.data.take 4 ++ ((b.data.drop 4).take 4 ++ b.data.drop 8) := by
    have second := List.take_append_drop 4 (b.data.drop 4)
    rw [List.drop_drop] at second
    exact (List.take_append_drop 4 b.data).symm.trans (congrArg _ second.symm)
  refine ⟨⟨map.header ++ (before ++ b.header),b.data.take 4,(b.data.drop 4).take 4,b.data.drop 8 ++ after,?_,?_,?_,?_,?_⟩,?_⟩
  · simp only [List.length_append,MapFile.length_header,Block.length_header]
    omega
  · rw [List.length_take]
    omega
  · rw [List.length_take,List.length_drop]
    omega
  · rw [MapFile.bytes,parts,Block.bytes]
    nth_rewrite 1 [data]
    simp
  · change map.header ++ (relocate x y map.blocks).flatMap Block.bytes = _
    rw [moved,Block.bytes,header]
    simp [Block.withPosition]
  · change (locate map.headerLength (relocate x y map.blocks)).bind dataRange = _
    rw [locate_relocate located,Option.bind_some,dataRange,kept,if_neg short]
    rfl

theorem position_written {map : MapFile} {start size : ℕ} (found : map.robotPosition = some (start,size))
    (across : Fits 4 x) (along : Fits 4 y) :
    writePosition map.bytes start x y = .ok (map.moved x y).bytes ∧
      fromSigned (slice (map.moved x y).bytes start (start+4)) = x ∧
      fromSigned (slice (map.moved x y).bytes (start+4) (start+4+4)) = y := by
  obtain ⟨⟨before,first,second,after,at_,four,eight,parts,moved⟩,_⟩ := position_parts found x y
  obtain ⟨xs,wx,lx,vx⟩ := toSigned_fits across
  obtain ⟨ys,wy,ly,vy⟩ := toSigned_fits along
  have sx : xs = toBytes 4 (x % 256^4).toNat := by
    rw [toSigned,if_pos across] at wx
    exact (Option.some.inj wx).symm
  have sy : ys = toBytes 4 (y % 256^4).toNat := by
    rw [toSigned,if_pos along] at wy
    exact (Option.some.inj wy).symm
  rw [← sx,← sy] at moved
  have once : overwrite map.bytes start (start+4) xs = (before ++ xs) ++ (second ++ after) := by
    rw [← four,overwrite_part parts at_]
    simp
  have twice : overwrite (overwrite map.bytes start (start+4) xs) (start+4) (start+4+4) ys = (map.moved x y).bytes := by
    rw [once,moved]
    have there : (before ++ xs).length = start+4 := by simp [at_,lx]
    have written : overwrite _ (start+4) (start+4+second.length) ys = _ :=
      overwrite_part (rfl : (before ++ xs) ++ (second ++ after) = _) there
    rw [eight] at written
    simpa using written
  refine ⟨?_,?_,?_⟩
  · simp only [writePosition,wx,wy,twice]
  · have read := slice_part moved at_
    rw [lx] at read
    rw [read,vx]
  · have again : (map.moved x y).bytes = (before ++ xs) ++ (ys ++ after) := by simp [moved]
    have read := slice_part again (by simp [at_,lx] : (before ++ xs).length = start+4)
    rw [ly] at read
    rw [read,vy]

end Patching

def Carries (gzip : Gzip) (map : MapFile) (raw : Bytes) : Prop :=
  raw = map.bytes ∨ raw.take 2 = gzipMagic ∧ gzip.decompress raw = .ok map.bytes

/-- Patching a map that has a position gives the same map with another one, which reads as written. -/
def RoundTrip (gzip : Gzip) (map : MapFile) (raw : Bytes) (x y : ℤ) : Prop :=
  (map.robotPosition = none → patchRobotPosition gzip raw x y = .ok none ∧ readRobotPosition gzip raw = .ok none) ∧
    (map.robotPosition.isSome → ∃ patched, patchRobotPosition gzip raw x y = .ok (some patched) ∧
      patched = (if raw.take 2 = gzipMagic then gzip.compress (map.moved x y).bytes else (map.moved x y).bytes) ∧
      readRobotPosition gzip patched = .ok (some (x,y)))

section RoundTrips
variable {gzip : Gzip} {map : MapFile} {raw : Bytes} {x y : ℤ}

theorem unmarked (plain : map.magic ≠ gzipMagic) : map.bytes.take 2 ≠ gzipMagic := by
  have start : map.bytes.take 2 = map.magic := by
    rw [MapFile.bytes,MapFile.header,List.append_assoc,List.take_append_of_le_length map.magic_length.ge]
    exact List.take_of_length_le map.magic_length.le
  rwa [start]

theorem unwraps (plain : map.magic ≠ gzipMagic) (carries : Carries gzip map raw) : gzipUnwrap gzip raw = .ok (some map.bytes) := by
  rcases carries with rfl | ⟨marked,unpacked⟩
  · exact if_neg (unmarked plain)
  · rw [gzipUnwrap,if_pos marked,unpacked]

theorem read_moved {wrapped : Bytes} {start size : ℕ} (found : map.robotPosition = some (start,size)) (across : Fits 4 x) (along : Fits 4 y)
    (carried : gzipUnwrap gzip wrapped = .ok (some (map.moved x y).bytes)) : readRobotPosition gzip wrapped = .ok (some (x,y)) := by
  obtain ⟨_,first,second⟩ := position_written found across along
  have there := (find_position (map.moved x y)).trans (position_parts found x y).2
  unfold readRobotPosition
  simp only [carried,there,bind,Except.bind,pure,Except.pure,first,second]

theorem round_trip (plain : map.magic ≠ gzipMagic) (inverse : ∀ bytes, gzip.decompress (gzip.compress bytes) = .ok bytes)
    (marked : ∀ bytes, (gzip.compress bytes).take 2 = gzipMagic) (across : Fits 4 x) (along : Fits 4 y)
    (carries : Carries gzip map raw) : RoundTrip gzip map raw x y := by
  have unwrapped := unwraps plain carries
  have found := find_position map
  refine ⟨fun absent => ?_,fun present => ?_⟩
  · rw [absent] at found
    unfold patchRobotPosition readRobotPosition
    simp only [unwrapped,found,bind,Except.bind,pure,Except.pure,and_self]
  obtain ⟨⟨start,size⟩,here⟩ := Option.isSome_iff_exists.mp present
  rw [here] at found
  refine ⟨_,?_,rfl,read_moved here across along ?_⟩
  · unfold patchRobotPosition
    simp only [unwrapped,found,(position_written here across along).1,bind,Except.bind,pure,Except.pure]
    split <;> rfl
  · split_ifs
    · rw [gzipUnwrap,if_pos (marked _),inverse]
    · exact if_neg (@unmarked (map.moved x y) plain)

/-- The first robot-position block is found where it is, and its position can be rewritten
and read back, through the gzip wrapper too. -/
theorem position_round_trip (plain : map.magic ≠ gzipMagic)
    (inverse : ∀ bytes, gzip.decompress (gzip.compress bytes) = .ok bytes)
    (marked : ∀ bytes, (gzip.compress bytes).take 2 = gzipMagic) :
    findRobotPositionBlock map.bytes = map.robotPosition ∧
      ∀ x y : ℤ, -2^31 ≤ x ∧ x < 2^31 → -2^31 ≤ y ∧ y < 2^31 → ∀ raw, Carries gzip map raw → RoundTrip gzip map raw x y := by
  refine ⟨find_position map,fun x y across along raw carries => ?_⟩
  have fits (z : ℤ) (bounds : -2^31 ≤ z ∧ z < 2^31) : Fits 4 z := by
    obtain ⟨low,high⟩ := bounds
    constructor <;> norm_num at * <;> omega
  exact round_trip plain inverse marked (fits x across) (fits y along) carries

end RoundTrips

/-- A wrapper that only puts the magic bytes in front. -/
def storedGzip : Gzip := ⟨fun bytes => gzipMagic ++ bytes,fun raw => .ok (raw.drop 2)⟩

/-- A charger block before the position block, and one that is too short after it. -/
def smallMap : MapFile where
  magic := [0x72,0x72]
  padding := [20,0]
  blocks := [⟨1,[],[5],by decide,by decide,by decide,by decide⟩,
    ⟨8,[0,0],[1,0,0,0,2,0,0,0,7],by decide,by decide,by decide,by decide⟩,
    ⟨8,[],[3],by decide,by decide,by decide,by decide⟩]
  magic_length := rfl
  header_lt := by decide

theorem smallMap_round_trip : smallMap.robotPosition = some (25,9) ∧
    RoundTrip storedGzip smallMap (storedGzip.compress smallMap.bytes) 25696 (-28439) :=
  ⟨by decide,(position_round_trip (by decide) (fun _ => rfl) (fun _ => rfl)).2 _ _ (by decide) (by decide) _ (Or.inr ⟨rfl,rfl⟩)⟩

end MapRender

end RoborockPlus
