import RoborockPlus.MapRender

/-! Patching bytes that need not be a map. The write goes where the header of the position
block says its data are, and a header that claims fewer than eight bytes puts them into itself. -/
namespace RoborockPlus
open Binary

namespace MapRender

def firstHeader (raw : Bytes) : ℕ := fromBytes (slice raw 2 4)

/-- The headers that a walk reads, on past the position block to the end of the map. -/
def headers (raw : Bytes) (position : ℕ) : List ℕ :=
  if position+8 ≤ raw.length then
    if field raw position 2 2 ≤ 0 ∨ maxBlockHeaderLength < field raw position 2 2 ∨ field raw position 4 4 ≤ 0 then [position]
    else position :: headers raw (position+(field raw position 4 4+(field raw position 2 2 &&& 255)))
  else []
termination_by raw.length-position

def blockHeaders (raw : Bytes) : List ℕ := headers raw (firstHeader raw)

def positionHeader (raw : Bytes) : Option ℕ := (blockHeaders raw).find? (fun block => field raw block 0 2 = robotPositionBlockType)

def dataStart (raw : Bytes) (block : ℕ) : ℕ := block+field raw block 2 2

/-- What the write puts down, at the start of the data of the position block. -/
def positionCode (x y : ℤ) : Bytes := toBytes 4 (x % 256^4).toNat ++ toBytes 4 (y % 256^4).toNat

/-- Eight bytes of the data of one block, and nothing else, have become the position. -/
structure Intact (raw patched : Bytes) (x y : ℤ) : Prop where
  length : patched.length = raw.length
  inside : ∃ block ∈ blockHeaders raw, ∃ place, dataStart raw block ≤ place ∧
    place+8 ≤ dataStart raw block+field raw block 4 4 ∧ ∀ i, i < place ∨ place+8 ≤ i → patched[i]? = raw[i]?
  found : findRobotPositionBlock patched = findRobotPositionBlock raw
  headers : ∀ block ∈ blockHeaders raw, slice patched block (block+8) = slice raw block (block+8)
  written : ∀ start size, findRobotPositionBlock patched = some (start,size) →
    fromSigned (slice patched start (start+4)) = x ∧ fromSigned (slice patched (start+4) (start+4+4)) = y

structure Patched (gzip : Gzip) (raw patched : Bytes) (x y : ℤ) : Prop extends Intact raw patched x y where
  reads : readRobotPosition gzip patched = .ok (some (x,y))

/-- The tail of the header that the data of the position block run into, if there is one, already
holds the bytes that the write puts there. -/
def HeaderKept (raw : Bytes) (x y : ℤ) : Prop :=
  (findRobotPositionBlock raw).isSome → ∀ block ∈ positionHeader raw,
    slice raw (dataStart raw block) (block+8) = (positionCode x y).take (block+8-dataStart raw block)

section Walking
variable {raw patched : Bytes} {position start size block : ℕ}

theorem le_of_mem_headers (read : block ∈ headers raw position) : position ≤ block := by
  fun_induction headers raw position with
  | case1 position fits bad => simp_all
  | case2 position fits good ih =>
    rcases List.mem_cons.mp read with rfl | further
    · rfl
    · have behind := ih further
      omega
  | case3 => simp at read

/-- Where the walk ends when it finds the position block, and which headers stand around its data. -/
structure Found (raw : Bytes) (read : List ℕ) (start size block : ℕ) : Prop where
  first : read.find? (fun block => field raw block 0 2 = robotPositionBlockType) = some block
  data : dataStart raw block = start
  length : field raw block 4 4 = size
  header : block < start
  long : 8 ≤ size
  inside : start+size ≤ raw.length
  around : ∀ other ∈ read, other ≤ block ∨ start+size ≤ other

theorem Found.mem {read : List ℕ} (found : Found raw read start size block) : block ∈ read := List.mem_of_find?_eq_some found.first

theorem walk_position {head size : ℕ} (room : position+8 ≤ raw.length) (length : field raw position 2 2 = head)
    (data : field raw position 4 4 = size) (kind : field raw position 0 2 = robotPositionBlockType) (given : 0 < head)
    (short : head ≤ maxBlockHeaderLength) (long : 8 ≤ size) (inside : position+head+size ≤ raw.length) :
    walk raw position = some (position+head,size) := by
  rw [walk,if_pos room,length,data,if_neg (by omega),if_neg (by omega),if_pos kind,if_neg (by omega)]

theorem find_first {header : ℕ} {found : ℕ × ℕ} (long : 4 ≤ raw.length) (length : fromBytes (slice raw 2 4) = header)
    (inside : 0 < header ∧ header < raw.length) (walked : walk raw header = some found) : findRobotPositionBlock raw = some found := by
  rw [findRobotPositionBlock,if_neg (by omega)]
  dsimp only
  rw [length,if_neg (by omega),walked]

theorem walk_found : walk raw position = some (start,size) → ∃ block, Found raw (headers raw position) start size block := by
  fun_induction walk raw position with
  | case1 | case2 | case3 | case6 => simp
  | case4 position fits good inside kind long =>
    intro found
    obtain ⟨rfl,rfl⟩ := Prod.mk.inj (Option.some.inj found)
    have short : field raw position 2 2 &&& 255 = field raw position 2 2 := by
      have low : field raw position 2 2 < 2^8 := by
        unfold maxBlockHeaderLength at good
        omega
      exact Nat.and_two_pow_sub_one_of_lt_two_pow low
    refine ⟨position,?_,rfl,rfl,by omega,by omega,by omega,fun other read => ?_⟩
    · rw [headers,if_pos fits,if_neg good,List.find?_cons_of_pos (by simpa using kind)]
    · rw [headers,if_pos fits,if_neg good] at read
      rcases List.mem_cons.mp read with rfl | further
      · exact Or.inl le_rfl
      · have behind := le_of_mem_headers further
        rw [short] at behind
        omega
  | case5 position fits good inside kind ih =>
    intro found
    obtain ⟨block,first,data,length,header,long,inside,around⟩ := ih found
    have listed : headers raw position = position :: headers raw (position+(field raw position 4 4+(field raw position 2 2 &&& 255))) := by
      rw [headers,if_pos fits,if_neg good]
    refine ⟨block,?_,data,length,header,long,inside,fun other read => ?_⟩
    · rw [listed,List.find?_cons_of_neg (by simpa using kind),first]
    · rw [listed] at read
      rcases List.mem_cons.mp read with rfl | further
      · have behind := le_of_mem_headers (List.mem_of_find?_eq_some first)
        omega
      · exact around other further

theorem field_header {offset width : ℕ} (inside : offset+width ≤ 8) :
    field raw block offset width = fromBytes (slice (slice raw block (block+8)) offset (offset+width)) := by
  rw [field,slice_slice (by omega),Nat.add_assoc]

theorem mem_headers (fits : position+8 ≤ raw.length) : position ∈ headers raw position := by
  rw [headers,if_pos fits]
  split_ifs <;> exact List.mem_cons_self

theorem fields_same (fits : position+8 ≤ raw.length)
    (same : ∀ block ∈ headers raw position, slice patched block (block+8) = slice raw block (block+8)) :
    field patched position 0 2 = field raw position 0 2 ∧ field patched position 2 2 = field raw position 2 2 ∧
      field patched position 4 4 = field raw position 4 4 := by
  have header := same position (mem_headers fits)
  have each {offset width : ℕ} (inside : offset+width ≤ 8) : field patched position offset width = field raw position offset width := by
    rw [field_header inside,field_header inside,header]
  exact ⟨each (by omega),each (by omega),each (by omega)⟩

/-- A walk depends on nothing but the length and the headers it reads. -/
theorem walk_congr (length : patched.length = raw.length)
    (same : ∀ block ∈ headers raw position, slice patched block (block+8) = slice raw block (block+8)) :
    walk patched position = walk raw position := by
  fun_induction walk raw position with
  | case1 position fits bad =>
    obtain ⟨_,header,size⟩ := fields_same fits same
    rw [walk,length,header,size,if_pos fits,if_pos bad]
  | case2 position fits good outside =>
    obtain ⟨_,header,size⟩ := fields_same fits same
    rw [walk,length,header,size,if_pos fits,if_neg good,if_pos outside]
  | case3 position fits good inside here short =>
    obtain ⟨kind,header,size⟩ := fields_same fits same
    rw [walk,length,kind,header,size,if_pos fits,if_neg good,if_neg inside,if_pos here,if_pos short]
  | case4 position fits good inside here long =>
    obtain ⟨kind,header,size⟩ := fields_same fits same
    rw [walk,length,kind,header,size,if_pos fits,if_neg good,if_neg inside,if_pos here,if_neg long]
  | case5 position fits good inside other ih =>
    obtain ⟨kind,header,size⟩ := fields_same fits same
    have listed : headers raw position = position :: headers raw (position+(field raw position 4 4+(field raw position 2 2 &&& 255))) := by
      rw [headers,if_pos fits,if_neg good]
    have further := ih (fun block read => same block (listed ▸ List.mem_cons_of_mem position read))
    rw [walk,length,kind,header,size,if_pos fits,if_neg good,if_neg inside,if_neg other,further]
  | case6 position ended => rw [walk,length,if_neg ended]

theorem find_found (found : findRobotPositionBlock raw = some (start,size)) :
    ∃ block, Found raw (blockHeaders raw) start size block ∧ 0 < firstHeader raw ∧ firstHeader raw ≤ block := by
  unfold findRobotPositionBlock at found
  split_ifs at found with short
  dsimp only at found
  split_ifs at found with bad
  obtain ⟨block,here⟩ := walk_found found
  have behind := le_of_mem_headers here.mem
  have start : firstHeader raw = fromBytes (slice raw 2 4) := rfl
  exact ⟨block,here,by omega,behind⟩

theorem find_congr (length : patched.length = raw.length) (first : slice patched 2 4 = slice raw 2 4)
    (same : ∀ block ∈ blockHeaders raw, slice patched block (block+8) = slice raw block (block+8)) :
    findRobotPositionBlock patched = findRobotPositionBlock raw := by
  have walked : walk patched (fromBytes (slice raw 2 4)) = walk raw (fromBytes (slice raw 2 4)) := walk_congr length same
  unfold findRobotPositionBlock
  rw [length,first]
  dsimp only
  rw [walked]

end Walking

section Writing
variable {gzip : Gzip} {raw patched : Bytes} {start size block : ℕ} {x y : ℤ}

@[simp] theorem length_positionCode : (positionCode x y).length = 8 := by simp [positionCode]

theorem length_code : (positionCode x y).length = start+8-start := by
  rw [length_positionCode]
  omega

theorem writePosition_fits (across : Fits 4 x) (along : Fits 4 y) (inside : start+8 ≤ raw.length) :
    writePosition raw start x y = .ok (overwrite raw start (start+8) (positionCode x y)) := by
  unfold writePosition
  rw [toSigned,if_pos across,toSigned,if_pos along]
  dsimp only
  rw [overwrite_overwrite (by omega) (by omega) (by omega) (by rw [length_toBytes]; omega)]
  rfl

theorem patch_unwrapped {wrapped : Bytes} (carried : gzipUnwrap gzip wrapped = .ok (some raw)) (across : Fits 4 x) (along : Fits 4 y) :
    patchRobotPosition gzip wrapped x y = .ok ((findRobotPositionBlock raw).map fun found =>
      if wrapped.take 2 = gzipMagic then gzip.compress (overwrite raw found.1 (found.1+8) (positionCode x y))
      else overwrite raw found.1 (found.1+8) (positionCode x y)) := by
  unfold patchRobotPosition
  simp only [carried,bind,Except.bind]
  cases found : findRobotPositionBlock raw with
  | none => rfl
  | some block =>
    obtain ⟨start,size⟩ := block
    obtain ⟨block,here,_⟩ := find_found found
    have room := here.inside
    have long := here.long
    simp only [writePosition_fits across along (show start+8 ≤ raw.length by omega),Option.map_some]
    split_ifs <;> rfl

theorem patch_plain (plain : raw.take 2 ≠ gzipMagic) (across : Fits 4 x) (along : Fits 4 y) :
    patchRobotPosition gzip raw x y = .ok ((findRobotPositionBlock raw).map
      (fun found => overwrite raw found.1 (found.1+8) (positionCode x y))) := by
  rw [patch_unwrapped (if_neg plain) across along]
  simp only [if_neg plain]

theorem read_code (across : Fits 4 x) (along : Fits 4 y) (inside : start+8 ≤ raw.length) :
    fromSigned (slice (overwrite raw start (start+8) (positionCode x y)) start (start+4)) = x ∧
      fromSigned (slice (overwrite raw start (start+8) (positionCode x y)) (start+4) (start+4+4)) = y := by
  have whole : slice (overwrite raw start (start+8) (positionCode x y)) start (start+8) = positionCode x y := by
    rw [slice_overwrite (by omega) inside length_code le_rfl,Nat.add_sub_cancel_left,List.take_of_length_le]
    exact length_positionCode.le
  have part (inner outer : ℕ) (low : outer ≤ 8) : slice (overwrite raw start (start+8) (positionCode x y)) (start+inner) (start+outer) =
      slice (positionCode x y) inner outer := by
    rw [← whole,slice_slice (by omega),whole]
  obtain ⟨xs,wx,lx,vx⟩ := toSigned_fits across
  obtain ⟨ys,wy,ly,vy⟩ := toSigned_fits along
  rw [toSigned,if_pos across] at wx
  rw [toSigned,if_pos along] at wy
  have parts : positionCode x y = xs ++ ys := congrArg₂ _ (Option.some.inj wx) (Option.some.inj wy)
  have first : slice (overwrite raw start (start+8) (positionCode x y)) start (start+4) = slice (positionCode x y) 0 4 := part 0 4 (by omega)
  have second : slice (overwrite raw start (start+8) (positionCode x y)) (start+4) (start+4+4) = slice (positionCode x y) 4 8 :=
    part 4 8 le_rfl
  rw [parts] at first second ⊢
  constructor
  · rw [first,slice,List.drop_zero,List.take_append_of_le_length lx.ge,List.take_of_length_le lx.le,vx]
  · rw [second,slice,List.drop_left' lx,List.take_of_length_le ly.le,vy]

/-- Every byte outside the eight that are written stays, and so does the header when its tail does. -/
theorem kept_before (found : Found raw (blockHeaders raw) start size block)
    (tail : slice raw start (block+8) = (positionCode x y).take (block+8-start)) {i : ℕ} (before : i < block+8) :
    (overwrite raw start (start+8) (positionCode x y))[i]? = raw[i]? := by
  have room := found.inside
  have long := found.long
  have code : (positionCode x y).length = start+8-start := length_code
  rcases Nat.lt_or_ge i start with front | there
  · exact overwrite_outside (by omega) (by omega) code (Or.inl front)
  · have header := found.header
    have same : slice (overwrite raw start (start+8) (positionCode x y)) start (block+8) = slice raw start (block+8) :=
      (slice_overwrite (by omega) (by omega) code (by omega)).trans tail.symm
    have cell := congrArg (fun bytes => bytes[i-start]?) same
    simp only [slice,List.getElem?_take,List.getElem?_drop,Nat.add_sub_cancel' there] at cell
    rwa [if_pos (by omega),if_pos (by omega)] at cell

theorem intact_of_kept (across : Fits 4 x) (along : Fits 4 y) (located : findRobotPositionBlock raw = some (start,size))
    (kept : HeaderKept raw x y) : Intact raw (overwrite raw start (start+8) (positionCode x y)) x y := by
  obtain ⟨block,found,positive,behind⟩ := find_found located
  have tail := kept (Option.isSome_of_eq_some located) block found.first
  rw [found.data] at tail
  have room := found.inside
  have long := found.long
  have code : (positionCode x y).length = start+8-start := length_code
  have header := found.header
  have outside {i : ℕ} (out : i < start ∨ start+8 ≤ i) : (overwrite raw start (start+8) (positionCode x y))[i]? = raw[i]? :=
    overwrite_outside (by omega) (by omega) code out
  have before {i : ℕ} (front : i < block+8) := kept_before found tail front
  have headers : ∀ other ∈ blockHeaders raw,
      slice (overwrite raw start (start+8) (positionCode x y)) other (other+8) = slice raw other (other+8) := by
    intro other read
    apply slice_congr
    intro i low high
    rcases found.around other read with front | rear
    · exact before (by omega)
    · exact outside (Or.inr (by omega))
  have length := length_overwrite (by omega : start ≤ start+8) (by omega : start+8 ≤ raw.length) code
  have first : slice (overwrite raw start (start+8) (positionCode x y)) 2 4 = slice raw 2 4 :=
    slice_congr (fun i low high => before (by omega))
  have same := find_congr length first headers
  refine ⟨length,⟨block,found.mem,start,found.data.le,?_,fun i out => outside out⟩,same,headers,fun at_ width here => ?_⟩
  · rw [found.data,found.length]
    omega
  · obtain ⟨rfl,_⟩ := Prod.mk.inj (Option.some.inj (located.symm.trans (same.symm.trans here)))
    exact read_code across along (by omega)

theorem kept_of_intact (located : findRobotPositionBlock raw = some (start,size))
    (intact : Intact raw (overwrite raw start (start+8) (positionCode x y)) x y) : HeaderKept raw x y := by
  intro _ block first
  obtain ⟨other,found,_⟩ := find_found located
  obtain rfl : block = other := Option.some.inj (first.symm.trans found.first)
  have room := found.inside
  have long := found.long
  have header := found.header
  have same := congrArg (fun bytes => slice bytes (start-block) 8) (intact.headers block found.mem)
  rw [slice_slice le_rfl,slice_slice le_rfl,Nat.add_sub_cancel' header.le] at same
  rw [found.data,← same]
  exact slice_overwrite (by omega) (by omega) length_code (by omega)

theorem take_two_overwrite (located : findRobotPositionBlock raw = some (start,size)) :
    (overwrite raw start (start+8) (positionCode x y)).take 2 = raw.take 2 := by
  obtain ⟨block,found,positive,behind⟩ := find_found located
  have room := found.inside
  have long := found.long
  have header := found.header
  have magic : slice (overwrite raw start (start+8) (positionCode x y)) 0 2 = slice raw 0 2 :=
    slice_congr (fun i low high => overwrite_outside (by omega) (by omega) length_code (Or.inl (by omega)))
  simpa only [slice,List.drop_zero] using magic

/-- Reading bytes that are not wrapped. -/
def readUnwrapped (raw : Bytes) : Option (ℚ × ℚ) :=
  (findRobotPositionBlock raw).map fun found =>
    (fromSigned (slice raw found.1 (found.1+4)),fromSigned (slice raw (found.1+4) (found.1+4+4)))

theorem readRobotPosition_unwrapped {wrapped : Bytes} (carried : gzipUnwrap gzip wrapped = .ok (some raw)) :
    readRobotPosition gzip wrapped = .ok (readUnwrapped raw) := by
  unfold readRobotPosition readUnwrapped
  simp only [carried,bind,Except.bind]
  cases findRobotPositionBlock raw with
  | none => rfl
  | some found => rfl

theorem Intact.readUnwrapped (intact : Intact raw patched x y) (located : findRobotPositionBlock raw = some (start,size)) :
    readUnwrapped patched = some ((x : ℚ),(y : ℚ)) := by
  have found := intact.found.trans located
  obtain ⟨first,second⟩ := intact.written start size found
  rw [MapRender.readUnwrapped,found]
  simp only [Option.map_some,first,second]

end Writing

section Malformed
variable {gzip : Gzip} {raw : Bytes} {x y : ℤ}

/-- Any bytes at all are patched as intended exactly when the write leaves the header of the
position block as it is. -/
theorem patched_iff_header_kept (plain : raw.take 2 ≠ gzipMagic) (across : -2^31 ≤ x ∧ x < 2^31) (along : -2^31 ≤ y ∧ y < 2^31) :
    (∀ patched, patchRobotPosition gzip raw x y = .ok (some patched) → Patched gzip raw patched x y) ↔ HeaderKept raw x y := by
  have fits {z : ℤ} (bounds : -2^31 ≤ z ∧ z < 2^31) : Fits 4 z := by
    obtain ⟨low,high⟩ := bounds
    constructor <;> norm_num at * <;> omega
  rw [patch_plain plain (fits across) (fits along)]
  cases located : findRobotPositionBlock raw with
  | none => simp [HeaderKept,located]
  | some here =>
    obtain ⟨start,size⟩ := here
    constructor
    · exact fun all => kept_of_intact located (all _ rfl).toIntact
    · rintro kept patched same
      obtain rfl := Option.some.inj (Except.ok.inj same)
      have intact := intact_of_kept (fits across) (fits along) located kept
      have carried : gzipUnwrap gzip (overwrite raw start (start+8) (positionCode x y)) =
          .ok (some (overwrite raw start (start+8) (positionCode x y))) := by
        rw [gzipUnwrap,if_neg]
        rwa [take_two_overwrite located]
      refine ⟨intact,?_⟩
      rw [readRobotPosition_unwrapped carried,intact.readUnwrapped located]

/-- A position block whose header claims four bytes: its data begin with their own length. -/
def shortHeader : Bytes := [0x72,0x72,4,0,8,0,4,0,9,0,0,0,0,0,0,0,0]

theorem shortHeader_found : findRobotPositionBlock shortHeader = some (8,9) :=
  find_first (by decide) rfl (by decide) (walk_position (by decide) rfl rfl rfl (by decide) (by decide) (by decide) (by decide))

theorem shortHeader_headerKept : HeaderKept shortHeader 9 0 := by
  intro _ block first
  have read : positionHeader shortHeader = some 4 := by
    rw [positionHeader,blockHeaders,headers]
    rfl
  obtain rfl := Option.some.inj (first.symm.trans read)
  rfl

theorem shortHeader_kept : ∃ patched, patchRobotPosition storedGzip shortHeader 9 0 = .ok (some patched) ∧
    Patched storedGzip shortHeader patched 9 0 := by
  have kept : ∀ patched, patchRobotPosition storedGzip shortHeader 9 0 = .ok (some patched) → Patched storedGzip shortHeader patched 9 0 :=
    (patched_iff_header_kept (by decide) (by decide) (by decide)).mpr shortHeader_headerKept
  have patch : patchRobotPosition storedGzip shortHeader 9 0 = .ok (some shortHeader) := by
    rw [patch_plain (by decide) (by decide) (by decide),shortHeader_found]
    rfl
  exact ⟨shortHeader,patch,kept shortHeader patch⟩

/-- The write lands in the length that stands beside it, and reads back as it should. -/
theorem shortHeader_overwritten : shortHeader.take 2 ≠ gzipMagic ∧ ∃ patched,
    patchRobotPosition storedGzip shortHeader 8 0 = .ok (some patched) ∧ readRobotPosition storedGzip patched = .ok (some (8,0)) ∧
      findRobotPositionBlock patched = some (8,8) ∧ ¬ Patched storedGzip shortHeader patched 8 0 := by
  have plain : shortHeader.take 2 ≠ gzipMagic := by decide
  have patch : patchRobotPosition storedGzip shortHeader 8 0 =
      .ok (some [0x72,0x72,4,0,8,0,4,0,8,0,0,0,0,0,0,0,0]) := by
    rw [patch_plain plain (by decide) (by decide),shortHeader_found]
    rfl
  have found : findRobotPositionBlock [0x72,0x72,4,0,8,0,4,0,8,0,0,0,0,0,0,0,0] = some (8,8) :=
    find_first (by decide) rfl (by decide) (walk_position (by decide) rfl rfl rfl (by decide) (by decide) (by decide) (by decide))
  refine ⟨plain,_,patch,?_,found,fun patched => ?_⟩
  · unfold readRobotPosition gzipUnwrap
    rw [if_neg (by decide)]
    simp only [bind,Except.bind,found]
    rfl
  · have same := patched.found
    rw [found,shortHeader_found] at same
    simp at same

end Malformed

end MapRender
end RoborockPlus
