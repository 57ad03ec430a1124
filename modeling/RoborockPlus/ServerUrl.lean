import RoborockPlus.Python
import Mathlib.Data.List.TakeWhile
import Mathlib.Tactic

/-! Whether a base URL points at Roborock's own servers. The host name is read off as
`urlsplit` reads it, which refuses some URLs by raising. -/
namespace RoborockPlus

inductive UrlError
  | valueError
deriving DecidableEq

/-- What of the standard library is left open: case beyond ASCII, and the checks of a
bracketed host and of a network location with other than ASCII characters. -/
structure UrlLib where
  lower : List Char → List Char
  bracketedHost : List Char → Bool
  normalized : List Char → Bool

namespace ServerUrl

def isSpace (c : Char) : Bool :=
  c.toNat ∈ [0x85,0xa0,0x1680,0x2028,0x2029,0x202f,0x205f,0x3000] || (0x9 ≤ c.toNat && c.toNat ≤ 0xd) ||
    (0x1c ≤ c.toNat && c.toNat ≤ 0x20) || (0x2000 ≤ c.toNat && c.toNat ≤ 0x200a)

def strip (text : List Char) : List Char := ((text.dropWhile isSpace).reverse.dropWhile isSpace).reverse

/-- What stands before the first `c`, and what behind the last one; the whole text if there is none. -/
def before (c : Char) (text : List Char) : List Char := text.takeWhile (· != c)

def behindLast (c : Char) (text : List Char) : List Char := (text.reverse.takeWhile (· != c)).reverse

def schemeChar (c : Char) : Bool := c.isAlphanum || c ∈ ['+','-','.']

def dropScheme (url : List Char) : List Char :=
  match before ':' url, url.dropWhile (· != ':') with
  | first :: rest, _ :: after => if first.isAlpha && (first :: rest).all schemeChar then after else url
  | _, _ => url

def asciiOnly (text : List Char) : Bool := text.all (·.toNat < 128)

def behindOpen (netloc : List Char) : List Char := (netloc.dropWhile (· != '[')).drop 1

/-- The network location `urlsplit` finds, if any; the rest of its result is not used. -/
def urlsplit (lib : UrlLib) (url : List Char) : Except UrlError (List Char) :=
  let url := (url.dropWhile (·.toNat ≤ 0x20)).filter (· ∉ ['\t','\r','\n'])
  match dropScheme url with
  | '/' :: '/' :: rest =>
    let netloc := rest.takeWhile (· ∉ ['/','?','#'])
    if ('[' ∈ netloc) ≠ (']' ∈ netloc) then .error .valueError
    else if '[' ∈ netloc ∧ lib.bracketedHost (behindOpen netloc) = false then .error .valueError
    else if asciiOnly netloc = false ∧ lib.normalized netloc = false then .error .valueError
    else .ok netloc
  | _ => .ok []

/-- `hostname`: without user information, port and brackets, and in lower case but for a zone. -/
def hostname (lib : UrlLib) (netloc : List Char) : Option (List Char) :=
  let info := behindLast '@' netloc
  let host := if '[' ∈ info then before ']' (behindOpen info) else before ':' info
  if host = [] then none else some (lib.lower (before '%' host) ++ host.dropWhile (· != '%'))

def officialCloudHosts : List (List Char) := ["roborock.com".toList]

def isOfficialHost (host : List Char) : Bool :=
  officialCloudHosts.any fun official => host == official || ('.' :: official).isSuffixOf host

/-- `urlparse(url.strip()).hostname`. -/
def urlHost (lib : UrlLib) (url : String) : Except UrlError (Option (List Char)) :=
  (urlsplit lib (strip url.toList)).map (hostname lib)

def isOfficialCloudUrl (lib : UrlLib) : PyValue → Except UrlError Bool
  | .str url => (urlHost lib url).map fun
    | none => true
    | some host => isOfficialHost (lib.lower host)
  | _ => .ok true

section Official
variable {lib : UrlLib} {url : String}

def dropDot (host : List Char) : List Char := if host.getLast? = some '.' then host.dropLast else host

/-- The URL cannot be parsed, or its host is Roborock's but for a trailing dot. -/
def pointsAtOfficial (lib : UrlLib) (url : String) : Bool :=
  match urlHost lib url with
  | .error _ | .ok none => true
  | .ok (some host) => isOfficialHost (dropDot (lib.lower host))

/-- The URL is parsed, and no host name in it ends in a dot. -/
def undotted (lib : UrlLib) (url : String) : Bool :=
  match urlHost lib url with
  | .error _ => false
  | .ok none => true
  | .ok (some host) => (lib.lower host).getLast? != some '.'

theorem official_undotted {host : List Char} (official : isOfficialHost host = true) : host.getLast? ≠ some '.' := by
  have named : host = "roborock.com".toList ∨ ('.' :: "roborock.com".toList) <:+ host := by
    simpa [isOfficialHost,officialCloudHosts] using official
  rcases named with rfl | ⟨front,rfl⟩
  · simp
  · simp

theorem official_url_iff (points : pointsAtOfficial lib url = true) :
    isOfficialCloudUrl lib (.str url) = .ok true ↔ undotted lib url = true := by
  unfold pointsAtOfficial at points
  unfold undotted isOfficialCloudUrl
  rcases parsed : urlHost lib url with error | _ | host
  · simp [parsed,Except.map]
  · simp [parsed,Except.map]
  simp only [parsed] at points
  simp only [parsed,Except.map,Except.ok.injEq,bne_iff_ne]
  constructor
  · exact official_undotted
  · intro plain
    simpa only [dropDot,plain,if_false] using points

end Official

section Written

def plainChar (c : Char) : Bool := 0x20 < c.toNat && c.toNat < 128 && c ∉ ['/','?','#','[',']']

/-- A URL by its parts: `user` includes its `@`, `port` its colon, and `rest` is all that follows. -/
structure Address where
  scheme : List Char
  user : List Char
  host : List Char
  port : List Char
  rest : List Char

namespace Address

def text (a : Address) : List Char := a.scheme ++ ':' :: '/' :: '/' :: (a.user ++ (a.host ++ (a.port ++ a.rest)))

structure Plain (a : Address) : Prop where
  scheme : ∃ first others, a.scheme = first :: others ∧ first.isAlpha = true ∧ a.scheme.all schemeChar = true
  user : a.user = [] ∨ ∃ info, a.user = info ++ ['@'] ∧ ∀ c ∈ info, plainChar c = true
  host : a.host ≠ [] ∧ ∀ c ∈ a.host, plainChar c = true ∧ c ∉ [':','@','%']
  port : a.port = [] ∨ ∃ digits, a.port = ':' :: digits ∧ ∀ c ∈ digits, plainChar c = true ∧ c ≠ '@'
  rest : a.rest = [] ∨ ∃ c others, a.rest = c :: others ∧ c ∈ ['/','?','#']
  ends : ∀ c ∈ a.text.getLast?, isSpace c = false

end Address

variable {a : Address} {lib : UrlLib}

theorem isAlpha_range {c : Char} (letter : c.isAlpha = true) : 65 ≤ c.toNat ∧ c.toNat ≤ 122 := by
  have range {low high : UInt32} (inside : low ≤ c.val ∧ c.val ≤ high) : low.toNat ≤ c.toNat ∧ c.toNat ≤ high.toNat :=
    ⟨UInt32.le_iff_toNat_le.mp inside.1,UInt32.le_iff_toNat_le.mp inside.2⟩
  rcases (Bool.or_eq_true _ _).mp letter with upper | lower
  · have upper : 'A'.val ≤ c.val ∧ c.val ≤ 'Z'.val := of_decide_eq_true upper
    obtain ⟨low,high⟩ := range upper
    exact ⟨low,high.trans (by decide)⟩
  · obtain ⟨above,below⟩ := (Bool.and_eq_true _ _).mp lower
    obtain ⟨low,high⟩ := range ⟨of_decide_eq_true above,of_decide_eq_true below⟩
    exact ⟨le_trans (by decide) low,high⟩

theorem isAlpha_printed {c : Char} (letter : c.isAlpha = true) : isSpace c = false ∧ ¬c.toNat ≤ 0x20 := by
  obtain ⟨low,high⟩ := isAlpha_range letter
  refine ⟨?_,by omega⟩
  simp [isSpace]
  omega

theorem strip_spaces {lead core trail : List Char} (before : ∀ c ∈ lead, isSpace c = true) (after : ∀ c ∈ trail, isSpace c = true)
    (starts : ∀ c ∈ core.head?, isSpace c = false) (ends : ∀ c ∈ core.getLast?, isSpace c = false) (present : core ≠ []) :
    strip (lead ++ (core ++ trail)) = core := by
  obtain ⟨first,others,rfl⟩ := List.exists_cons_of_ne_nil present
  have opened : (lead ++ (first :: others ++ trail)).dropWhile isSpace = first :: others ++ trail := by
    rw [List.dropWhile_append_of_pos before]
    simp [starts first rfl]
  have closed : ((first :: others ++ trail).reverse).dropWhile isSpace = (first :: others).reverse := by
    rw [List.reverse_append,List.dropWhile_append_of_pos (by simpa using after)]
    obtain ⟨last,init,reversed⟩ := List.exists_cons_of_ne_nil (List.reverse_ne_nil_iff.mpr present)
    have final : (first :: others).getLast? = some last := by
      rw [← List.head?_reverse,reversed]
      rfl
    rw [reversed,List.dropWhile_cons,ends last final]
    rfl
  rw [strip,opened,closed,List.reverse_reverse]

theorem filter_kept {text : List Char} (printed : ∀ c ∈ text, c ∉ ['\t','\r','\n']) :
    text.filter (· ∉ ['\t','\r','\n']) = text :=
  List.filter_eq_self.mpr fun c member => by simpa using printed c member

theorem before_stop {c : Char} {text rest : List Char} (without : c ∉ text) : before c (text ++ c :: rest) = text := by
  rw [before,List.takeWhile_append_of_pos]
  · simp
  · exact fun d member => by simpa using fun same : d = c => without (same ▸ member)

theorem before_all {c : Char} {text : List Char} (without : c ∉ text) : before c text = text := by
  rw [before,List.takeWhile_eq_self_iff]
  exact fun d member => by simpa using fun same : d = c => without (same ▸ member)

theorem behindLast_stop {c : Char} {text rest : List Char} (without : c ∉ rest) : behindLast c (text ++ c :: rest) = rest := by
  have reversed : (text ++ c :: rest).reverse = rest.reverse ++ c :: text.reverse := by simp
  have found : before c (rest.reverse ++ c :: text.reverse) = rest.reverse := before_stop (by simpa using without)
  rw [behindLast,reversed]
  exact (congrArg List.reverse found).trans (List.reverse_reverse rest)

theorem behindLast_all {c : Char} {text : List Char} (without : c ∉ text) : behindLast c text = text := by
  have found : before c text.reverse = text.reverse := before_all (by simpa using without)
  exact (congrArg List.reverse found).trans (List.reverse_reverse text)

theorem dropScheme_stop {first : Char} {others rest : List Char} (letter : first.isAlpha = true)
    (plain : (first :: others).all schemeChar = true) : dropScheme (first :: others ++ ':' :: rest) = rest := by
  have without : ':' ∉ first :: others := fun member => absurd (List.all_eq_true.mp plain ':' member) (by decide)
  have name : before ':' (first :: others ++ ':' :: rest) = first :: others := before_stop without
  have behind : (first :: others ++ ':' :: rest).dropWhile (· != ':') = ':' :: rest := by
    rw [List.dropWhile_append_of_pos]
    · simp
    · exact fun d member => by simpa using fun same : d = ':' => without (same ▸ member)
  rw [dropScheme,name,behind]
  simp only [letter,plain,Bool.and_self,if_true]

theorem hostname_plain (plain : a.Plain) : hostname lib (a.user ++ (a.host ++ a.port)) = some (lib.lower a.host) := by
  obtain ⟨present,named⟩ := plain.host
  have hosted (c : Char) (odd : c ∈ [':','@','%','[']) : c ∉ a.host := fun member => by
    obtain ⟨printed,other⟩ := named c member
    rcases List.mem_cons.mp odd with rfl | odd
    · simp at other
    rcases List.mem_cons.mp odd with rfl | odd
    · simp at other
    rcases List.mem_cons.mp odd with rfl | odd
    · simp at other
    · obtain rfl := List.mem_singleton.mp odd
      simp [plainChar] at printed
  have port (c : Char) (odd : c ∈ ['@','[']) : c ∉ a.port := fun member => by
    rcases plain.port with none | ⟨digits,some_,printed⟩
    · simp [none] at member
    · rw [some_] at member
      rcases List.mem_cons.mp member with rfl | inside
      · simp at odd
      · obtain ⟨good,other⟩ := printed c inside
        rcases List.mem_cons.mp odd with rfl | odd
        · exact other rfl
        · obtain rfl := List.mem_singleton.mp odd
          simp [plainChar] at good
  have info : behindLast '@' (a.user ++ (a.host ++ a.port)) = a.host ++ a.port := by
    have without : '@' ∉ a.host ++ a.port := fun member =>
      (List.mem_append.mp member).elim (hosted '@' (by simp)) (port '@' (by simp))
    rcases plain.user with none | ⟨user,some_,_⟩
    · simpa [none] using behindLast_all without
    · rw [some_,List.append_assoc]
      exact behindLast_stop without
  have unbracketed : '[' ∉ a.host ++ a.port := fun member =>
    (List.mem_append.mp member).elim (hosted '[' (by simp)) (port '[' (by simp))
  have cut : before ':' (a.host ++ a.port) = a.host := by
    rcases plain.port with none | ⟨digits,some_,_⟩
    · rw [none,List.append_nil]
      exact before_all (hosted ':' (by simp))
    · rw [some_]
      exact before_stop (hosted ':' (by simp))
  have zoneless : a.host.dropWhile (· != '%') = [] := by
    rw [List.dropWhile_eq_nil_iff]
    exact fun c member => by simpa using fun same : c = '%' => hosted '%' (by simp) (same ▸ member)
  unfold hostname
  simp only [info,unbracketed,if_false,cut,present,before_all (hosted '%' (by simp)),zoneless,List.append_nil]

theorem location_plain (plain : a.Plain) : ∀ c ∈ a.user ++ (a.host ++ a.port), plainChar c = true := by
  intro c member
  rcases List.mem_append.mp member with user | rest
  · rcases plain.user with none | ⟨info,some_,printed⟩
    · simp [none] at user
    · rw [some_] at user
      rcases List.mem_append.mp user with inside | last
      · exact printed c inside
      · rw [List.mem_singleton.mp last]
        decide
  rcases List.mem_append.mp rest with host | port
  · exact (plain.host.2 c host).1
  · rcases plain.port with none | ⟨digits,some_,printed⟩
    · simp [none] at port
    · rw [some_] at port
      rcases List.mem_cons.mp port with rfl | inside
      · decide
      · exact (printed c inside).1

theorem plainChar_free {c d : Char} (plain : plainChar c = true) (odd : d ∈ ['/','?','#','[',']','\t','\r','\n']) : c ≠ d := by
  rintro rfl
  simp only [List.mem_cons,List.not_mem_nil,or_false] at odd
  rcases odd with rfl | rfl | rfl | rfl | rfl | rfl | rfl | rfl <;> simp [plainChar] at plain

theorem urlsplit_plain (plain : a.Plain) : urlsplit lib a.text = .ok (a.user ++ (a.host ++ a.port)) := by
  obtain ⟨first,others,scheme,letter,named⟩ := plain.scheme
  have location := location_plain plain
  have printed : a.text.dropWhile (·.toNat ≤ 0x20) = a.text := by
    rw [Address.text,scheme,List.cons_append,List.dropWhile_cons,if_neg (by simpa using (isAlpha_printed letter).2)]
  have kept : a.text.filter (· ∉ ['\t','\r','\n']) =
      a.scheme ++ ':' :: '/' :: '/' :: ((a.user ++ (a.host ++ a.port)) ++ a.rest.filter (· ∉ ['\t','\r','\n'])) := by
    have front : a.scheme.filter (· ∉ ['\t','\r','\n']) = a.scheme := filter_kept fun c member odd => by
      have good := List.all_eq_true.mp named c member
      simp only [List.mem_cons,List.not_mem_nil,or_false] at odd
      rcases odd with rfl | rfl | rfl <;> exact absurd good (by decide)
    have middle : (a.user ++ (a.host ++ a.port)).filter (· ∉ ['\t','\r','\n']) = a.user ++ (a.host ++ a.port) :=
      filter_kept fun c member odd => plainChar_free (location c member) (by simp at odd ⊢; tauto) rfl
    have grouped : a.text = a.scheme ++ ([':','/','/'] ++ ((a.user ++ (a.host ++ a.port)) ++ a.rest)) := by
      simp [Address.text]
    rw [grouped,List.filter_append,List.filter_append,List.filter_append,front,middle]
    rfl
  have netloc : ((a.user ++ (a.host ++ a.port)) ++ a.rest.filter (· ∉ ['\t','\r','\n'])).takeWhile (· ∉ ['/','?','#']) =
      a.user ++ (a.host ++ a.port) := by
    have inside : ∀ c ∈ a.user ++ (a.host ++ a.port), decide (c ∉ ['/','?','#']) = true := fun c member => by
      have free (d : Char) (odd : d ∈ ['/','?','#']) : c ≠ d := plainChar_free (location c member) (by simp at odd ⊢; tauto)
      exact decide_eq_true fun odd => free c odd rfl
    rw [List.takeWhile_append_of_pos inside]
    rcases plain.rest with none | ⟨c,rest,some_,delimiter⟩
    · simp [none]
    · have printed : c ∉ ['\t','\r','\n'] := by
        simp only [List.mem_cons,List.not_mem_nil,or_false] at delimiter
        rcases delimiter with rfl | rfl | rfl <;> decide
      rw [some_,List.filter_cons,if_pos (by simpa using printed),List.takeWhile_cons,if_neg ?_,List.append_nil]
      simp at delimiter ⊢
      tauto
  have opened : '[' ∉ a.user ++ (a.host ++ a.port) := fun member => plainChar_free (location _ member) (by simp) rfl
  have closed : ']' ∉ a.user ++ (a.host ++ a.port) := fun member => plainChar_free (location _ member) (by simp) rfl
  have ascii : asciiOnly (a.user ++ (a.host ++ a.port)) = true := List.all_eq_true.mpr fun c member => by
    have good := location c member
    simp only [plainChar,Bool.and_eq_true] at good
    exact good.1.2
  unfold urlsplit
  simp only [printed,kept,scheme,dropScheme_stop letter (scheme ▸ named),netloc,opened,closed,ascii]
  simp

theorem urlHost_plain (plain : a.Plain) {lead trail : List Char} (before : ∀ c ∈ lead, isSpace c = true)
    (after : ∀ c ∈ trail, isSpace c = true) :
    urlHost lib (String.ofList (lead ++ (a.text ++ trail))) = .ok (some (lib.lower a.host)) := by
  obtain ⟨first,others,scheme,letter,_⟩ := plain.scheme
  have present : a.text ≠ [] := by simp [Address.text,scheme]
  have starts : ∀ c ∈ a.text.head?, isSpace c = false := by
    intro c head
    obtain rfl : first = c := by simpa [Address.text,scheme] using head
    exact (isAlpha_printed letter).1
  rw [urlHost,String.toList_ofList,strip_spaces before after starts plain.ends present,urlsplit_plain plain]
  exact congrArg Except.ok (hostname_plain plain)

theorem toLower_ascii {c : Char} (ascii : c.toNat < 128) : c.toLower.toNat < 128 ∧ c.toLower.toLower = c.toLower := by
  have every : ∀ n < 128, (Char.ofNat n).toLower.toNat < 128 ∧ (Char.ofNat n).toLower.toLower = (Char.ofNat n).toLower := by
    decide
  simpa using every c.toNat ascii

/-- A host of Roborock's counts as one in any letter case, with user information, a port,
whitespace around the URL or a dot behind the name. -/
theorem plain_official (plain : a.Plain) {lead trail : List Char} (before : ∀ c ∈ lead, isSpace c = true)
    (after : ∀ c ∈ trail, isSpace c = true) (folds : ∀ text, asciiOnly text = true → lib.lower text = text.map Char.toLower)
    (official : isOfficialHost (dropDot (a.host.map Char.toLower)) = true) :
    pointsAtOfficial lib (String.ofList (lead ++ (a.text ++ trail))) = true := by
  have small (c : Char) (member : c ∈ a.host) : c.toNat < 128 := by
    have good := (plain.host.2 c member).1
    simp only [plainChar,Bool.and_eq_true,decide_eq_true_eq] at good
    exact good.1.2
  have ascii : asciiOnly a.host = true := List.all_eq_true.mpr fun c member => decide_eq_true (small c member)
  have lowered : asciiOnly (a.host.map Char.toLower) = true := List.all_eq_true.mpr fun c member => by
    obtain ⟨d,inside,rfl⟩ := List.mem_map.mp member
    exact decide_eq_true (toLower_ascii (small d inside)).1
  have again : lib.lower (lib.lower a.host) = a.host.map Char.toLower := by
    rw [folds _ ascii,folds _ lowered,List.map_map]
    exact List.map_congr_left fun c member => (toLower_ascii (small c member)).2
  unfold pointsAtOfficial
  simp only [urlHost_plain plain before after,again]
  exact official

end Written

section Custom

/-- The scheme `urlsplit` finds, if any. -/
def urlScheme (url : List Char) : List Char :=
  let url := (url.dropWhile (·.toNat ≤ 0x20)).filter (· ∉ ['\t','\r','\n'])
  match before ':' url, url.dropWhile (· != ':') with
  | first :: rest, _ :: _ => if first.isAlpha && (first :: rest).all schemeChar then (first :: rest).map Char.toLower else []
  | _, _ => []

def allowedSchemes : List (List Char) := ["http".toList,"https".toList]

def isValidServerUrl (lib : UrlLib) (url : String) : Except UrlError Bool :=
  (urlsplit lib (strip url.toList)).map fun netloc =>
    allowedSchemes.contains (urlScheme (strip url.toList)) && netloc != []

def normalizeServerUrl (url : String) : String := String.ofList (strip url.toList)

end Custom

end ServerUrl

end RoborockPlus
