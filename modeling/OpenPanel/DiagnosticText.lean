import OpenPanel.Values
import Mathlib.Algebra.GroupWithZero.Nat
import Mathlib.Data.List.Infix

/-! Diagnostics before they are stored or shown: `redact_diagnostic`, of which the deployment
adapters and the delivery types each have a copy. A line with a credential marker is cut at its
first `=` or `:`, a `-----BEGIN` line is replaced, other lines stay, and the text is cut at a
number of bytes. -/
namespace OpenPanel.Diagnostics

/-- `str::to_lowercase`, as far as the markers need it: ASCII is lowered where it stands. -/
structure Lowering where
  lower : List Char → List Char
  inside : ∀ a m s, (∀ c ∈ m, c.toNat < 128) → m.map Char.toLower <:+: lower (a ++ m ++ s)
  ascii : ∀ text, (∀ c ∈ text, c.toNat < 128) → lower text = text.map Char.toLower

def markers : List (List Char) :=
  ["password","passwd","secret","token","api_key","apikey","private_key","private-key","credential","bearer"].map String.toList

def equalsRedacted : List Char := [' ','=',' ','<','r','e','d','a','c','t','e','d','>']
def colonRedacted : List Char := [':',' ','<','r','e','d','a','c','t','e','d','>']
def redacted : List Char := ['<','r','e','d','a','c','t','e','d','>']
def pemRedacted : List Char := "<redacted:pem>".toList
def pemBegin : List Char := "-----BEGIN".toList
def pemEnd : List Char := "-----END".toList
def maxDiagnosticLen : Nat := 1024

/-- `String::truncate`; it panics where the cut is inside a character. -/
def truncate : Nat → List Char → Option (List Char)
  | _,[] => some []
  | n,c::rest =>
    if n = 0 then some []
    else if c.utf8Size ≤ n then (truncate (n - c.utf8Size) rest).map (fun kept => c::kept)
    else none

section Redaction

variable (l : Lowering)

def marked (line : List Char) : Bool := markers.any (fun m => decide (m <:+: l.lower line))

def upTo (c : Char) (text : List Char) : List Char := text.takeWhile (fun d => d ≠ c)

def redactLine (line : List Char) : List Char :=
  if marked l line then
    if '=' ∈ line then upTo '=' line ++ equalsRedacted
    else if ':' ∈ line then upTo ':' line ++ colonRedacted
    else redacted
  else if pemBegin <:+: line then pemRedacted
  else line

-- A break is written only behind text, so empty lines at the front are lost.
def breakAfter (out : List Char) : List Char := if out = [] then [] else out ++ ['\n']

def emit (out : List Char) (text : List (List Char)) : List Char :=
  text.foldl (fun out line => breakAfter out ++ redactLine l line) out

def redactDiagnostic (value : List Char) : Option (List Char) :=
  let out := emit l [] (lines value)
  if byteLength out > maxDiagnosticLen then truncate maxDiagnosticLen out else some out

end Redaction

theorem byteLengthFrom (text) (n) : text.foldl (fun n c => n + c.utf8Size) n = n + byteLength text := by
  induction text generalizing n with
  | nil => rfl
  | cons c rest ih => rw [byteLength,List.foldl_cons,List.foldl_cons,ih,ih (0 + c.utf8Size),Nat.zero_add,Nat.add_assoc]

@[simp] theorem byteLengthCons (c) (rest) : byteLength (c::rest) = c.utf8Size + byteLength rest := by
  rw [byteLength,List.foldl_cons,byteLengthFrom,Nat.zero_add]

@[simp] theorem byteLengthAppend (a b) : byteLength (a ++ b) = byteLength a + byteLength b := by
  rw [byteLength,List.foldl_append,byteLengthFrom]
  rfl

theorem truncateAppend (rest) (fits : byteLength front ≤ n) :
    truncate n (front ++ rest) = (truncate (n - byteLength front) rest).map (fun kept => front ++ kept) := by
  induction front generalizing n with
  | nil => simp [byteLength]
  | cons c front ih =>
    rw [byteLengthCons] at fits
    have positive := c.utf8Size_pos
    rw [List.cons_append,truncate,if_neg (by omega),if_pos (by omega),ih (by omega),Option.map_map,byteLengthCons,Nat.sub_sub]
    rfl

theorem truncateWithin (enough : n ≤ byteLength front) (x y) : truncate n (front ++ x) = truncate n (front ++ y) := by
  induction front generalizing n with
  | nil =>
    cases Nat.le_zero.mp enough
    cases x <;> cases y <;> simp [truncate]
  | cons c front ih =>
    rw [byteLengthCons] at enough
    simp only [List.cons_append,truncate]
    rw [ih (by omega)]

theorem truncateShort (short : byteLength text ≤ n) : truncate n text = some text := by
  have whole := truncateAppend [] short
  simpa [truncate] using whole

theorem truncateSome (ok : truncate n text = some out) :
    out <+: text ∧ byteLength out ≤ n ∧ (n ≤ byteLength text → byteLength out = n) := by
  induction text generalizing n out with
  | nil =>
    cases ok
    exact ⟨List.prefix_rfl,Nat.zero_le _,fun none => Nat.le_antisymm (Nat.zero_le _) none⟩
  | cons c rest ih =>
    rw [truncate] at ok
    split at ok
    · cases ok
      rename_i zero
      exact ⟨List.nil_prefix,Nat.zero_le _,fun _ => zero.symm⟩
    · split at ok <;> try contradiction
      obtain ⟨kept,cut,rfl⟩ := Option.map_eq_some_iff.mp ok
      obtain ⟨inside,bounded,full⟩ := ih cut
      simp only [byteLengthCons]
      exact ⟨List.cons_prefix_cons.mpr ⟨rfl,inside⟩,by omega,fun long => by have := full (by omega); omega⟩

theorem truncateWhole (ok : truncate n text = some out) (short : byteLength out < n) : out = text := by
  by_cases fits : byteLength text ≤ n
  · rw [truncateShort fits] at ok
    exact (Option.some.inj ok).symm
  · have := (truncateSome ok).2.2
    omega

theorem truncateNone : truncate n text = none ↔
    ∃ front c rest, text = front ++ c::rest ∧ byteLength front < n ∧ n < byteLength front + c.utf8Size := by
  induction text generalizing n with
  | nil => simp [truncate]
  | cons c rest ih =>
    have positive := c.utf8Size_pos
    rw [truncate]
    constructor
    · intro stopped
      split at stopped
      · cases stopped
      · split at stopped
        · obtain ⟨front,d,later,rfl,start,inside⟩ := ih.mp (Option.map_eq_none_iff.mp stopped)
          exact ⟨c::front,d,later,rfl,by simp; omega,by simp; omega⟩
        · exact ⟨[],c,rest,rfl,by simp [byteLength]; omega,by simp [byteLength]; omega⟩
    · rintro ⟨front,d,later,parts,start,inside⟩
      rw [if_neg (by omega)]
      cases front with
      | nil =>
        cases parts
        rw [if_neg (by simpa [byteLength] using inside)]
      | cons e front =>
        cases parts
        rw [byteLengthCons] at start inside
        rw [if_pos (by omega),ih.mpr ⟨front,d,later,rfl,by omega,by omega⟩,Option.map_none]

theorem redactCut (l) (value) : redactDiagnostic l value = truncate maxDiagnosticLen (emit l [] (lines value)) := by
  rw [redactDiagnostic]
  split
  · rfl
  · exact (truncateShort (by omega)).symm

section Places

variable {l : Lowering}

-- What is kept of a line, and what is written behind it.
def kept (l : Lowering) (line : List Char) : List Char :=
  if marked l line then
    if '=' ∈ line then upTo '=' line else if ':' ∈ line then upTo ':' line else []
  else if pemBegin <:+: line then [] else line

def added (l : Lowering) (line : List Char) : List Char :=
  if marked l line then if '=' ∈ line then equalsRedacted else if ':' ∈ line then colonRedacted else redacted
  else if pemBegin <:+: line then pemRedacted else []

/-- The byte at which a line starts in the output. Empty lines at the front take no room, every other line takes its break too. -/
def place (l : Lowering) (before : List (List Char)) : Nat :=
  ((before.dropWhile (fun line => line = [])).map (fun line => byteLength (kept l line) + byteLength (added l line) + 1)).sum

def StraddlesAt (start : Nat) (text : List Char) : Prop :=
  ∃ front c rest, text = front ++ c::rest ∧ start + byteLength front < maxDiagnosticLen ∧
    maxDiagnosticLen < start + byteLength front + c.utf8Size

/-- The cut falls inside a character that is kept of some line. -/
def Straddled (l : Lowering) (value : List Char) : Prop :=
  ∃ before line after, lines value = before ++ line::after ∧ StraddlesAt (place l before) (kept l line)

theorem redactParts (line) : redactLine l line = kept l line ++ added l line := by
  unfold redactLine kept added
  split
  · split
    · rfl
    · split <;> rfl
  · split <;> simp

theorem keptStarts (line) : kept l line <+: line := by
  unfold kept
  split
  · split
    · exact List.takeWhile_prefix _
    · split
      · exact List.takeWhile_prefix _
      · exact List.nil_prefix
  · split
    · exact List.nil_prefix
    · exact List.prefix_rfl

theorem addedSingle (line) : ∀ c ∈ added l line, c.utf8Size = 1 ∧ c ≠ '\n' := by
  have all : [equalsRedacted,colonRedacted,redacted,pemRedacted,[]].flatten.all (fun c => c.utf8Size = 1 ∧ c ≠ '\n') = true := by decide
  refine fun c mem => of_decide_eq_true (List.all_eq_true.mp all c (List.mem_flatten.mpr ⟨_,?_,mem⟩))
  unfold added
  split
  · split
    · simp
    · split <;> simp
  · split <;> simp

theorem redactEmpty : redactLine l [] = [] := by
  have plain : marked l [] = false := by
    have lowered : l.lower [] = [] := l.ascii [] nofun
    rw [marked,lowered]
    decide
  simp only [redactLine,plain]
  decide

theorem redactNonempty (there : line ≠ []) : redactLine l line ≠ [] := by
  unfold redactLine
  split
  · split
    · simp [equalsRedacted]
    · split
      · simp [colonRedacted]
      · decide
  · split
    · decide
    · exact there

def placed (l : Lowering) (before : List (List Char)) : List Char := breakAfter (emit l [] before)

theorem emitLast (before line) : emit l [] (before ++ [line]) = placed l before ++ redactLine l line := by
  simp [emit,placed]

theorem emitsNothing : emit l [] before = [] ↔ before.dropWhile (fun line => line = []) = [] := by
  induction before using List.reverseRecOn with
  | nil => simp [emit]
  | append_singleton before line ih =>
    rw [emitLast,List.append_eq_nil_iff,placed,List.dropWhile_append]
    by_cases none : emit l [] before = []
    · rw [none,ih.mp none]
      by_cases empty : line = []
      · simp [breakAfter,empty,redactEmpty]
      · simp [breakAfter,empty,redactNonempty empty]
    · have some := mt ih.mpr none
      simp [breakAfter,none,some]

theorem placedLength (before) : byteLength (placed l before) = place l before := by
  induction before using List.reverseRecOn with
  | nil => rfl
  | append_singleton before line ih =>
    have weight : byteLength (redactLine l line) = byteLength (kept l line) + byteLength (added l line) := by
      rw [redactParts,byteLengthAppend]
    have one : byteLength ['\n'] = 1 := by decide
    unfold placed place
    rw [List.dropWhile_append]
    by_cases none : emit l [] before = []
    · have front : placed l before = [] := by simp [placed,breakAfter,none]
      rw [emitLast,front,emitsNothing.mp none]
      by_cases empty : line = []
      · subst empty
        simp [redactEmpty,breakAfter,byteLength]
      · simp [breakAfter,empty,redactNonempty empty,weight,one]
    · have filled : emit l [] (before ++ [line]) ≠ [] := by
        rw [emitLast]
        simp [placed,breakAfter,none]
      have some := mt emitsNothing.mpr none
      rw [place] at ih
      rw [breakAfter,if_neg filled,emitLast,byteLengthAppend,byteLengthAppend,ih,weight,one]
      simp [some,Nat.add_assoc]

theorem straddleCons : StraddlesAt start (c::rest) ↔
    (start < maxDiagnosticLen ∧ maxDiagnosticLen < start + c.utf8Size) ∨ StraddlesAt (start + c.utf8Size) rest := by
  constructor
  · rintro ⟨front,d,later,parts,before,inside⟩
    cases front with
    | nil =>
      cases parts
      exact .inl ⟨by simpa [byteLength] using before,by simpa [byteLength] using inside⟩
    | cons e front =>
      cases parts
      rw [byteLengthCons] at before inside
      exact .inr ⟨front,d,later,rfl,by omega,by omega⟩
  · rintro (⟨before,inside⟩ | ⟨front,d,later,rfl,before,inside⟩)
    · exact ⟨[],c,rest,rfl,by simpa [byteLength] using before,by simpa [byteLength] using inside⟩
    · exact ⟨c::front,d,later,rfl,by rw [byteLengthCons]; omega,by rw [byteLengthCons]; omega⟩

theorem straddleAppend (a b) : StraddlesAt start (a ++ b) ↔ StraddlesAt start a ∨ StraddlesAt (start + byteLength a) b := by
  induction a generalizing start with
  | nil => simp [StraddlesAt,byteLength]
  | cons c a ih => rw [List.cons_append,straddleCons,straddleCons,ih,byteLengthCons,Nat.add_assoc,or_assoc]

theorem straddleSingle (single : ∀ c ∈ text, c.utf8Size = 1) : ¬ StraddlesAt start text := by
  rintro ⟨front,c,rest,rfl,before,inside⟩
  have one := single c (by simp)
  omega

theorem emitStraddles (text) : StraddlesAt 0 (emit l [] text) ↔
    ∃ before line after, text = before ++ line::after ∧ StraddlesAt (place l before) (kept l line) := by
  induction text using List.reverseRecOn with
  | nil => simp [emit,StraddlesAt]
  | append_singleton text last ih =>
    have front : StraddlesAt 0 (placed l text) ↔ StraddlesAt 0 (emit l [] text) := by
      unfold placed breakAfter
      split
      · simp [*]
      · have single : ¬ StraddlesAt (0 + byteLength (emit l [] text)) ['\n'] := straddleSingle (by simp [Char.utf8Size])
        rw [straddleAppend,or_iff_left single]
    have back : StraddlesAt (place l text) (redactLine l last) ↔ StraddlesAt (place l text) (kept l last) := by
      rw [redactParts,straddleAppend,or_iff_left (straddleSingle (fun c mem => (addedSingle last c mem).1))]
    rw [emitLast,straddleAppend,front,placedLength,Nat.zero_add,back,ih]
    constructor
    · rintro (⟨before,line,after,rfl,inside⟩ | inside)
      · exact ⟨before,line,after ++ [last],by simp,inside⟩
      · exact ⟨text,last,[],rfl,inside⟩
    · rintro ⟨before,line,after,parts,inside⟩
      rcases List.eq_nil_or_concat after with rfl | ⟨more,end',rfl⟩
      · obtain ⟨rfl,same⟩ := List.append_inj' parts rfl
        cases same
        exact .inr inside
      · rw [List.concat_eq_append,← List.cons_append,← List.append_assoc] at parts
        obtain ⟨rfl,_⟩ := List.append_inj' parts rfl
        exact .inl ⟨before,line,more,rfl,inside⟩

theorem straddledIff (value) : redactDiagnostic l value = none ↔ Straddled l value := by
  rw [redactCut,truncateNone,Straddled,← emitStraddles]
  simp [StraddlesAt]

end Places

theorem diagnosticBounded (l : Lowering) (value : List Char) :
    (∃ out, redactDiagnostic l value = some out ∧ byteLength out ≤ maxDiagnosticLen) ↔ ¬ Straddled l value := by
  rw [← straddledIff,← ne_eq,Option.ne_none_iff_exists']
  refine exists_congr (fun out => ⟨fun both => both.1,fun ok => ⟨ok,?_⟩⟩)
  rw [redactCut] at ok
  exact (truncateSome ok).2.1

section Lines

def markerChar (c : Char) : Bool := 95 ≤ c.toNat && c.toNat ≤ 122 || c == '-'

theorem markerCharLowered (lowered : markerChar c.toLower = true) : c.toNat < 128 ∧ c ≠ '=' ∧ c ≠ ':' ∧ c ≠ '\n' := by
  refine ⟨?_,?_,?_,?_⟩
  · unfold Char.toLower at lowered
    split at lowered
    · rename_i upper
      have bound : c.toNat ≤ 90 := upper.2
      omega
    · simp only [markerChar,Bool.or_eq_true,Bool.and_eq_true,decide_eq_true_eq,beq_iff_eq] at lowered
      obtain ⟨_,bound⟩ | rfl := lowered
      · omega
      · decide
  all_goals
    rintro rfl
    revert lowered
    decide

variable {l : Lowering} {a m s line : List Char}

theorem markerPlain (marker : m.map Char.toLower ∈ markers) : m ≠ [] ∧ ∀ c ∈ m, c.toNat < 128 ∧ c ≠ '=' ∧ c ≠ ':' ∧ c ≠ '\n' := by
  have known : markers.all (fun m => m ≠ [] && m.all markerChar) = true := by decide
  have plain := List.all_eq_true.mp known _ marker
  simp only [Bool.and_eq_true,decide_eq_true_eq,ne_eq,List.map_eq_nil_iff,List.all_map,List.all_eq_true] at plain
  exact ⟨plain.1,fun c mem => markerCharLowered (plain.2 c mem)⟩

theorem markedLine (marker : m.map Char.toLower ∈ markers) (a s) : marked l (a ++ m ++ s) = true :=
  List.any_eq_true.mpr ⟨_,marker,by simpa using l.inside a m s (fun c mem => ((markerPlain marker).2 c mem).1)⟩

theorem takeFirst (mem : c ∈ a) (x) : upTo c (a ++ x) = upTo c a := by
  induction a with
  | nil => cases mem
  | cons d a ih =>
    by_cases same : d = c
    · simp [upTo,same]
    · simpa [upTo,same] using ih ((List.mem_cons.mp mem).resolve_left (Ne.symm same))

theorem takePast (absent : c ∉ a) (x) : upTo c (a ++ x) = a ++ upTo c x :=
  List.takeWhile_append_of_pos (fun d mem => by simpa using fun same : d = c => absent (same ▸ mem))

/-- What is kept of the line ends at the same place before the two texts that follow the marker. -/
def SameCut (a s t : List Char) : Prop :=
  '=' ∈ a ∨ ('=' ∈ s ∧ '=' ∈ t ∧ upTo '=' s = upTo '=' t) ∨
  ('=' ∉ s ∧ '=' ∉ t ∧ (':' ∈ a ∨ (':' ∉ s ∧ ':' ∉ t) ∨
    (':' ∈ s ∧ ':' ∈ t ∧ upTo ':' s = upTo ':' t)))

/-- The output ends before the two lines come apart. -/
def CutAway (l : Lowering) (start : Nat) (u v : List Char) : Prop :=
  ∃ c, c <+: kept l u ++ added l u ∧ c <+: kept l v ++ added l v ∧ maxDiagnosticLen ≤ start + byteLength c

section Marker

variable (marker : m.map Char.toLower ∈ markers)
include marker

theorem redactMarked (s) : redactLine l (a ++ m ++ s) =
    if '=' ∈ a then upTo '=' a ++ equalsRedacted
    else if '=' ∈ s then a ++ m ++ upTo '=' s ++ equalsRedacted
    else if ':' ∈ a then upTo ':' a ++ colonRedacted
    else if ':' ∈ s then a ++ m ++ upTo ':' s ++ colonRedacted
    else redacted := by
  obtain ⟨_,plain⟩ := markerPlain marker
  have equals : '=' ∉ m := fun mem => (plain '=' mem).2.1 rfl
  have colon : ':' ∉ m := fun mem => (plain ':' mem).2.2.1 rfl
  have whole : ∀ c, c ∈ a ++ m ++ s ↔ c ∈ a ∨ c ∈ m ∨ c ∈ s := by simp
  rw [redactLine,if_pos (markedLine marker a s)]
  simp only [whole,equals,colon,false_or]
  by_cases first : '=' ∈ a
  · simp only [first,true_or,if_true,List.append_assoc,takeFirst first]
  · by_cases later : '=' ∈ s
    · have absent : '=' ∉ a ++ m := by simp [first,equals]
      simp only [first,later,or_true,if_true,if_false,takePast absent]
    · by_cases early : ':' ∈ a
      · simp only [first,later,early,or_self,true_or,if_true,if_false,List.append_assoc,takeFirst early]
      · have absent : ':' ∉ a ++ m := by simp [early,colon]
        by_cases late : ':' ∈ s <;> simp only [first,later,early,late,or_self,or_true,if_true,if_false,takePast absent]

theorem sameCutIff (s t) : redactLine l (a ++ m ++ s) = redactLine l (a ++ m ++ t) ↔ SameCut a s t := by
  have apart : ∀ x y, x ++ equalsRedacted ≠ y ++ colonRedacted := by
    intro x y same
    have cut : (x ++ [' ']) ++ equalsRedacted.tail = y ++ colonRedacted := by simpa [equalsRedacted] using same
    exact absurd (List.append_inj' cut rfl).2 (by decide)
  have longE : ∀ x, x ++ equalsRedacted ≠ redacted := fun x same => by
    have := congrArg List.length same
    simp [equalsRedacted,redacted] at this
  have longC : ∀ x, x ++ colonRedacted ≠ redacted := fun x same => by
    have := congrArg List.length same
    simp [colonRedacted,redacted] at this
  rw [redactMarked marker s,redactMarked marker t,SameCut]
  by_cases first : '=' ∈ a
  · simp [first]
  · by_cases inS : '=' ∈ s <;> by_cases inT : '=' ∈ t
    · simp [first,inS,inT]
    · simp only [first,inS,inT,if_true,if_false]
      split
      · simp [-List.append_assoc,apart]
      · split <;> simp [-List.append_assoc,apart,longE]
    · simp only [first,inS,inT,if_true,if_false]
      split
      · simp [-List.append_assoc,(apart _ _).symm]
      · split <;> simp [-List.append_assoc,(apart _ _).symm,(longE _).symm]
    · by_cases early : ':' ∈ a
      · simp [first,inS,inT,early]
      · by_cases colonS : ':' ∈ s <;> by_cases colonT : ':' ∈ t <;>
          simp [-List.append_assoc,first,inS,inT,early,colonS,colonT,longC,(longC _).symm]

end Marker

theorem emitPrefix (out) (text) : out <+: emit l out text := by
  induction text generalizing out with
  | nil => exact List.prefix_rfl
  | cons line rest ih =>
    refine List.IsPrefix.trans ?_ (ih (breakAfter out ++ redactLine l line))
    refine List.IsPrefix.trans ?_ (List.prefix_append ..)
    unfold breakAfter
    split
    · simp [*]
    · exact List.prefix_append ..

theorem emitPlaced (before after) : emit l [] (before ++ line::after) = emit l (placed l before ++ redactLine l line) after := by
  simp [emit,placed]

theorem emitRest {out} (there : out ≠ []) (text) : ∃ rest, emit l out text = out ++ rest ∧ (rest = [] ∨ rest.head? = some '\n') := by
  cases text with
  | nil => exact ⟨[],(List.append_nil out).symm,.inl rfl⟩
  | cons line later =>
    obtain ⟨rest,joined⟩ := @emitPrefix l (breakAfter out ++ redactLine l line) later
    refine ⟨'\n'::(redactLine l line ++ rest),?_,.inr rfl⟩
    simpa [emit,breakAfter,there] using joined.symm

/-- A line that is there stands at its place, and a break or the end follows it. -/
theorem emitAround (there : line ≠ []) (before after) : ∃ rest, emit l [] (before ++ line::after) =
    placed l before ++ (redactLine l line ++ rest) ∧ (rest = [] ∨ rest.head? = some '\n') := by
  have nonempty : placed l before ++ redactLine l line ≠ [] := by simp [redactNonempty there]
  obtain ⟨rest,emitted,ends⟩ := @emitRest l _ nonempty after
  exact ⟨rest,by rw [emitPlaced,emitted,List.append_assoc],ends⟩

theorem prefixBefore {whole rest} (plain : '\n' ∉ line) (ends : rest = [] ∨ rest.head? = some '\n')
    (starts : line <+: whole ++ rest) : line <+: whole := by
  obtain shorter | ⟨tail,rfl⟩ := List.prefix_or_prefix_of_prefix starts (List.prefix_append whole rest)
  · exact shorter
  · have left := (List.prefix_append_right_inj whole).mp starts
    cases tail with
    | nil => simp
    | cons c tail =>
      obtain ⟨more,rfl⟩ := left
      simp only [List.cons_append,reduceCtorEq,List.head?_cons,Option.some.injEq,false_or] at ends
      exact absurd (by simp [ends]) plain

theorem redactPlain (plain : '\n' ∉ line) : '\n' ∉ redactLine l line := by
  rw [redactParts,List.mem_append,not_or]
  exact ⟨fun mem => plain ((keptStarts line).subset mem),fun mem => (addedSingle line _ mem).2 rfl⟩

theorem linesPlain (mem : line ∈ lines x) : '\n' ∉ line := by
  have pieces : ∀ piece ∈ x.splitOn '\n', '\n' ∉ piece := fun piece mem inside => by
    simpa using splitPlain mem '\n' inside
  rcases List.mem_append.mp mem with ended | last
  · obtain ⟨piece,there,rfl⟩ := List.mem_map.mp ended
    have plain := pieces piece (List.mem_of_mem_dropLast there)
    unfold stripReturn
    split
    · exact fun inside => plain (List.mem_of_mem_dropLast inside)
    · exact plain
  · have rest := (List.mem_filter.mp last).1
    exact pieces line (List.mem_of_getLast? (by simpa using rest))

/-- Two lines that a text starts with alike are the same, or the text ends within both. -/
theorem sharedStart (plainU : '\n' ∉ u) (plainV : '\n' ∉ v) (endsU : r = [] ∨ r.head? = some '\n') (endsV : r' = [] ∨ r'.head? = some '\n')
    (left : o <+: u ++ r) (right : o <+: v ++ r') : u = v ∨ (o <+: u ∧ o <+: v) := by
  rcases List.prefix_or_prefix_of_prefix left (List.prefix_append u r) with within | whole
  · rcases List.prefix_or_prefix_of_prefix right (List.prefix_append v r') with within' | whole'
    · exact .inr ⟨within,within'⟩
    · exact .inr ⟨within,prefixBefore (fun mem => plainU (within.subset mem)) endsV right⟩
  · have first : u <+: v := prefixBefore plainU endsV (whole.trans right)
    rcases List.prefix_or_prefix_of_prefix right (List.prefix_append v r') with within' | whole'
    · exact .inr ⟨prefixBefore (fun mem => plainV (within'.subset mem)) endsU left,within'⟩
    · have second : v <+: u := prefixBefore plainV endsU (whole'.trans left)
      exact .inl (first.eq_of_length_le second.length_le)

theorem agreeCut (left : c <+: x) (right : c <+: y) (enough : maxDiagnosticLen ≤ byteLength c) :
    truncate maxDiagnosticLen x = truncate maxDiagnosticLen y := by
  obtain ⟨restX,rfl⟩ := left
  obtain ⟨restY,rfl⟩ := right
  exact truncateWithin enough restX restY

theorem markerHides (marker : m.map Char.toLower ∈ markers) (left : lines x = before ++ (a ++ m ++ s)::after)
    (right : lines y = before ++ (a ++ m ++ t)::after) :
    (∀ out out', redactDiagnostic l x = some out → redactDiagnostic l y = some out' → out = out') ↔
      Straddled l x ∨ Straddled l y ∨ SameCut a s t ∨ CutAway l (place l before) (a ++ m ++ s) (a ++ m ++ t) := by
  obtain ⟨there,_⟩ := markerPlain marker
  have some : ∀ s, a ++ m ++ s ≠ [] := by simp [there]
  have plainS : '\n' ∉ a ++ m ++ s := @linesPlain _ x (by simp [left])
  have plainT : '\n' ∉ a ++ m ++ t := @linesPlain _ y (by simp [right])
  obtain ⟨restX,textX,endsX⟩ := @emitAround l _ (some s) before after
  obtain ⟨restY,textY,endsY⟩ := @emitAround l _ (some t) before after
  constructor
  · intro same
    refine or_iff_not_imp_left.mpr (fun soundX => or_iff_not_imp_left.mpr (fun soundY => ?_))
    rw [← straddledIff,← ne_eq,Option.ne_none_iff_exists'] at soundX soundY
    obtain ⟨out,okX⟩ := soundX
    obtain ⟨out',okY⟩ := soundY
    cases same _ _ okX okY
    rw [redactCut,left,textX] at okX
    rw [redactCut,right,textY] at okY
    have cutX := truncateSome okX
    have cutY := truncateSome okY
    by_cases early : maxDiagnosticLen ≤ byteLength (placed l before)
    · exact .inr ⟨[],List.nil_prefix,List.nil_prefix,by rw [← placedLength]; simpa [byteLength] using early⟩
    -- What is shown goes past the start of the line, so it is compared behind that.
    have past : placed l before <+: out := by
      rcases List.prefix_or_prefix_of_prefix cutX.1 (List.prefix_append _ _) with ⟨rest,whole⟩ | past
      · rw [← whole,byteLengthAppend] at early
        exact truncateWhole okX (by omega) ▸ List.prefix_append ..
      · exact past
    obtain ⟨shown,rfl⟩ := past
    have startX := (List.prefix_append_right_inj _).mp cutX.1
    have startY := (List.prefix_append_right_inj _).mp cutY.1
    rcases sharedStart (redactPlain plainS) (redactPlain plainT) endsX endsY startX startY with equal | ⟨inX,inY⟩
    · exact .inl ((sameCutIff marker s t).mp equal)
    · by_cases full : maxDiagnosticLen ≤ byteLength (placed l before ++ shown)
      · rw [byteLengthAppend,placedLength] at full
        rw [redactParts] at inX inY
        exact .inr ⟨shown,inX,inY,full⟩
      · -- Both outputs are whole, so each line is a beginning of the other.
        have wholeX := truncateWhole okX (by omega)
        have wholeY := truncateWhole okY (by omega)
        have ofX : redactLine l (a ++ m ++ s) <+: shown := List.append_cancel_left wholeX ▸ List.prefix_append ..
        have ofY : redactLine l (a ++ m ++ t) <+: shown := List.append_cancel_left wholeY ▸ List.prefix_append ..
        exact .inl ((sameCutIff marker s t).mp ((ofX.trans inY).eq_of_length_le (ofY.trans inX).length_le))
  · intro hidden out out' okX okY
    rcases hidden with stopped | stopped | same | ⟨c,inX,inY,enough⟩
    · rw [(straddledIff _).mpr stopped] at okX
      cases okX
    · rw [(straddledIff _).mpr stopped] at okY
      cases okY
    · rw [redactCut,left,emitPlaced,(sameCutIff marker s t).mpr same,← emitPlaced,← right,← redactCut] at okX
      exact Option.some.inj (okX.symm.trans okY)
    · rw [← redactParts] at inX inY
      have front : ∀ {u rest : List Char}, c <+: u → placed l before ++ c <+: placed l before ++ (u ++ rest) :=
        fun inside => (List.prefix_append_right_inj _).mpr (inside.trans (List.prefix_append ..))
      rw [redactCut,left,textX,agreeCut (front inX) (front inY) (by rw [byteLengthAppend,placedLength]; exact enough),← textY,
        ← right,← redactCut] at okX
      exact Option.some.inj (okX.symm.trans okY)

end Lines

section Pem

variable {l : Lowering} {line x : List Char}

def PemLine (before : List (List Char)) (line : List Char) (after : List (List Char)) : Prop :=
  ∃ outside opened closed rest, before = outside ++ opened ∧ line::after = closed ++ rest ∧
    (∃ first, (opened ++ closed).head? = some first ∧ pemBegin <:+: first) ∧
    (∃ last, closed.getLast? = some last ∧ pemEnd <:+: last) ∧ ∀ other ∈ (opened ++ closed).dropLast, ¬pemEnd <:+: other

/-- At the place of the line the output shows nothing of it, not even its first character. -/
def Absent (l : Lowering) (x : List Char) (before : List (List Char)) (line : List Char) : Prop :=
  ∀ out, redactDiagnostic l x = some out → ∀ c rest, line = c::rest → ¬ placed l before ++ [c] <+: out

def Concealed (l : Lowering) (line : List Char) : Prop := kept l line = [] ∧ line.head? ≠ (added l line).head?

theorem concealedIff : Concealed l (c::rest) ↔ ¬ [c] <+: redactLine l (c::rest) := by
  rw [redactParts,Concealed]
  cases shown : kept l (c::rest) with
  | nil =>
    cases behind : added l (c::rest) with
    | nil =>
      have filled := redactNonempty (List.cons_ne_nil c rest) (l := l)
      rw [redactParts,shown,behind] at filled
      exact absurd rfl filled
    | cons d more => simp [List.cons_prefix_cons]
  | cons d more =>
    have first : d = c := by
      have starts := @keptStarts l (c::rest)
      rw [shown] at starts
      exact (List.cons_prefix_cons.mp starts).1
    simp [first,List.cons_prefix_cons]

theorem absentExact (text : lines x = before ++ line::after) : Absent l x before line ↔
    Straddled l x ∨ Concealed l line ∨ ∀ c rest, line = c::rest → maxDiagnosticLen < place l before + c.utf8Size := by
  cases line with
  | nil => exact ⟨fun _ => .inr (.inr nofun),fun _ _ _ _ _ none => by cases none⟩
  | cons c rest =>
    obtain ⟨more,emitted,_⟩ := @emitAround l _ (List.cons_ne_nil c rest) before after
    have size : byteLength (placed l before ++ [c]) = place l before + c.utf8Size := by
      rw [byteLengthAppend,placedLength]
      simp [byteLength]
    rw [concealedIff,← straddledIff]
    constructor
    · intro absent
      refine or_iff_not_imp_left.mpr (fun returned => or_iff_not_imp_left.mpr (fun shown => ?_))
      rintro d tail parts
      cases parts
      by_contra fits
      obtain ⟨out,ok⟩ := Option.ne_none_iff_exists'.mp returned
      have starts : placed l before ++ [c] <+: emit l [] (lines x) := by
        rw [text,emitted]
        exact (List.prefix_append_right_inj _).mpr ((not_not.mp shown).trans (List.prefix_append ..))
      obtain ⟨later,joined⟩ := starts
      have cut := ok
      rw [redactCut,← joined,truncateAppend later (by omega)] at cut
      obtain ⟨kept,_,rfl⟩ := Option.map_eq_some_iff.mp cut
      exact absent _ ok c rest rfl (List.prefix_append ..)
    · rintro hidden out ok d tail parts shows
      cases parts
      have cut := truncateSome (redactCut l x ▸ ok)
      rcases hidden with gone | concealed | late
      · rw [gone] at ok
        cases ok
      · have starts := shows.trans cut.1
        rw [text,emitted] at starts
        have first := (List.prefix_append_right_inj _).mp starts
        cases form : redactLine l (c::rest) with
        | nil => exact redactNonempty (List.cons_ne_nil c rest) form
        | cons e others =>
          rw [form] at first concealed
          exact concealed (List.cons_prefix_cons.mpr ⟨(List.cons_prefix_cons.mp first).1,List.nil_prefix⟩)
      · obtain ⟨later,rfl⟩ := shows
        have bounded := cut.2.1
        rw [byteLengthAppend,size] at bounded
        have := late c rest rfl
        omega

end Pem

def asciiLowering : Lowering where
  lower text := text.map Char.toLower
  inside a m s _ := ⟨a.map Char.toLower,s.map Char.toLower,by simp⟩
  ascii _ _ := rfl

def keyText : List Char := "-----BEGIN KEY-----\nMIIB\n-----END KEY-----".toList

theorem cutPanics : redactDiagnostic asciiLowering (List.replicate 342 '€') = none := by
  decide +kernel

end OpenPanel.Diagnostics
