import Mathlib.Algebra.Group.Nat.Defs
import Mathlib.Data.List.DropRight

/-! Values every bounded context shares: 128-bit identifiers, UTC instants in
nanoseconds since the epoch, and the string functions of the Rust standard
library that the domain types call. -/
namespace OpenPanel

abbrev Uuid := BitVec 128
def Uuid.nil : Uuid := 0

instance charsLawful : LawfulBEq (List Char) := inferInstance

instance (id : Uuid) (ids : List Uuid) : Decidable (id ∈ ids) := inferInstance

def hexDigit (n : Nat) : Char := if n < 10 then Char.ofNat (48 + n) else Char.ofNat (87 + n)

-- The 32 digits of `Uuid::simple`, most significant first.
def Uuid.digits (id : Uuid) : List Char :=
  (List.range 32).map (fun i => hexDigit ((id.toNat >>> (4 * (31 - i))) % 16))

-- `Uuid::to_string`: groups of 8, 4, 4, 4 and 12 digits.
def Uuid.hyphenated (id : Uuid) : String :=
  let d := id.digits
  String.ofList (d.take 8 ++ '-'::(d.drop 8).take 4 ++ '-'::(d.drop 12).take 4 ++ '-'::(d.drop 16).take 4 ++
    '-'::d.drop 20)

example : Uuid.hyphenated 0x6ba7b8109dad11d180b400c04fd430c8 = "6ba7b810-9dad-11d1-80b4-00c04fd430c8" := by decide

def hexValue (c : Char) : Option Nat :=
  let n := c.toNat
  if 48 ≤ n ∧ n ≤ 57 then some (n - 48)
  else if 97 ≤ n ∧ n ≤ 102 then some (n - 87)
  else if 65 ≤ n ∧ n ≤ 70 then some (n - 55)
  else none

def readHex : Nat → List Char → Option Nat
  | value,[] => some value
  | value,c::rest => match hexValue c with
    | none => none
    | some digit => readHex (value * 16 + digit) rest

namespace Uuid

def parseSimple (text : List Char) : Option Uuid :=
  if text.length = 32 then (readHex 0 text).map (BitVec.ofNat 128) else none

def parseHyphenated (text : List Char) : Option Uuid :=
  if text.length = 36 ∧ [8,13,18,23].all (fun i => text[i]? == some '-') then
    parseSimple (text.take 8 ++ ((text.drop 9).take 4 ++ ((text.drop 14).take 4 ++ ((text.drop 19).take 4 ++
      text.drop 24))))
  else none

-- `Uuid::parse_str`: plain digits, or hyphenated, also in braces or as a URN.
def parse (text : String) : Option Uuid :=
  let chars := text.toList
  if chars.length = 32 then parseSimple chars
  else if chars.length = 36 then parseHyphenated chars
  else if chars.length = 38 ∧ chars.head? = some (Char.ofNat 123) ∧ chars.getLast? = some (Char.ofNat 125) then
    parseHyphenated (chars.drop 1).dropLast
  else if chars.length = 45 ∧ chars.take 9 = "urn:uuid:".toList then parseHyphenated (chars.drop 9)
  else none

end Uuid

theorem hexValueDigit (small : n < 16) : hexValue (hexDigit n) = some n :=
  (by decide : ∀ k < 16, hexValue (hexDigit k) = some k) n small

theorem readHexDigits (k n value) : readHex value ((List.range k).map (fun i => hexDigit ((n >>> (4 * (k - 1 - i))) % 16))) =
      some (value * 16 ^ k + n % 16 ^ k) := by
  induction k generalizing value with
  | zero => simp [readHex,Nat.mod_one]
  | succ k ih =>
    rw [List.range_succ_eq_map]
    simp only [List.map_cons,List.map_map,readHex,hexValueDigit (Nat.mod_lt _ (by decide : 0 < 16)),Function.comp_def]
    have later : ∀ i, k + 1 - 1 - Nat.succ i = k - 1 - i := fun i => by omega
    simp only [later]
    have shifted : n >>> (4 * (k + 1 - 1 - 0)) = n / 16 ^ k := by
      rw [Nat.shiftRight_eq_div_pow,show 4 * (k + 1 - 1 - 0) = 4 * k by omega,Nat.pow_mul]
    have split : n % 16 ^ (k + 1) = n % 16 ^ k + 16 ^ k * (n / 16 ^ k % 16) := by rw [Nat.pow_succ,Nat.mod_mul]
    rw [ih,shifted,split,Nat.pow_succ]
    congr 1
    rw [Nat.add_mul,Nat.mul_assoc,Nat.mul_comm 16,Nat.mul_comm (n / 16 ^ k % 16)]
    omega

theorem parseDigits (id) : Uuid.parseSimple id.digits = some id := by
  have length : id.digits.length = 32 := by simp [Uuid.digits]
  have read : readHex 0 id.digits = some (0 * 16 ^ 32 + id.toNat % 16 ^ 32) := readHexDigits 32 id.toNat 0
  rw [Uuid.parseSimple,if_pos length,read,Nat.zero_mul,Nat.zero_add,Nat.mod_eq_of_lt (Nat.lt_of_lt_of_le id.isLt (by decide))]
  simp

theorem parseGroups (first : a.length = 8) (second : b.length = 4) (third : c.length = 4)
    (fourth : d.length = 4) (fifth : e.length = 12) :
    Uuid.parseHyphenated (a ++ '-'::b ++ '-'::c ++ '-'::d ++ '-'::e) = Uuid.parseSimple (a ++ (b ++ (c ++ (d ++ e)))) := by
  simp [Uuid.parseHyphenated,List.getElem?_append,List.drop_append,List.drop_eq_nil_of_le,first,second,third,fourth,
    fifth]

theorem parseText (id) : Uuid.parse id.hyphenated = some id := by
  have length : id.digits.length = 32 := by simp [Uuid.digits]
  have chars : id.hyphenated.toList.length = 36 := by simp [Uuid.hyphenated,length]
  have whole : id.digits.take 8 ++ ((id.digits.drop 8).take 4 ++ ((id.digits.drop 12).take 4 ++
      ((id.digits.drop 16).take 4 ++ id.digits.drop 20))) = id.digits := by
    have next : ∀ k n, (id.digits.drop k).take n ++ id.digits.drop (k + n) = id.digits.drop k := by
      intro k n
      rw [← List.drop_drop,List.take_append_drop]
    rw [next 16 4,next 12 4,next 8 4,List.take_append_drop]
  rw [Uuid.parse,if_neg (by omega),if_pos chars]
  rw [Uuid.hyphenated,String.toList_ofList,parseGroups,whole,parseDigits] <;> simp [length]

theorem hyphenatedInj {a b : Uuid} (same : a.hyphenated = b.hyphenated) : a = b := by
  have read := parseText a
  rw [same,parseText] at read
  exact (Option.some.inj read).symm

abbrev DateTime := Int
def seconds (n : Int) : Int := n * 1000000000
def days (n : Int) : Int := seconds (n * 86400)

-- What a `chrono::DateTime<Utc>` holds.
def minUtc : DateTime := seconds (-8334601228800)
def maxUtc : DateTime := seconds 8210266876800 - 1

-- `char::is_whitespace`: the Unicode property White_Space.
def isWhitespace (c : Char) : Bool :=
  let n := c.toNat
  (9 ≤ n && n ≤ 13) || n == 32 || n == 133 || n == 160 || n == 5760 || (8192 ≤ n && n ≤ 8202) ||
    n == 8232 || n == 8233 || n == 8239 || n == 8287 || n == 12288

def isAsciiAlphanumeric (c : Char) : Bool :=
  let n := c.toNat
  (48 ≤ n && n ≤ 57) || (65 ≤ n && n ≤ 90) || (97 ≤ n && n ≤ 122)

def isAsciiHexdigit (c : Char) : Bool :=
  let n := c.toNat
  (48 ≤ n && n ≤ 57) || (65 ≤ n && n ≤ 70) || (97 ≤ n && n ≤ 102)

-- `s.trim().is_empty()`.
def trimIsEmpty (s : String) : Bool := s.toList.all isWhitespace

-- `s.split_whitespace().count()`: a word starts after a blank or at the front.
def countWords : Bool → List Char → Nat
  | _,[] => 0
  | inside,c::cs =>
    if isWhitespace c then countWords false cs
    else if inside then countWords true cs else countWords true cs + 1

def splitWhitespaceCount (s : String) : Nat := countWords false s.toList

example : splitWhitespaceCount " */5 *\t* * * " = 5 := by decide

def trim (text : List Char) : List Char := (text.dropWhile isWhitespace).rdropWhile isWhitespace

def byteLength (text : List Char) : Nat := text.foldl (fun n c => n + c.utf8Size) 0

-- `char::is_control`: the Unicode category Cc.
def isControl (c : Char) : Bool := c.toNat < 32 || 127 ≤ c.toNat && c.toNat ≤ 159

def isAsciiLowercase (c : Char) : Bool := 97 ≤ c.toNat && c.toNat ≤ 122
def isAsciiDigit (c : Char) : Bool := 48 ≤ c.toNat && c.toNat ≤ 57

def splitWhitespace (text : List Char) : List (List Char) := (text.splitOnP isWhitespace).filter (fun word => word ≠ [])

def stripReturn (line : List Char) : List Char := if line.getLast? = some '\r' then line.dropLast else line

-- `str::lines`: a carriage return goes with the line feed it stands before, and an empty rest is no line.
def lines (text : List Char) : List (List Char) :=
  let parts := text.splitOn '\n'
  parts.dropLast.map stripReturn ++ parts.getLast?.toList.filter (fun rest => rest ≠ [])

theorem splitPlain {text piece : List Char} (mem : piece ∈ text.splitOnP p) : ∀ c ∈ piece, p c = false := by
  induction text generalizing piece with
  | nil =>
    rw [List.splitOnP_nil,List.mem_singleton] at mem
    simp [mem]
  | cons first rest ih =>
    rw [List.splitOnP_cons_eq_if_modifyHead] at mem
    split at mem
    · rcases List.mem_cons.mp mem with rfl | later
      · simp
      · exact ih later
    · rename_i plain
      cases pieces : rest.splitOnP p with
      | nil => exact absurd pieces (List.splitOnP_ne_nil p rest)
      | cons head tail =>
        rw [pieces] at ih mem
        rcases List.mem_cons.mp mem with rfl | later
        · intro c inside
          rcases List.mem_cons.mp inside with rfl | inside
          · simpa using plain
          · exact ih (by simp) c inside
        · exact ih (List.mem_cons_of_mem _ later)

theorem memSplit {text : List Char} (other : c ≠ sep) : (∃ part ∈ text.splitOn sep, c ∈ part) ↔ c ∈ text := by
  induction text with
  | nil => simp [List.splitOn]
  | cons x rest ih =>
    unfold List.splitOn at ih ⊢
    rw [List.splitOnP_cons_eq_if_modifyHead]
    by_cases here : x = sep
    · simp [ih,here,other]
    · rw [if_neg (by simpa using here)]
      cases parts : rest.splitOnP (fun y => y == sep) with
      | nil => exact absurd parts (List.splitOnP_ne_nil _ _)
      | cons first others =>
        rw [parts] at ih
        simp only [List.modifyHead_cons,List.exists_mem_cons_iff] at ih ⊢
        rw [List.mem_cons,List.mem_cons,or_assoc,ih]

section Characters

variable {good : Char → Prop}

theorem digitsAll (digit : ∀ d < 16, good (Nat.digitChar d)) (small : base ≤ 16) (large : 1 < base) (n) :
    ∀ c ∈ Nat.toDigits base n, good c := by
  induction n using Nat.strong_induction_on with
  | h n ih =>
    rw [Nat.toDigits_eq_if large]
    split
    · intro c mem
      rw [List.mem_singleton.mp mem]
      exact digit n (by omega)
    · have rest : n / base < n := Nat.div_lt_self (by omega) large
      have last : n % base < 16 := Nat.lt_of_lt_of_le (Nat.mod_lt n (by omega)) small
      intro c mem
      rcases List.mem_append.mp mem with front | final
      · exact ih _ rest c front
      · rw [List.mem_singleton.mp final]
        exact digit _ last

theorem intercalateAll {separator : List Char} (between : ∀ c ∈ separator, good c)
    (each : ∀ part ∈ parts, ∀ c ∈ part, good c) : ∀ c ∈ separator.intercalate parts, good c := by
  induction parts with
  | nil => simp
  | cons part rest ih =>
    cases rest with
    | nil => simpa using each part (by simp)
    | cons next rest =>
      rw [List.intercalate_cons_cons]
      have others := ih (fun part mem => each part (List.mem_cons_of_mem _ mem))
      intro c mem
      rcases List.mem_append.mp mem with front | later
      · exact (List.mem_append.mp front).elim (each part (by simp) c) (between c)
      · exact others c later

theorem uuidDigits (digit : ∀ d < 16, good (hexDigit d)) (id : Uuid) : ∀ c ∈ id.digits, good c := by
  intro c mem
  obtain ⟨i,_,rfl⟩ := List.mem_map.mp mem
  exact digit _ (Nat.mod_lt _ (by decide))

theorem hyphenatedAll (digit : ∀ d < 16, good (hexDigit d)) (hyphen : good '-') (id : Uuid) : ∀ c ∈ id.hyphenated.toList, good c := by
  have digits := uuidDigits digit id
  intro c mem
  simp only [Uuid.hyphenated,String.toList_ofList,List.mem_append,List.mem_cons,List.append_assoc] at mem
  rcases mem with front | (rfl | inside) | (rfl | inside) | (rfl | inside) | (rfl | rest)
  · exact digits c (List.mem_of_mem_take front)
  · exact hyphen
  · exact digits c (List.mem_of_mem_drop (List.mem_of_mem_take inside))
  · exact hyphen
  · exact digits c (List.mem_of_mem_drop (List.mem_of_mem_take inside))
  · exact hyphen
  · exact digits c (List.mem_of_mem_drop (List.mem_of_mem_take inside))
  · exact hyphen
  · exact digits c (List.mem_of_mem_drop rest)

end Characters

-- `str::parse` of an unsigned integer: digits, with a plus sign at most.
def parseUnsigned (bound : Nat) (text : List Char) : Option Nat :=
  let digits := if text.head? = some '+' then text.drop 1 else text
  if digits.isEmpty || !digits.all isAsciiDigit then none
  else
    let value := digits.foldl (fun value c => 10 * value + (c.toNat - 48)) 0
    if value < bound then some value else none

/-- What a statement of the database reports. The text is the engine's own; the
driver puts its code in front. -/
inductive DbError where
  | unique (column : String)
  | foreignKey
  | fault (message : String)
  deriving DecidableEq

def DbError.message : DbError → String
  | .unique column => "UNIQUE constraint failed: " ++ column
  | .foreignKey => "FOREIGN KEY constraint failed"
  | .fault message => message

end OpenPanel
