import Mathlib.Data.List.Infix
import Mathlib.Data.List.TakeWhile

/-! Patterns of SQL `LIKE` with an escape character: a percent sign stands for
any text, an underscore for any one character, and every other character for
itself, letters of ASCII in either case. Pattern and text end at the first NUL. -/
namespace LikePatterns

inductive Token where
  | any
  | one
  | char (c : Char)
  | broken
  deriving DecidableEq

def tokenOf (c : Char) : Token := if c = '%' then .any else if c = '_' then .one else .char c

def tokens (escape : Char) : Bool → List Char → List Token
  | true,[] => [.broken]
  | false,[] => []
  | true,c::rest => .char c::tokens escape false rest
  | false,c::rest => if c = escape then tokens escape true rest else tokenOf c::tokens escape false rest

def lower (n : Nat) : Nat := if 65 ≤ n ∧ n ≤ 90 then n + 32 else n

def sameLetter (a b : Char) : Bool := a == b || a.toNat < 128 && b.toNat < 128 && lower a.toNat == lower b.toNat

def likes : List Token → List Char → Bool
  | [],text => text.isEmpty
  | .any::rest,text => text.tails.any (likes rest)
  | .one::rest,text => match text with
    | [] => false
    | _::more => likes rest more
  | .char c::rest,text => match text with
    | [] => false
    | d::more => sameLetter c d && likes rest more
  | .broken::_,_ => false

def ended (text : List Char) : List Char := text.takeWhile (fun c => c ≠ Char.ofNat 0)

def like (escape : Char) (pattern text : List Char) : Bool := likes (tokens escape false (ended pattern)) (ended text)

def quote (escape : Char) (text : List Char) : List Char := text.flatMap (fun c => if c = escape then [c,c] else [c])

theorem likesAny : likes (.any::rest) text = true ↔ ∃ front back, text = front ++ back ∧ likes rest back = true := by
  simp only [likes,List.any_eq_true,List.mem_tails]
  constructor
  · rintro ⟨back,⟨front,rfl⟩,matched⟩
    exact ⟨front,back,rfl,matched⟩
  · rintro ⟨front,back,rfl,matched⟩
    exact ⟨back,⟨front,rfl⟩,matched⟩

theorem likesEnd (text) : likes [.any] text = true :=
  likesAny.mpr ⟨text,[],by simp,rfl⟩

theorem sameLetterSelf (c) : sameLetter c c = true := by simp [sameLetter]

theorem likesSelf (v) (matched : likes rest text = true) : likes (v.map tokenOf ++ rest) (v ++ text) = true := by
  induction v with
  | nil => exact matched
  | cons c v ih =>
    simp only [List.map_cons,List.cons_append,tokenOf]
    split_ifs
    · exact likesAny.mpr ⟨[c],v ++ text,rfl,ih⟩
    · exact ih
    · simp only [likes,sameLetterSelf,Bool.true_and,ih]

def letter (c : Char) : Bool := (65 ≤ c.toNat && c.toNat ≤ 90) || (97 ≤ c.toNat && c.toNat ≤ 122)

def plain (c : Char) : Bool := c ≠ '%' && c ≠ '_' && c ≠ Char.ofNat 0 && !letter c

theorem sameLetterPlain (alone : letter c = false) : sameLetter c d = true ↔ c = d := by
  refine ⟨fun same => ?_,fun same => same ▸ sameLetterSelf c⟩
  simp only [sameLetter,Bool.or_eq_true,beq_iff_eq,Bool.and_eq_true] at same
  rcases same with same | ⟨_,same⟩
  · exact same
  · apply Char.toNat_inj.mp
    simp only [letter,Bool.or_eq_false_iff,Bool.and_eq_false_iff,decide_eq_false_iff_not] at alone
    simp only [lower] at same
    split_ifs at same <;> omega

def swapCase (n : Nat) : Char := Char.ofNat (if n < 97 then n + 32 else n - 32)

theorem otherCase (both : letter c = true) : ∃ d, d ≠ c ∧ d ≠ Char.ofNat 0 ∧ sameLetter c d = true := by
  have ascii : c.toNat < 128 := by
    simp only [letter,Bool.or_eq_true,Bool.and_eq_true,decide_eq_true_eq] at both
    omega
  have all : ∀ n < 128, letter (Char.ofNat n) = true →
      swapCase n ≠ Char.ofNat n ∧ swapCase n ≠ Char.ofNat 0 ∧ sameLetter (Char.ofNat n) (swapCase n) = true := by
    decide +kernel
  have found := all c.toNat ascii
  rw [Char.ofNat_toNat] at found
  exact ⟨swapCase c.toNat,found both⟩

theorem tokenPlain (itself : plain c = true) : tokenOf c = .char c ∧ letter c = false := by
  simp only [plain,Bool.and_eq_true,decide_eq_true_eq,Bool.not_eq_true'] at itself
  exact ⟨by simp [tokenOf,itself.1.1.1,itself.1.1.2],itself.2⟩

theorem likesPlain (itself : ∀ c ∈ v, plain c = true) :
    likes (v.map tokenOf ++ rest) text = true ↔ ∃ back, text = v ++ back ∧ likes rest back = true := by
  induction v generalizing text with
  | nil => simp
  | cons c v ih =>
    obtain ⟨same,alone⟩ := tokenPlain (itself c List.mem_cons_self)
    simp only [List.map_cons,List.cons_append,same]
    cases text with
    | nil => simp [likes]
    | cons d more =>
      simp only [likes,Bool.and_eq_true,sameLetterPlain alone,ih (fun d mem => itself d (List.mem_cons_of_mem _ mem)),
        List.cons.injEq]
      constructor
      · rintro ⟨rfl,back,rfl,matched⟩
        exact ⟨back,⟨rfl,rfl⟩,matched⟩
      · rintro ⟨back,⟨rfl,rfl⟩,matched⟩
        exact ⟨rfl,back,rfl,matched⟩

section Quoting

variable {v text : List Char}

theorem tokensQuoted (special : tokenOf escape = .char escape) (v rest) :
    tokens escape false (quote escape v ++ rest) = v.map tokenOf ++ tokens escape false rest := by
  induction v with
  | nil => rfl
  | cons c v ih =>
    have step : quote escape (c::v) = (if c = escape then [c,c] else [c]) ++ quote escape v := rfl
    rw [step,List.append_assoc,List.map_cons,List.cons_append]
    by_cases hit : c = escape
    · subst hit
      simp only [if_pos,List.cons_append,List.nil_append,tokens,ih,special]
    · simp only [if_neg hit,List.cons_append,List.nil_append,tokens,ih]

theorem endedOf (rest) (free : ∀ c ∈ front, c ≠ Char.ofNat 0) : ended (front ++ rest) = front ++ ended rest :=
  List.takeWhile_append_of_pos (by simpa using free)

theorem endedSelf (free : ∀ c ∈ text, c ≠ Char.ofNat 0) : ended text = text := by
  simpa [ended] using endedOf [] free

theorem quoteFree (free : ∀ c ∈ v, c ≠ Char.ofNat 0) : ∀ c ∈ quote escape v, c ≠ Char.ofNat 0 := by
  intro c mem
  obtain ⟨d,inside,here⟩ := List.mem_flatMap.mp mem
  have same : c = d := by
    split at here <;> simp at here <;> exact here
  exact same ▸ free d inside

def holding (escape : Char) (v : List Char) : List Char := '%'::(quote escape v ++ ['%'])

theorem quoteAppend (v w) : quote escape (v ++ w) = quote escape v ++ quote escape w := List.flatMap_append

theorem nulFreePercent (free : ∀ c ∈ front, c ≠ Char.ofNat 0) : ∀ c ∈ '%'::quote escape front, c ≠ Char.ofNat 0 := by
  intro c mem
  rcases List.mem_cons.mp mem with rfl | mem
  · decide
  · exact quoteFree free c mem

theorem tokensHolding (special : tokenOf escape = .char escape) (percent : escape ≠ '%') (free : ∀ c ∈ v, c ≠ Char.ofNat 0) :
    tokens escape false (ended (holding escape v)) = .any::(v.map tokenOf ++ [.any]) := by
  have whole : ended (holding escape v) = '%'::(quote escape v ++ ['%']) := endedOf ['%'] (nulFreePercent free)
  rw [whole,tokens,if_neg (Ne.symm percent),tokensQuoted special]
  simp [tokens,Ne.symm percent,tokenOf]

-- The pattern ends where the NUL stands, and with it the percent sign at its end.
theorem tokensCut (special : tokenOf escape = .char escape) (percent : escape ≠ '%') (notEscape : escape ≠ Char.ofNat 0)
    (free : ∀ c ∈ front, c ≠ Char.ofNat 0) :
    tokens escape false (ended (holding escape (front ++ Char.ofNat 0::back))) = .any::front.map tokenOf := by
  have nul : quote escape (Char.ofNat 0::back) = Char.ofNat 0::quote escape back := by
    simp [quote,Ne.symm notEscape]
  have parts : holding escape (front ++ Char.ofNat 0::back) =
      ('%'::quote escape front) ++ (Char.ofNat 0::(quote escape back ++ ['%'])) := by
    simp [holding,quoteAppend,nul]
  have whole : ended (holding escape (front ++ Char.ofNat 0::back)) = '%'::(quote escape front ++ []) := by
    rw [parts,endedOf _ (nulFreePercent free)]
    simp [ended]
  rw [whole,tokens,if_neg (Ne.symm percent),tokensQuoted special]
  simp [tokens,tokenOf]

theorem plainNotNul (itself : ∀ c ∈ v, plain c = true) : ∀ c ∈ v, c ≠ Char.ofNat 0 := by
  intro c mem
  have known := itself c mem
  simp only [plain,Bool.and_eq_true,decide_eq_true_eq] at known
  exact known.1.2

theorem likeHolding (special : tokenOf escape = .char escape) (percent : escape ≠ '%')
    (itself : ∀ c ∈ v, plain c = true) (free : ∀ c ∈ text, c ≠ Char.ofNat 0) :
    like escape (holding escape v) text = true ↔ v <:+: text := by
  rw [like,tokensHolding special percent (plainNotNul itself),endedSelf free,likesAny]
  simp only [likesPlain itself]
  constructor
  · rintro ⟨front,_,rfl,back,rfl,_⟩
    exact ⟨front,back,by simp⟩
  · rintro ⟨front,back,rfl⟩
    exact ⟨front,v ++ back,by simp,back,rfl,likesEnd back⟩

theorem wideToken (wide : plain c = false) (notNul : c ≠ Char.ofNat 0) :
    tokenOf c = .any ∨ ∃ d, d ≠ c ∧ d ≠ Char.ofNat 0 ∧ ∀ rest text, likes rest text = true → likes (tokenOf c::rest) (d::text) = true := by
  by_cases percent : c = '%'
  · exact .inl (by simp [tokenOf,percent])
  right
  by_cases underscore : c = '_'
  · refine ⟨'0',by simp [underscore],by decide,fun rest text matched => ?_⟩
    simpa [tokenOf,underscore,likes] using matched
  · have both : letter c = true := by simpa [plain,percent,underscore,notNul] using wide
    obtain ⟨d,other,free,same⟩ := otherCase both
    refine ⟨d,other,free,fun rest text matched => ?_⟩
    simp [tokenOf,percent,underscore,likes,same,matched]

theorem likeReplaced (special : tokenOf escape = .char escape) (percent : escape ≠ '%')
    (middle) (free : ∀ d ∈ front ++ c::back, d ≠ Char.ofNat 0) (notNul : ∀ d ∈ middle, d ≠ Char.ofNat 0)
    (letIn : likes (tokenOf c::(back.map tokenOf ++ [.any])) (middle ++ back) = true) :
    (∀ d ∈ front ++ (middle ++ back), d ≠ Char.ofNat 0) ∧
      like escape (holding escape (front ++ c::back)) (front ++ (middle ++ back)) = true := by
  have whole : ∀ d ∈ front ++ (middle ++ back), d ≠ Char.ofNat 0 := by
    intro d inside
    rcases List.mem_append.mp inside with inside | inside
    · exact free d (List.mem_append_left _ inside)
    · rcases List.mem_append.mp inside with inside | inside
      · exact notNul d inside
      · exact free d (List.mem_append_right _ (List.mem_cons_of_mem _ inside))
  refine ⟨whole,?_⟩
  rw [like,tokensHolding special percent free,endedSelf whole,likesAny]
  refine ⟨[],_,rfl,?_⟩
  simp only [List.map_append,List.map_cons,List.append_assoc,List.cons_append]
  exact likesSelf front letIn

theorem likeWider (special : tokenOf escape = .char escape) (percent : escape ≠ '%') (notEscape : escape ≠ Char.ofNat 0)
    (mem : c ∈ v) (wide : plain c = false) :
    ∃ text, (∀ d ∈ text, d ≠ Char.ofNat 0) ∧ like escape (holding escape v) text = true ∧ ¬ v <:+: text := by
  by_cases nul : Char.ofNat 0 ∈ v
  · -- The text up to the first NUL is let in, since no percent sign follows it.
    obtain ⟨front,back,rfl,first⟩ := List.eq_append_cons_of_mem nul
    have free : ∀ c ∈ front, c ≠ Char.ofNat 0 := fun c inside same => first (same ▸ inside)
    have itself : likes (front.map tokenOf ++ []) (front ++ []) = true := likesSelf front rfl
    refine ⟨front,free,?_,fun held => first (held.subset nul)⟩
    rw [like,tokensCut special percent notEscape free,endedSelf free,likesAny]
    exact ⟨[],front,rfl,by simpa using itself⟩
  · have free : ∀ d ∈ v, d ≠ Char.ofNat 0 := fun d inside same => nul (same ▸ inside)
    obtain ⟨front,back,rfl⟩ := List.append_of_mem mem
    have behind : likes (back.map tokenOf ++ [.any]) back = true := by
      simpa using likesSelf back (likesEnd [])
    rcases wideToken wide (free c mem) with any | ⟨d,other,notNul,letIn⟩
    · -- The text without the character is shorter than the value.
      have matched := likeReplaced special percent [] free (by simp)
        (any ▸ likesAny.mpr ⟨[],back,rfl,behind⟩)
      refine ⟨_,matched.1,matched.2,fun held => ?_⟩
      have short := held.length_le
      simp only [List.length_append,List.length_cons,List.length_nil] at short
      omega
    · -- The text with the other character is as long as the value and not equal to it.
      have matched := likeReplaced special percent [d] free (by simpa using notNul) (letIn _ _ behind)
      refine ⟨_,matched.1,matched.2,fun held => other ?_⟩
      have same := held.eq_of_length (by simp)
      simpa using same.symm

end Quoting
end LikePatterns
