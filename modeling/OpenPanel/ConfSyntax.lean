import Mathlib.Algebra.GroupWithZero.Nat
import Mathlib.Data.List.Basic

/-! Configuration files of directives and blocks, in the lexical rules of nginx. A
word is kept as it is written, without the quotes around it. `Reads` says what a piece
of a text is read as, whatever comes after it, and under which condition on its values. -/
namespace ConfSyntax

inductive Token where
  | word (text : List Char)
  | semi
  | opening
  | closing
  deriving DecidableEq

inductive Mode where
  | gap
  | comment
  | word (text : List Char) (dollar escaped : Bool)
  | quoted (quote : Char) (text : List Char) (escaped : Bool)
  | closed
  deriving DecidableEq

def blank (c : Char) : Bool := c == ' ' || c == '\t' || c == '\r' || c == '\n'

def stop (c : Char) : Bool := blank c || c == ';' || c == '\x7b'

def delimiter (c : Char) : List Token := if c == ';' then [.semi] else if c == '\x7b' then [.opening] else []

def step : Mode → Char → Option (List Token × Mode)
  | .gap,c =>
    if stop c then some (delimiter c,.gap)
    else if c == '\x7d' then some ([.closing],.gap)
    else if c == '#' then some ([],.comment)
    else if c == '"' || c == '\x27' then some ([],.quoted c [] false)
    else some ([],.word [c] (c == '$') (c == '\\'))
  | .comment,c => some ([],if c == '\n' then .gap else .comment)
  | .word text dollar true,c => some ([],.word (text ++ [c]) dollar false)
  | .word text dollar false,c =>
    if c == '\x7b' && dollar then some ([],.word (text ++ [c]) true false)
    else if stop c then some (.word text::delimiter c,.gap)
    else some ([],.word (text ++ [c]) (c == '$') (c == '\\'))
  | .quoted quote text true,c => some ([],.quoted quote (text ++ [c]) false)
  | .quoted quote text false,c =>
    if c == quote then some ([.word text],.closed) else some ([],.quoted quote (text ++ [c]) (c == '\\'))
  -- After a closing quote only a separator may come, or the parenthesis of a condition.
  | .closed,c =>
    if stop c then some (delimiter c,.gap)
    else if c == ')' then some ([],.word [c] false false)
    else none

def scan : Mode → List Char → Option (List Token × Mode)
  | m,[] => some ([],m)
  | m,c::rest => do
    let (tokens,next) ← step m c
    let (more,last) ← scan next rest
    some (tokens ++ more,last)

def finished : Mode → Bool
  | .gap | .comment => true
  | _ => false

def lex (m : Mode) (text : List Char) : Option (List Token) := do
  let (tokens,last) ← scan m text
  if finished last then some tokens else none

inductive Directive where
  | simple (args : List (List Char))
  | block (args : List (List Char)) (body : List Directive)

mutual

def Directive.tokens : Directive → List Token
  | .simple args => args.map .word ++ [.semi]
  | .block args body => args.map .word ++ .opening::(tokensAll body ++ [.closing])

def tokensAll : List Directive → List Token
  | [] => []
  | d::rest => d.tokens ++ tokensAll rest

end

structure Parsing where
  args : List (List Char)
  done : List Directive
  outer : List (List (List Char) × List Directive)

def parseToken (p : Parsing) : Token → Option Parsing
  | .word text => some {p with args := p.args ++ [text]}
  | .semi => if p.args = [] then none else some ⟨[],p.done ++ [.simple p.args],p.outer⟩
  | .opening => if p.args = [] then none else some ⟨[],[],(p.args,p.done)::p.outer⟩
  | .closing => match p.args,p.outer with
    | [],(args,before)::outer => some ⟨[],before ++ [.block args p.done],outer⟩
    | _,_ => none

def parseTokens (p : Parsing) : List Token → Option Parsing
  | [] => some p
  | t::rest => (parseToken p t).bind (fun next => parseTokens next rest)

def parse (tokens : List Token) : Option (List Directive) :=
  match parseTokens ⟨[],[],[]⟩ tokens with
  | some ⟨[],done,[]⟩ => some done
  | _ => none

def read (text : List Char) : Option (List Directive) := (lex .gap text).bind parse

def Parsing.given (p : Parsing) : List Token :=
  p.outer.reverse.flatMap (fun level => tokensAll level.2 ++ level.1.map .word ++ [.opening]) ++
    (tokensAll p.done ++ p.args.map .word)

theorem tokensAllAppend (ds es) : tokensAll (ds ++ es) = tokensAll ds ++ tokensAll es := by
  induction ds with
  | nil => rfl
  | cons d ds ih => rw [List.cons_append,tokensAll,tokensAll,ih,List.append_assoc]

theorem tokenGiven (ok : parseToken p t = some next) : next.given = p.given ++ [t] := by
  cases t with
  | word text =>
    cases ok
    simp [Parsing.given]
  | semi =>
    simp only [parseToken] at ok
    split at ok <;> try contradiction
    cases ok
    simp [Parsing.given,tokensAllAppend,tokensAll,Directive.tokens]
  | opening =>
    simp only [parseToken] at ok
    split at ok <;> try contradiction
    cases ok
    simp [Parsing.given,tokensAll]
  | closing =>
    simp only [parseToken] at ok
    split at ok <;> try contradiction
    rename_i args before outer empty inside
    cases ok
    simp [Parsing.given,empty,inside,tokensAllAppend,tokensAll,Directive.tokens]

theorem tokensGiven (ok : parseTokens p tokens = some last) : last.given = p.given ++ tokens := by
  induction tokens generalizing p with
  | nil =>
    cases ok
    rw [List.append_nil]
  | cons t rest ih =>
    obtain ⟨next,first,later⟩ := Option.bind_eq_some_iff.mp ok
    rw [ih later,tokenGiven first,List.append_assoc,List.singleton_append]

theorem parsedTokens (ok : parse tokens = some ds) : tokensAll ds = tokens := by
  unfold parse at ok
  split at ok <;> try contradiction
  rename_i done parsed
  cases ok
  simpa [Parsing.given,tokensAll] using tokensGiven parsed

theorem tokensAllFlatMap (f) (xs : List α) : tokensAll (xs.flatMap f) = xs.flatMap (fun x => tokensAll (f x)) := by
  induction xs with
  | nil => rfl
  | cons x rest ih => rw [List.flatMap_cons,List.flatMap_cons,tokensAllAppend,ih]

theorem tokensAllMap (f) (xs : List α) : tokensAll (xs.map f) = xs.flatMap (fun x => (f x).tokens) := by
  induction xs with
  | nil => rfl
  | cons x rest ih => rw [List.map_cons,List.flatMap_cons,tokensAll,ih]

mutual

def Directive.Named : Directive → Prop
  | .simple args => args ≠ []
  | .block args body => args ≠ [] ∧ NamedAll body

def NamedAll : List Directive → Prop
  | [] => True
  | d::rest => d.Named ∧ NamedAll rest

end

theorem namedAll : NamedAll ds ↔ ∀ d ∈ ds, d.Named := by
  induction ds with
  | nil => simp [NamedAll]
  | cons d rest ih => simp [NamedAll,ih]

theorem namedAppend : NamedAll (ds ++ es) ↔ NamedAll ds ∧ NamedAll es := by
  simp [namedAll,or_imp,forall_and]

theorem parseTokensAppend (p) (a b) : parseTokens p (a ++ b) = (parseTokens p a).bind (fun mid => parseTokens mid b) := by
  induction a generalizing p with
  | nil => rfl
  | cons t rest ih =>
    rw [List.cons_append,parseTokens,parseTokens,Option.bind_assoc]
    exact congrArg (Option.bind _) (funext ih)

theorem parseWords (p) (args) : parseTokens p (args.map .word) = some {p with args := p.args ++ args} := by
  induction args generalizing p with
  | nil => simp [parseTokens]
  | cons text rest ih => simp [parseTokens,parseToken,ih]

mutual

theorem parseDirective (done) (outer : List (List (List Char) × List Directive)) (d)
    (named : d.Named) : parseTokens ⟨[],done,outer⟩ d.tokens = some ⟨[],done ++ [d],outer⟩ := by
  cases d with
  | simple args =>
    have present : args ≠ [] := by simpa [Directive.Named] using named
    rw [Directive.tokens,parseTokensAppend,parseWords]
    simp [parseTokens,parseToken,present]
  | block args body =>
    obtain ⟨present,inside⟩ : args ≠ [] ∧ NamedAll body := by simpa [Directive.Named] using named
    rw [Directive.tokens,parseTokensAppend,parseWords]
    have body' := parseDirectives [] ((args,done)::outer) body inside
    simp [parseTokens,parseToken,present,parseTokensAppend,body']

theorem parseDirectives (done) (outer : List (List (List Char) × List Directive)) (ds)
    (named : NamedAll ds) : parseTokens ⟨[],done,outer⟩ (tokensAll ds) = some ⟨[],done ++ ds,outer⟩ := by
  cases ds with
  | nil => simp [tokensAll,parseTokens]
  | cons d rest =>
    obtain ⟨first,later⟩ : d.Named ∧ NamedAll rest := by simpa [NamedAll] using named
    rw [tokensAll,parseTokensAppend,parseDirective done outer d first,Option.bind_some,parseDirectives _ outer rest later,
      List.append_assoc,List.singleton_append]

end

theorem readIff (named : NamedAll ds) : read text = some ds ↔ lex .gap text = some (tokensAll ds) := by
  constructor
  · intro ok
    obtain ⟨tokens,lexed,parsed⟩ := Option.bind_eq_some_iff.mp ok
    rw [parsedTokens parsed,lexed]
  · intro lexed
    rw [read,lexed,Option.bind_some,parse,parseDirectives [] [] ds named,List.nil_append]

section Pieces

theorem lexCons (m) (c) (rest) : lex m (c::rest) = (step m c).bind (fun one => (lex one.2 rest).map (one.1 ++ ·)) := by
  rcases stepped : step m c with _ | ⟨tokens,next⟩
  · simp [lex,scan,stepped]
  · rcases scanned : scan next rest with _ | ⟨more,last⟩
    · simp [lex,scan,stepped,scanned]
    · cases ended : finished last <;> simp [lex,scan,stepped,scanned,ended]

theorem lexAppend (m) (text rest) : lex m (text ++ rest) = (scan m text).bind (fun one => (lex one.2 rest).map (one.1 ++ ·)) := by
  induction text generalizing m with
  | nil => simp [scan]
  | cons c text ih =>
    rw [List.cons_append,lexCons]
    cases one : step m c with
    | none => simp [scan,one]
    | some next =>
      rw [Option.bind_some,ih]
      cases more : scan next.2 text <;> simp [scan,one,more,Function.comp_def]

theorem lexScan (ok : scan m text = some (tokens,next)) : lex m (text ++ rest) = (lex next rest).map (tokens ++ ·) := by
  rw [lexAppend,ok,Option.bind_some]

/-- From the mode, the text is read as the tokens and leaves the next mode, whatever
follows; where the condition fails, nothing that follows makes up for it. -/
def Reads (m : Mode) (text : List Char) (tokens : List Token) (cond : Prop) (next : Mode) : Prop :=
  ∀ rest expected, lex m (text ++ rest) = some (tokens ++ expected) ↔ cond ∧ lex next rest = some expected

variable {tokens more : List Token} {cond cond' : Prop}

theorem mapAppend : found.map (tokens ++ ·) = some (tokens ++ expected) ↔ found = some expected := by
  cases found <;> simp

theorem literal (ok : scan m text = some (tokens,next)) : Reads m text tokens True next := by
  intro rest expected
  rw [lexScan ok,mapAppend,true_and]

namespace Reads

theorem nothing : Reads m [] [] True m := literal rfl

theorem andThen (first : Reads m text tokens cond mid) (second : Reads mid other more cond' next) :
    Reads m (text ++ other) (tokens ++ more) (cond ∧ cond') next := by
  intro rest expected
  rw [List.append_assoc,List.append_assoc,first,second,and_assoc]

theorem cast (reads : Reads m text tokens cond next) (same : tokens = more) (iff : cond ↔ cond') : Reads m text more cond' next := by
  intro rest expected
  rw [← same,reads,iff]

theorem ofText (reads : Reads m text tokens cond next) (same : other = text) : Reads m other tokens cond next := same ▸ reads

theorem each {f : α → List Char} {g : α → List Token} {clean : α → Prop} {xs : List α}
    (one : ∀ x ∈ xs, Reads m (f x) (g x) (clean x) m) : Reads m (xs.flatMap f) (xs.flatMap g) (∀ x ∈ xs, clean x) m := by
  induction xs with
  | nil => exact nothing.cast rfl (by simp)
  | cons x rest ih =>
    have first := one x List.mem_cons_self
    have later := ih (fun y mem => one y (List.mem_cons_of_mem _ mem))
    exact (first.andThen later).cast rfl (by simp)

theorem whole (reads : Reads .gap text tokens cond .gap) : lex .gap text = some tokens ↔ cond := by
  have all := reads [] []
  rw [List.append_nil,List.append_nil] at all
  rw [all]
  exact and_iff_left rfl

end Reads

theorem comments (oneLine : '\n' ∉ text) : Reads .comment text [] True .comment := by
  refine literal ?_
  induction text with
  | nil => rfl
  | cons c rest ih =>
    obtain ⟨here,later⟩ := List.ne_and_not_mem_of_not_mem_cons oneLine
    simp [scan,step,Ne.symm here,ih later]

end Pieces

section Collecting

variable {advance : φ → Char → Option φ}

structure Collects (mode : List Char → φ → Mode) (advance : φ → Char → Option φ) : Prop where
  unfinished : ∀ text s, finished (mode text s) = false
  further : ∀ {text s c s'}, advance s c = some s' → step (mode text s) c = some ([],mode (text ++ [c]) s')
  ended : ∀ {text s c}, advance s c = none → ∃ more next, step (mode text s) c = some (.word text::more,next)

namespace Collects

variable (collects : Collects mode advance)
include collects

theorem scanned (walked : value.foldlM advance s = some last) (text) :
    scan (mode text s) value = some ([],mode (text ++ value) last) := by
  induction value generalizing s text with
  | nil =>
    cases walked
    simp [scan]
  | cons c rest ih =>
    obtain ⟨mid,first,later⟩ := Option.bind_eq_some_iff.mp walked
    simp [scan,collects.further first,ih later (text ++ [c])]

theorem grows (lexed : lex (mode text s) rest = some tokens) : ∃ more later, tokens = .word (text ++ more)::later := by
  induction rest generalizing text s with
  | nil => simp [lex,scan,collects.unfinished] at lexed
  | cons c rest ih =>
    rw [lexCons] at lexed
    cases goes : advance s c with
    | none =>
      obtain ⟨more,next,given⟩ := collects.ended goes
      rw [given] at lexed
      obtain ⟨found,_,rfl⟩ := Option.map_eq_some_iff.mp lexed
      exact ⟨[],_,by simp; rfl⟩
    | some mid =>
      rw [collects.further goes] at lexed
      obtain ⟨found,again,rfl⟩ := Option.map_eq_some_iff.mp lexed
      obtain ⟨more,later,rfl⟩ := ih again
      exact ⟨c::more,later,by simp⟩

theorem short (broken : value.foldlM advance s = none) (lexed : lex (mode text s) (value ++ rest) = some tokens) :
    ∃ part later, tokens = .word (text ++ part)::later ∧ part.length < value.length := by
  induction value generalizing text s with
  | nil => cases broken
  | cons c value ih =>
    rw [List.cons_append,lexCons] at lexed
    cases goes : advance s c with
    | none =>
      obtain ⟨more,next,given⟩ := collects.ended goes
      rw [given] at lexed
      obtain ⟨found,_,rfl⟩ := Option.map_eq_some_iff.mp lexed
      exact ⟨[],_,by simp; rfl,by simp⟩
    | some mid =>
      rw [collects.further goes] at lexed
      obtain ⟨found,again,rfl⟩ := Option.map_eq_some_iff.mp lexed
      rw [List.foldlM_cons,goes] at broken
      obtain ⟨part,later,rfl,short⟩ := ih broken again
      exact ⟨c::part,later,by simp,by simpa using short⟩

theorem reads (after : ∀ text s more, advance s c = none →
      lex (mode text s) (c::(tail ++ more)) = (lex next more).map ((.word text::tokens) ++ ·)) :
    Reads (mode text s) (value ++ c::tail) (.word (text ++ value)::tokens)
      (∃ last, value.foldlM advance s = some last ∧ advance last c = none) next := by
  intro more expected
  rw [List.append_assoc]
  cases walked : value.foldlM advance s with
  | none =>
    refine iff_of_false (fun lexed => ?_) (by simp)
    obtain ⟨part,later,same,short⟩ := collects.short walked lexed
    simp only [List.cons_append,List.cons.injEq,Token.word.injEq,List.append_cancel_left_eq] at same
    rw [same.1] at short
    exact Nat.lt_irrefl _ short
  | some last =>
    rw [lexScan (collects.scanned walked text)]
    simp only [List.nil_append,Option.map_id_fun',id,Option.some.injEq,exists_eq_left',List.cons_append]
    cases goes : advance last c with
    | none =>
      rw [after _ _ _ goes]
      cases lex next more <;> simp
    | some further =>
      refine iff_of_false (fun lexed => ?_) (by simp)
      rw [lexCons,collects.further goes] at lexed
      obtain ⟨found,again,same⟩ := Option.map_eq_some_iff.mp lexed
      obtain ⟨grown,later,rfl⟩ := collects.grows again
      simp at same

end Collects

end Collecting

def walk (dollar : Bool) : Bool → List Char → Option (Bool × Bool)
  | escaped,[] => some (dollar,escaped)
  | true,_::rest => walk dollar false rest
  | false,c::rest =>
    if c == '\x7b' && dollar then walk true false rest
    else if stop c then none
    else walk (c == '$') (c == '\\') rest

def Settles (dollar escaped : Bool) (value : List Char) : Prop := ∃ last, walk dollar escaped value = some (last,false)

def Bare (value : List Char) : Prop := Settles false false value

def Unbroken (value : List Char) : Prop := (walk false false value).isSome = true

instance (dollar escaped value) : Decidable (Settles dollar escaped value) := by
  unfold Settles; infer_instance

instance (value) : Decidable (Bare value) := by unfold Bare; infer_instance

instance (value) : Decidable (Unbroken value) := by unfold Unbroken; infer_instance

def separator (c : Char) : Bool := blank c || c == ';'

def opens (c : Char) : Bool := !stop c && c != '\x7d' && c != '#' && c != '"' && c != '\x27'

def special : List Char := [' ','\t','\r','\n',';','\x7b','\x7d','#','"','\x27','\\','$']

def ordinary (c : Char) : Bool := !special.contains c

theorem walkAppend (dollar escaped) (a b) :
    walk dollar escaped (a ++ b) = (walk dollar escaped a).bind (fun flags => walk flags.1 flags.2 b) := by
  induction a generalizing dollar escaped with
  | nil => cases escaped <;> simp [walk]
  | cons c a ih =>
    cases escaped with
    | true => exact ih dollar false
    | false =>
      simp only [List.cons_append,walk]
      split
      · exact ih true false
      · split
        · rfl
        · exact ih _ _

def wordGoes : Bool × Bool → Char → Option (Bool × Bool)
  | (dollar,true),_ => some (dollar,false)
  | (dollar,false),c =>
    if c == '\x7b' && dollar then some (true,false)
    else if stop c then none
    else some (c == '$',c == '\\')

theorem walkFold : walk dollar escaped value = value.foldlM wordGoes (dollar,escaped) := by
  induction value generalizing dollar escaped with
  | nil => cases escaped <;> rfl
  | cons c rest ih =>
    cases escaped with
    | true => exact ih
    | false =>
      simp only [walk,List.foldlM_cons,wordGoes,ih]
      split
      · rfl
      · split <;> rfl

theorem wordCollects : Collects (fun text flags => .word text flags.1 flags.2) wordGoes where
  unfinished _ _ := rfl
  further {text flags c _} goes := by
    obtain ⟨dollar,_ | _⟩ := flags
    · simp only [wordGoes] at goes
      split at goes
      · rename_i brace
        cases goes
        simp [step,brace]
      · split at goes <;> cases goes
        rename_i brace inside
        simp only [step,if_neg brace,if_neg inside]
    · cases goes
      rfl
  ended {text flags c} past := by
    obtain ⟨dollar,_ | _⟩ := flags
    · simp only [wordGoes] at past
      split at past
      · cases past
      · split at past <;> cases past
        rename_i brace stops
        exact ⟨delimiter c,.gap,by simp only [step,if_neg brace,if_pos stops]⟩
    · cases past

def Closes (rest : List Char) (tokens : List Token) (next : Mode) : Prop :=
  rest.head?.any separator = true ∧ scan .gap rest = some (tokens,next)

instance (rest tokens next) : Decidable (Closes rest tokens next) := by unfold Closes; infer_instance

theorem separatorStops (ends : separator c = true) : stop c = true ∧ (c == '\x7b') = false := by
  unfold separator at ends
  refine ⟨by rw [stop,ends,Bool.true_or],beq_eq_false_iff_ne.mpr ?_⟩
  rintro rfl
  exact absurd ends (by decide)

theorem Reads.inWord (closes : Closes rest tokens next) :
    Reads (.word text dollar escaped) (value ++ rest) (.word (text ++ value)::tokens) (Settles dollar escaped value) next := by
  obtain ⟨ends,after⟩ := closes
  obtain ⟨c,tail,rfl⟩ : ∃ c tail, rest = c::tail := List.exists_cons_of_ne_nil (by rintro rfl; cases ends)
  obtain ⟨stops,plain⟩ := separatorStops ends
  have ended : ∀ flags, wordGoes flags c = none ↔ flags.2 = false := by
    rintro ⟨dollar,_ | _⟩ <;> simp [wordGoes,plain,stops]
  refine (wordCollects.reads (s := (dollar,escaped)) (fun text flags more past => ?_)).cast rfl ?_
  · obtain ⟨dollar,escaped⟩ := flags
    cases (ended _).mp past
    have word : lex (.word text dollar false) (c::(tail ++ more)) = (lex .gap ((c::tail) ++ more)).map (.word text::·) := by
      rw [List.cons_append,lexCons,lexCons]
      simp only [step,plain,stops,Bool.false_and,Bool.false_eq_true,if_false,if_true,Option.bind_some,Option.map_map]
      rfl
    rw [word,lexScan after,Option.map_map]
    rfl
  · simp only [ended,Settles,walkFold]
    exact ⟨fun ⟨last,walked,past⟩ => ⟨last.1,walked.trans (congrArg some (Prod.ext rfl past))⟩,fun ⟨last,walked⟩ => ⟨_,walked,rfl⟩⟩

theorem Reads.argument (starts : value.head?.any opens = true) (closes : Closes rest tokens next) :
    Reads .gap (value ++ rest) (.word value::tokens) (Bare value) next := by
  cases value with
  | nil => cases starts
  | cons h value =>
    have ordinary : opens h = true := starts
    simp only [opens,Bool.and_eq_true,bne_iff_ne,Bool.not_eq_true'] at ordinary
    obtain ⟨⟨⟨⟨inside,brace⟩,sharp⟩,double⟩,single⟩ := ordinary
    have entered : step .gap h = some ([],.word [h] (h == '$') (h == '\\')) := by
      simp [step,inside,brace,sharp,double,single]
    have same : Bare (h::value) ↔ Settles (h == '$') (h == '\\') value := by
      simp [Bare,Settles,walk,inside]
    have word : Reads (.word [h] (h == '$') (h == '\\')) (value ++ rest) (.word (h::value)::tokens) _ next :=
      Reads.inWord closes
    intro later expected
    rw [same,← word later expected,List.cons_append,List.cons_append,lexCons,entered]
    simp

theorem Reads.arguments (starts : ∀ value ∈ values, value.head?.any opens = true) (closes : Closes rest tokens next) :
    Reads .gap ([' '].intercalate values ++ rest) (values.map .word ++ tokens) (∀ value ∈ values, Bare value) next := by
  induction values with
  | nil => exact (literal closes.2).cast rfl (by simp)
  | cons value more ih =>
    cases more with
    | nil =>
      rw [List.intercalate_singleton]
      exact (Reads.argument (starts value (by simp)) closes).cast rfl (by simp)
    | cons another more =>
      have first : Reads .gap (value ++ [' ']) [.word value] (Bare value) .gap := Reads.argument (starts value (by simp)) ⟨rfl,rfl⟩
      have later := ih (fun value mem => starts value (List.mem_cons_of_mem _ mem))
      rw [List.intercalate_cons_cons,List.append_assoc _ _ rest]
      exact (first.andThen later).cast rfl (by simp)

def walkQuoted (quote : Char) : Bool → List Char → Option Bool
  | escaped,[] => some escaped
  | true,_::rest => walkQuoted quote false rest
  | false,c::rest => if c == quote then none else walkQuoted quote (c == '\\') rest

def Quotable (quote : Char) (value : List Char) : Prop := walkQuoted quote false value = some false

instance (quote value) : Decidable (Quotable quote value) := by unfold Quotable; infer_instance

def quoteGoes (quote : Char) : Bool → Char → Option Bool
  | true,_ => some false
  | false,c => if c == quote then none else some (c == '\\')

theorem quotedFold (quote) : walkQuoted quote escaped value = value.foldlM (quoteGoes quote) escaped := by
  induction value generalizing escaped with
  | nil => cases escaped <;> rfl
  | cons c rest ih =>
    cases escaped with
    | true => exact ih
    | false =>
      simp only [walkQuoted,List.foldlM_cons,quoteGoes,ih]
      split <;> rfl

theorem quotedCollects (quote) : Collects (.quoted quote) (quoteGoes quote) where
  unfinished _ _ := rfl
  further {text escaped c _} goes := by
    cases escaped with
    | true =>
      cases goes
      rfl
    | false =>
      simp only [quoteGoes] at goes
      split at goes <;> cases goes
      rename_i inside
      simp [step,inside]
  ended {text escaped c} past := by
    cases escaped with
    | true => cases past
    | false =>
      simp only [quoteGoes] at past
      split at past <;> cases past
      rename_i ends
      exact ⟨[],.closed,by simp [step,ends]⟩

def Quits (quote : Char) (rest : List Char) (tokens : List Token) (next : Mode) : Prop :=
  rest.head? = some quote ∧ scan .closed rest.tail = some (tokens,next)

instance (quote rest tokens next) : Decidable (Quits quote rest tokens next) := by unfold Quits; infer_instance

theorem Reads.between (quits : Quits quote rest tokens next) :
    Reads (.quoted quote text false) (value ++ rest) (.word (text ++ value)::tokens) (Quotable quote value) next := by
  obtain ⟨ends,after⟩ := quits
  obtain ⟨tail,rfl⟩ : ∃ tail, rest = quote::tail := ⟨_,(List.cons_head?_tail ends).symm⟩
  have ended : ∀ escaped, quoteGoes quote escaped quote = none ↔ escaped = false := by
    rintro (_ | _) <;> simp [quoteGoes]
  refine ((quotedCollects quote).reads (fun text escaped more past => ?_)).cast rfl ?_
  · cases (ended _).mp past
    rw [lexCons]
    simp only [step,beq_self_eq_true,if_true,Option.bind_some,lexScan (show scan .closed tail = _ from after),Option.map_map]
    rfl
  · simp only [ended,Quotable,quotedFold]
    exact ⟨fun ⟨last,walked,past⟩ => past ▸ walked,fun walked => ⟨_,walked,rfl⟩⟩

theorem Reads.quoted (quits : Quits quote rest tokens next) :
    Reads (.quoted quote [] false) (value ++ rest) (.word value::tokens) (Quotable quote value) next :=
  (Reads.between quits).cast (by rw [List.nil_append]) Iff.rfl

section Weights

/-- What characters count for, so that a text counts for at least what it is read as. -/
structure Weigh where
  char : Char → Nat
  quote : Char → Nat
  comment : Nat
  least : ∀ c, char ' ' ≤ char c
  quotes : ∀ c, quote c ≤ char c
  opens : comment ≤ char '#'

def Weigh.text (weigh : Weigh) (text : List Char) : Nat := (text.map weigh.char).sum

-- A word is read from its characters and one that ends it.
def Weigh.token (weigh : Weigh) : Token → Nat
  | .word text => weigh.text text + weigh.char ' '
  | _ => 0

def Weigh.tokens (weigh : Weigh) (tokens : List Token) : Nat := (tokens.map weigh.token).sum

def Weigh.held (weigh : Weigh) : Mode → Nat
  | .word text _ _ => weigh.text text
  | .quoted quote text _ => weigh.quote quote + weigh.text text
  | .comment => weigh.comment
  | _ => 0

theorem stepWeight (weigh : Weigh) (ok : step m c = some (tokens,next)) :
    weigh.tokens tokens + weigh.held next ≤ weigh.held m + weigh.char c := by
  have none : weigh.tokens (delimiter c) = 0 := by
    unfold delimiter
    split <;> (try split) <;> rfl
  have bounds := And.intro (weigh.least c) (And.intro (weigh.quotes c) weigh.opens)
  unfold step at ok
  split at ok <;> (try split at ok) <;> (try split at ok) <;> (try split at ok) <;> (try split at ok) <;> cases ok <;>
    simp_all [Weigh.tokens,Weigh.token,Weigh.held,Weigh.text] <;> omega

theorem weightless {f : α → Nat} {xs : List α} : (xs.map f).sum = 0 ↔ ∀ x ∈ xs, f x = 0 := by
  rw [List.sum_eq_zero_iff_forall_eq_nat,List.forall_mem_map]

theorem scanCons (ok : scan m (c::text) = some (tokens,last)) :
    ∃ given next more, step m c = some (given,next) ∧ scan next text = some (more,last) ∧ tokens = given ++ more := by
  obtain ⟨⟨given,next⟩,one,ok⟩ := Option.bind_eq_some_iff.mp ok
  obtain ⟨⟨more,_⟩,scanned,ok⟩ := Option.bind_eq_some_iff.mp ok
  cases ok
  exact ⟨given,next,more,one,scanned,rfl⟩

theorem scanWeight (weigh : Weigh) (ok : scan m text = some (tokens,next)) :
    weigh.tokens tokens + weigh.held next ≤ weigh.held m + weigh.text text := by
  induction text generalizing m tokens with
  | nil =>
    cases ok
    simp [Weigh.tokens,Weigh.text]
  | cons c text ih =>
    obtain ⟨given,mid,more,one,scanned,rfl⟩ := scanCons ok
    have here := stepWeight weigh one
    have later := ih scanned
    simp only [Weigh.tokens,Weigh.text,List.map_append,List.map_cons,List.sum_append,List.sum_cons] at here later ⊢
    omega

theorem joinedWeight (weigh : Weigh) (present : names ≠ []) :
    weigh.tokens (names.map .word) = weigh.text ([' '].intercalate names) + weigh.char ' ' := by
  induction names with
  | nil => exact absurd rfl present
  | cons name rest ih =>
    cases rest with
    | nil => simp [Weigh.tokens,Weigh.token]
    | cons another rest =>
      simp [Weigh.tokens,Weigh.text,Weigh.token,List.intercalate_cons_cons] at ih ⊢
      omega

def ones : Weigh := ⟨fun _ => 1,fun _ => 0,0,by simp,by simp,by simp⟩

def marks (mark : Char) (solid : ' ' ≠ mark) : Weigh :=
  let one c := if c = mark then 1 else 0
  ⟨one,one,one '#',by simp [one,solid],fun _ => Nat.le_refl _,Nat.le_refl _⟩

theorem unmarked {solid : ' ' ≠ mark} (absent : mark ∉ text) : (marks mark solid).text text = 0 :=
  weightless.mpr (fun c mem => if_neg (fun same : c = mark => absent (same ▸ mem)))

theorem wordsFirst {names : List (List Char)} {given found more : List Token} (same : given ++ found = names.map .word ++ .semi::more)
    (fewer : ones.tokens given < ones.tokens (names.map .word)) :
    ∃ words left, names = words ++ left ∧ given = words.map .word ∧ found = left.map .word ++ .semi::more := by
  rcases List.append_eq_append_iff.mp same with ⟨left,front,back⟩ | ⟨past,rfl,_⟩
  · obtain ⟨words,left,rfl,rfl,rfl⟩ := List.map_eq_append_iff.mp front
    exact ⟨words,left,rfl,rfl,back⟩
  · simp only [Weigh.tokens,List.map_append,List.sum_append] at fewer
    omega

theorem unopenedLoses (present : name ≠ []) (unopened : name.head?.any opens = false)
    (first : scan .gap ([' '].intercalate (name::names)) = some (given,mid)) :
    ones.tokens given + ones.held mid + 1 < ones.tokens ((name::names).map .word) := by
  obtain ⟨c,name,rfl⟩ := List.exists_cons_of_ne_nil present
  obtain ⟨tail,shape⟩ : ∃ tail, [' '].intercalate ((c::name)::names) = c::tail := by cases names <;> simp [List.intercalate_cons_cons]
  rw [joinedWeight ones (List.cons_ne_nil _ names),shape]
  rw [shape] at first
  obtain ⟨one,next,more,stepped,scanned,rfl⟩ := scanCons first
  have nothing : ones.tokens one + ones.held next = 0 := by
    simp only [step,delimiter] at stepped
    split at stepped <;> (try split at stepped) <;> (try split at stepped) <;> (try split at stepped) <;> cases stepped <;>
      simp_all [opens,ones,Weigh.tokens,Weigh.token,Weigh.held,Weigh.text]
  have later := scanWeight ones scanned
  have unit : ∀ c, ones.char c = 1 := fun _ => rfl
  simp only [Weigh.tokens,Weigh.text,List.map_append,List.map_cons,List.sum_append,List.sum_cons,unit] at nothing later ⊢
  omega

/-- The names of a directive are not read as they are where the first does not open a word. -/
theorem neverNamed {label flag after : List Char} {expected : List Token} (present : name ≠ [])
    (unopened : name.head?.any opens = false) (plain : ∀ entry ∈ name::names, ';' ∉ entry)
    (closing : scan .gap after = some ([.word label,.word flag,.semi],.gap)) (quiet : '#' ∉ label ++ flag) (rest) :
    lex .gap ([' '].intercalate (name::names) ++ (';':: '\n'::(after ++ rest))) ≠ some ((name::names).map .word ++ .semi::expected) := by
  intro lexed
  rw [lexAppend,Option.bind_eq_some_iff] at lexed
  obtain ⟨⟨given,mid⟩,first,mapped⟩ := lexed
  obtain ⟨found,lexed,same⟩ := Option.map_eq_some_iff.mp mapped
  dsimp only at lexed same
  have joined := fun weigh => joinedWeight weigh (List.cons_ne_nil name names)
  have lost := unopenedLoses present unopened first
  obtain ⟨words,left,all,rfl,parts⟩ := wordsFirst same (by omega)
  have inside {text more later} (grown : found = .word (text ++ [';'] ++ more)::later) : False := by
    rw [grown] at parts
    rcases left with _ | ⟨entry,left⟩ <;> simp only [List.map_nil,List.map_cons,List.nil_append,List.cons_append,List.cons.injEq,
      reduceCtorEq,false_and,Token.word.injEq] at parts
    exact plain entry (all ▸ by simp) (parts.1 ▸ by simp)
  have goes {given next} (stepped : step mid ';' = some (given,next)) :
      ∃ more, lex next ('\n'::(after ++ rest)) = some more ∧ given ++ more = found := by
    rw [lexCons,stepped] at lexed
    exact Option.map_eq_some_iff.mp lexed
  cases mid with
  | gap | closed =>
    obtain ⟨more,_,rfl⟩ := goes rfl
    obtain rfl : left = [] := by rcases left with _ | _ <;> simp [delimiter] at parts ⊢
    rw [all,List.append_nil] at lost
    omega
  | word text dollar escaped =>
    cases escaped with
    | true =>
      obtain ⟨more,grown,rfl⟩ := goes rfl
      obtain ⟨_,_,rfl⟩ := wordCollects.grows (s := (dollar,false)) grown
      exact inside rfl
    | false =>
      obtain ⟨more,_,rfl⟩ := goes rfl
      obtain rfl : left = [text] := by rcases left with _ | ⟨_,_ | _⟩ <;> simp [delimiter] at parts ⊢; exact parts.1.symm
      rw [all] at lost
      simp only [Weigh.tokens,Weigh.token,Weigh.held,List.map_append,List.map_cons,List.map_nil,List.sum_append,List.sum_singleton,
        ones] at lost
      omega
  | quoted quote text escaped =>
    obtain ⟨further,advanced⟩ : ∃ further, quoteGoes quote escaped ';' = some further := by
      cases escaped
      · refine ⟨_,if_neg (fun same => ?_)⟩
        cases beq_iff_eq.mp same
        have none : (marks ';' (by decide)).tokens ((name::names).map .word) = 0 :=
          weightless.mpr (List.forall_mem_map.mpr (fun entry mem => unmarked (plain entry mem)))
        have bound := scanWeight (marks ';' (by decide)) first
        rw [joined] at none
        simp only [Weigh.held,marks,if_true] at bound none
        omega
      · exact ⟨_,rfl⟩
    obtain ⟨more,grown,rfl⟩ := goes ((quotedCollects quote).further advanced)
    obtain ⟨_,_,rfl⟩ := (quotedCollects quote).grows grown
    exact inside rfl
  | comment =>
    -- The line after the names is read in place of the last two: of their `#` one is missing.
    obtain ⟨more,later,rfl⟩ := goes rfl
    have next : lex .comment ('\n'::(after ++ rest)) = (lex .gap rest).map ([.word label,.word flag,.semi] ++ ·) := by
      rw [lexCons,← lexScan closing]
      simp [step]
    obtain ⟨_,_,rfl⟩ := Option.map_eq_some_iff.mp (next.symm.trans later)
    obtain rfl : left = [label,flag] := by
      rcases left with _ | ⟨_,_ | ⟨_,_ | _⟩⟩ <;> simp at parts ⊢
      exact ⟨parts.1.symm,parts.2.1.symm⟩
    have missing := scanWeight (marks '#' (by decide)) first
    have whole := joined (marks '#' (by decide))
    rw [List.mem_append,not_or] at quiet
    rw [all] at whole missing
    simp only [Weigh.tokens,Weigh.token,Weigh.held,List.map_append,List.map_cons,List.map_nil,List.sum_append,List.sum_cons,List.sum_nil,
      unmarked quiet.1,unmarked quiet.2] at whole missing
    have unit : (marks '#' (by decide)).comment = 1 ∧ (marks '#' (by decide)).char ' ' = 0 := ⟨rfl,rfl⟩
    omega

theorem Reads.listed {label flag after : List Char} (plain : ∀ name ∈ names, name ≠ [] ∧ ';' ∉ name)
    (closing : scan .gap after = some ([.word label,.word flag,.semi],.gap)) (quiet : '#' ∉ label ++ flag) :
    Reads .gap ([' '].intercalate names ++ ';':: '\n'::after) (names.map .word ++ [.semi,.word label,.word flag,.semi])
      (∀ name ∈ names, name.head?.any opens = true ∧ Bare name) .gap := by
  have ended : scan .gap (';':: '\n'::after) = some ([.semi,.word label,.word flag,.semi],.gap) := by
    simp [scan,step,stop,blank,delimiter,closing]
  induction names with
  | nil => exact (literal ended).cast rfl (by simp)
  | cons name more ih =>
    cases opened : name.head?.any opens with
    | false =>
      intro rest expected
      refine iff_of_false (fun lexed => ?_) (fun clean => by simp [opened] at clean)
      rw [List.append_assoc,List.append_assoc] at lexed
      exact neverNamed (plain name List.mem_cons_self).1 opened (fun entry mem => (plain entry mem).2) closing quiet rest lexed
    | true =>
      cases more with
      | nil =>
        rw [List.intercalate_singleton]
        exact (Reads.argument opened ⟨rfl,ended⟩).cast rfl (by simp [opened])
      | cons another more =>
        have first : Reads .gap (name ++ [' ']) [.word name] (Bare name) .gap := Reads.argument opened ⟨rfl,rfl⟩
        have later := ih (fun entry mem => plain entry (List.mem_cons_of_mem _ mem))
        rw [List.intercalate_cons_cons,List.append_assoc _ _ (';'::_)]
        exact (first.andThen later).cast rfl (by simp [opened])

end Weights

theorem ordinaryNot (plain : ordinary c = true) : c ∉ special := by simpa [ordinary] using plain

theorem ordinaryWalk (plain : ∀ c ∈ value, ordinary c = true) (dollar) : Settles dollar false value := by
  induction value generalizing dollar with
  | nil => exact ⟨dollar,rfl⟩
  | cons c value ih =>
    have here := ordinaryNot (plain c List.mem_cons_self)
    simp only [special,List.mem_cons,not_or,List.not_mem_nil,not_false_eq_true,and_true] at here
    obtain ⟨last,walked⟩ := ih (fun c mem => plain c (List.mem_cons_of_mem _ mem)) false
    have dollarNot : (c == '$') = false := beq_eq_false_iff_ne.mpr here.2.2.2.2.2.2.2.2.2.2.2
    have backslashNot : (c == '\\') = false := beq_eq_false_iff_ne.mpr here.2.2.2.2.2.2.2.2.2.2.1
    refine ⟨last,?_⟩
    rw [walk,dollarNot,backslashNot,walked]
    simp [stop,blank,here]

theorem ordinaryOpens (plain : ordinary c = true) : opens c = true := by
  have here := ordinaryNot plain
  simp only [special,List.mem_cons,not_or,List.not_mem_nil,not_false_eq_true,and_true] at here
  simp [opens,stop,blank,here]

theorem ordinaryClass (apart : special.any allowed = false) (fits : allowed c = true) : ordinary c = true := by
  unfold ordinary
  rw [Bool.not_eq_true',List.contains_eq_mem,decide_eq_false_iff_not]
  intro mem
  rw [List.any_eq_false] at apart
  exact apart c mem fits

theorem quotableOf (inside : ∀ c ∈ value, c ≠ quote ∧ c ≠ '\\') : Quotable quote value := by
  unfold Quotable
  induction value with
  | nil => rfl
  | cons c value ih =>
    obtain ⟨quoteNot,backslashNot⟩ := inside c List.mem_cons_self
    rw [walkQuoted,beq_eq_false_iff_ne.mpr quoteNot,beq_eq_false_iff_ne.mpr backslashNot]
    exact ih (fun c mem => inside c (List.mem_cons_of_mem _ mem))

theorem ordinaryQuotable (plain : ∀ c ∈ value, ordinary c = true) : Quotable '"' value := by
  refine quotableOf (fun c mem => ?_)
  have here := ordinaryNot (plain c mem)
  exact ⟨fun same => here (by simp [same,special]),fun same => here (by simp [same,special])⟩

theorem Reads.plainIn (plain : ∀ c ∈ value, ordinary c = true) (closes : Closes rest tokens next) :
    Reads (.word text dollar false) (value ++ rest) (.word (text ++ value)::tokens) True next :=
  (Reads.inWord closes).cast rfl (iff_true_intro (ordinaryWalk plain dollar))

theorem Reads.plain (present : value ≠ []) (plain : ∀ c ∈ value, ordinary c = true) (closes : Closes rest tokens next) :
    Reads .gap (value ++ rest) (.word value::tokens) True next := by
  obtain ⟨c,tail,rfl⟩ := List.exists_cons_of_ne_nil present
  have starts : (c::tail).head?.any opens = true := ordinaryOpens (plain c List.mem_cons_self)
  exact (Reads.argument starts closes).cast rfl (iff_true_intro (ordinaryWalk plain false))

theorem settlesBefore (safe : ∀ dollar escaped, Settles dollar escaped tail) :
    Settles false false (value ++ tail) ↔ Unbroken value := by
  unfold Settles Unbroken
  rw [walkAppend]
  cases walk false false value with
  | none => simp
  | some flags => exact iff_of_true (safe flags.1 flags.2) rfl

theorem walkUnescaped (straight : '\\' ∉ value) (walked : walk dollar false value = some last) : last.2 = false := by
  induction value generalizing dollar with
  | nil =>
    cases walked
    rfl
  | cons c rest ih =>
    obtain ⟨here,later⟩ := List.ne_and_not_mem_of_not_mem_cons straight
    simp only [walk] at walked
    split at walked
    · exact ih later walked
    · split at walked <;> try contradiction
      rw [beq_eq_false_iff_ne.mpr (Ne.symm here)] at walked
      exact ih later walked

theorem unbrokenBare (straight : '\\' ∉ value) : Unbroken value ↔ Bare value := by
  unfold Unbroken Bare Settles
  cases walked : walk false false value with
  | none => simp
  | some last => exact iff_of_true rfl ⟨last.1,congrArg some (Prod.ext rfl (walkUnescaped straight walked))⟩

theorem bareBefore (bare : Bare value) (plain : ∀ c ∈ tail, ordinary c = true) : Bare (value ++ tail) := by
  obtain ⟨last,walked⟩ := bare
  obtain ⟨final,after⟩ := ordinaryWalk plain last
  exact ⟨final,by rw [walkAppend,walked]; exact after⟩

attribute [irreducible] Reads

end ConfSyntax
