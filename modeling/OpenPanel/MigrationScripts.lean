import OpenPanel.Values

/-! How a migration's script is cut into statements. Where a statement ends depends on how SQL is
read: a lexer is any automaton that says at which semicolons it does. -/
namespace OpenPanel.Migrations

def splitSql (sql : List Char) : List (List Char) := ((sql.splitOn ';').map trim).filter (fun s => !s.isEmpty)

-- What `apply_module` executes of a script, in this order.
def executed (sql : List Char) : List (List Char) := (splitSql sql).filter (fun stmt => !stmt.all isWhitespace)

structure Lexer (σ : Type) where
  start : σ
  step : σ → Char → σ
  ends : σ → Bool

variable {σ : Type} (lexer : Lexer σ)

def Lexer.pieces : σ → List Char → List (List Char)
  | _,[] => [[]]
  | state,c::rest =>
    let more := Lexer.pieces (lexer.step state c) rest
    if c = ';' ∧ lexer.ends state = true then []::more else more.modifyHead (c :: ·)

def Lexer.statements (sql : List Char) : List (List Char) :=
  ((lexer.pieces lexer.start sql).map trim).filter (fun s => !s.isEmpty)

theorem memTrim (solid : isWhitespace c = false) : c ∈ trim text ↔ c ∈ text := by
  have drops (text : List Char) : c ∈ text.dropWhile isWhitespace ↔ c ∈ text := by
    constructor
    · exact fun mem => (List.dropWhile_sublist _).mem mem
    · intro mem
      rw [← List.takeWhile_append_dropWhile (p := isWhitespace) (l := text)] at mem
      refine (List.mem_append.mp mem).resolve_left (fun front => ?_)
      exact absurd (List.mem_takeWhile_imp front) (by simp [solid])
  rw [trim,List.rdropWhile,List.mem_reverse,drops,List.mem_reverse,drops]

theorem trimmedSolid (some : trim text ≠ []) : ∃ c ∈ trim text, isWhitespace c = false := by
  exact ⟨_,List.getLast_mem some,eq_false_of_ne_true (List.rdropWhile_last_not _ _ some)⟩

theorem executedSplit (sql) : executed sql = splitSql sql := by
  refine List.filter_eq_self.mpr (fun stmt mem => ?_)
  simp only [splitSql,List.mem_filter,List.mem_map] at mem
  obtain ⟨⟨text,_,rfl⟩,some⟩ := mem
  obtain ⟨c,inside,solid⟩ := trimmedSolid (by simpa using some)
  simp only [Bool.not_eq_true',List.all_eq_false]
  exact ⟨c,inside,by simp [solid]⟩

theorem headPlain (pieces) (c) : (∀ piece ∈ pieces.modifyHead (c :: ·), ';' ∉ piece) ↔
    (pieces ≠ [] → c ≠ ';') ∧ ∀ piece ∈ pieces, ';' ∉ piece := by
  cases pieces with
  | nil => simp
  | cons first more =>
    rw [List.modifyHead_cons,List.forall_mem_cons,List.forall_mem_cons,List.mem_cons,not_or,and_assoc,eq_comm]
    simp

theorem splitPlain (sql : List Char) : ∀ piece ∈ sql.splitOn ';', ';' ∉ piece := by
  rw [List.splitOn_eq_splitOnP]
  induction sql with
  | nil => simp
  | cons c rest ih =>
    rw [List.splitOnP_cons_eq_if_modifyHead]
    split
    · simpa using ih
    · rename_i other
      exact (headPlain _ c).mpr ⟨fun _ => by simpa using other,ih⟩

theorem piecesSome (state sql) : lexer.pieces state sql ≠ [] := by
  induction sql generalizing state with
  | nil => simp [Lexer.pieces]
  | cons c rest ih =>
    rw [Lexer.pieces]
    split
    · simp
    · simpa using ih _

theorem piecesPlain (state sql) (plain : ∀ piece ∈ lexer.pieces state sql, ';' ∉ piece) : lexer.pieces state sql = sql.splitOn ';' := by
  rw [List.splitOn_eq_splitOnP]
  induction sql generalizing state with
  | nil => rfl
  | cons c rest ih =>
    rw [Lexer.pieces] at plain ⊢
    rw [List.splitOnP_cons_eq_if_modifyHead]
    split at plain
    · rename_i ended
      rw [if_pos ended,if_pos (beq_iff_eq.mpr ended.1),ih _ (List.forall_mem_cons.mp plain).2]
    · rename_i goes
      obtain ⟨other,later⟩ := (headPlain _ c).mp plain
      rw [if_neg goes,if_neg (by simpa using other (piecesSome lexer _ _)),ih _ later]

/-- A script is cut into its statements exactly when none of them has a semicolon in it. -/
theorem scriptsSplit (lexer : Lexer σ) (sql : List Char) :
    executed sql = lexer.statements sql ↔ ∀ stmt ∈ lexer.statements sql, ';' ∉ stmt := by
  have solid : isWhitespace ';' = false := by decide
  rw [executedSplit]
  constructor
  · intro same stmt mem
    rw [← same] at mem
    simp only [splitSql,List.mem_filter,List.mem_map] at mem
    obtain ⟨⟨piece,among,rfl⟩,_⟩ := mem
    exact (memTrim solid).not.mpr (splitPlain sql piece among)
  · intro plain
    have clean : ∀ piece ∈ lexer.pieces lexer.start sql, ';' ∉ piece := by
      intro piece among hidden
      have kept := (memTrim solid).mpr hidden
      exact plain (trim piece) (List.mem_filter.mpr ⟨List.mem_map_of_mem among,by simpa using List.ne_nil_of_mem kept⟩) kept
    rw [splitSql,Lexer.statements,piecesPlain lexer _ _ clean]

-- Only string literals hide a semicolon.
def literals : Lexer Bool := ⟨false,fun quoted c => if c.toNat = 39 then !quoted else quoted,fun quoted => !quoted⟩

theorem literalCut : literals.statements (String.toList "INSERT INTO t VALUES ('a;b'); SELECT 1") =
      [String.toList "INSERT INTO t VALUES ('a;b')",String.toList "SELECT 1"] ∧
    executed (String.toList "INSERT INTO t VALUES ('a;b'); SELECT 1") =
      [String.toList "INSERT INTO t VALUES ('a",String.toList "b')",String.toList "SELECT 1"] := by decide +kernel

end OpenPanel.Migrations
