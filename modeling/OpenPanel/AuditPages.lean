import OpenPanel.AuditLog

/-! Following the cursor of an audit query from page to page. The cursor is the
row fetched to see whether more follow, and the next page starts strictly behind
it, so every page but the last is followed by one row that no page shows. -/
namespace OpenPanel.Audit
open Calendar (Plain)

def kept (n : Nat) : Nat → List α → List α
  | _,[] => []
  | 0,_::rest => kept n n rest
  | left + 1,a::rest => a::kept n left rest

theorem keptPage (n left) (rows : List α) : kept n left rows = rows.take left ++ kept n n (rows.drop (left + 1)) := by
  induction rows generalizing left with
  | nil => simp [kept]
  | cons a rest ih =>
    cases left with
    | zero => simp [kept]
    | succ left => simpa [kept] using ih left

theorem keptWhole (fits : rows.length ≤ n) : kept n n rows = rows := by
  rw [keptPage,List.take_of_length_le fits,List.drop_eq_nil_of_le (by omega)]
  simp [kept]

theorem keptLength (n left) (rows : List α) : (kept n left rows).length ≤ rows.length := by
  induction rows generalizing left with
  | nil => simp [kept]
  | cons a rest ih =>
    cases left with
    | zero =>
      have := ih n
      simp only [kept,List.length_cons]
      omega
    | succ left =>
      have := ih left
      simp only [kept,List.length_cons]
      omega

theorem keptShort (more : n < rows.length) : (kept n n rows).length < rows.length := by
  have rest := keptLength n n (rows.drop (n + 1))
  rw [keptPage,List.length_append,List.length_take]
  rw [List.length_drop] at rest
  omega

section Cursor

variable {rows : List Row} {q : AuditQuery}

def AuditCursor.At (cursor : AuditCursor) (row : Row) : Prop := Calendar.text cursor.ts = row.ts ∧ cursor.id = row.id

theorem behindIff (here : cursor.At row) :
    behind cursor other = true ↔ tsIdDesc row other ∧ (other.ts = row.ts → other.id ≠ row.id) := by
  simp only [behind,here.1,here.2,Bool.or_eq_true,Bool.and_eq_true,decide_eq_true_eq,beq_iff_eq,tsIdDesc]
  constructor
  · rintro (less | ⟨same,less⟩)
    · exact ⟨.inl less,fun same => absurd less (same ▸ List.lt_irrefl _)⟩
    · exact ⟨.inr ⟨same,less.le⟩,fun _ => less.ne⟩
  · rintro ⟨less | ⟨same,le⟩,other⟩
    · exact .inl less
    · exact .inr ⟨same,lt_of_le_of_ne le (other same)⟩

theorem behindTrans {second} (here : second.At row) (front : behind first row = true)
    (back : behind second other = true) : behind first other = true := by
  simp only [behind,here.1,here.2,Bool.or_eq_true,Bool.and_eq_true,decide_eq_true_eq,beq_iff_eq] at front back ⊢
  rcases front with front | ⟨same,less⟩ <;> rcases back with back | ⟨equal,further⟩
  · exact .inl (List.lt_trans back front)
  · exact .inl (equal ▸ front)
  · exact .inl (same ▸ back)
  · exact .inr ⟨equal.trans same,further.trans less⟩

theorem tsIdDescAntisymm (first : tsIdDesc a b) (second : tsIdDesc b a) : a.id = b.id := by
  rcases first with less | ⟨same,le⟩ <;> rcases second with more | ⟨equal,ge⟩
  · exact absurd more (List.lt_asymm less)
  · exact absurd less (equal ▸ List.lt_irrefl _)
  · exact absurd more (same ▸ List.lt_irrefl _)
  · exact le_antisymm ge le

theorem behindSelf (here : cursor.At row) : behind cursor row = false := by
  simp [behind,here.1,here.2]

theorem filterBehind (here : cursor.At row)
    (ids : Rows.Unique Row.id (front ++ row::back)) (sorted : (front ++ row::back).Pairwise tsIdDesc) :
    (front ++ row::back).filter (behind cursor) = back := by
  obtain ⟨_,tail,across⟩ := List.pairwise_append.mp sorted
  have apart : ∀ other ∈ front ++ back, other.id ≠ row.id := by
    intro other mem same
    have unique : (row.id::(front ++ back).map Row.id).Nodup := by
      have moved := ids
      rw [Rows.Unique,List.map_append,List.map_cons] at moved
      rw [List.map_append]
      exact List.nodup_middle.mp moved
    exact (List.nodup_cons.mp unique).1 (List.mem_map.mpr ⟨other,mem,same⟩)
  have before : ∀ other ∈ front, ¬ behind cursor other = true := by
    intro other mem hidden
    have up := across other mem row List.mem_cons_self
    have down := ((behindIff here).mp hidden).1
    exact apart other (List.mem_append_left _ mem) (tsIdDescAntisymm up down)
  have after : ∀ other ∈ back, behind cursor other = true := fun other mem =>
    (behindIff here).mpr ⟨(List.pairwise_cons.mp tail).1 other mem,fun _ => apart other (List.mem_append_right _ mem)⟩
  rw [List.filter_append,List.filter_eq_nil_iff.mpr before,List.filter_cons,behindSelf here,List.filter_eq_self.mpr after]
  rfl

theorem selectedSorted (q : AuditQuery) (rows) : (q.selected rows).Pairwise tsIdDesc := List.pairwise_insertionSort _ _

theorem selectedUnique (unique : Rows.Unique Row.id rows) : Rows.Unique Row.id (q.selected rows) := by
  have sub : ((rows.filter q.matches).map Row.id).Nodup := unique.sublist (List.filter_sublist.map Row.id)
  exact ((List.perm_insertionSort tsIdDesc _).map Row.id).nodup_iff.mpr sub

theorem selectedBehind (unique : Rows.Unique Row.id rows) (found : (q.selected rows)[n]? = some row) (here : cursor.At row) :
    ({q with cursor := some cursor} : AuditQuery).selected rows = (q.selected rows).drop (n + 1) := by
  have mem : row ∈ rows.filter q.matches := (List.mem_insertionSort _).mp (List.mem_of_getElem? found)
  -- The new cursor stands behind the old one, so replacing the old one loses no condition.
  have narrowed : rows.filter ({q with cursor := some cursor} : AuditQuery).matches = (rows.filter q.matches).filter (behind cursor) := by
    rw [List.filter_filter]
    refine List.filter_congr (fun other _ => ?_)
    have matched := (List.mem_filter.mp mem).2
    simp only [AuditQuery.matches,Bool.and_eq_true] at matched
    simp only [AuditQuery.matches,Option.all_some]
    cases back : behind cursor other with
    | false => simp
    | true =>
      have old : q.cursor.all (fun c => behind c other) = true := by
        cases given : q.cursor with
        | none => rfl
        | some first =>
          have front := matched.2
          rw [given] at front
          exact behindTrans here front back
      simp [old]
  have apart : ∀ a ∈ rows.filter q.matches, ∀ b ∈ rows.filter q.matches, tsIdDesc a b → tsIdDesc b a → a = b :=
    fun a left b right up down =>
      Rows.equalOfKey unique (List.mem_of_mem_filter left) (List.mem_of_mem_filter right) (tsIdDescAntisymm up down)
  have split : q.selected rows = (q.selected rows).take n ++ row::(q.selected rows).drop (n + 1) := by
    obtain ⟨small,same⟩ := List.getElem?_eq_some_iff.mp found
    rw [← same,List.getElem_cons_drop,List.take_append_drop]
  have ids := @selectedUnique rows q unique
  have sorted := selectedSorted q rows
  rw [split] at ids sorted
  calc ({q with cursor := some cursor} : AuditQuery).selected rows
      = (q.selected rows).filter (behind cursor) := by
        rw [AuditQuery.selected,narrowed,Rows.sortFilter _ apart]
        rfl
    _ = ((q.selected rows).take n ++ row::(q.selected rows).drop (n + 1)).filter (behind cursor) := by rw [← split]
    _ = (q.selected rows).drop (n + 1) := filterBehind here ids sorted

end Cursor

section Following

variable (json : Json Value) (clock : Int → DateTime)

def follow (rows : List Row) : Nat → AuditQuery → Option (List (AuditView Value))
  | 0,_ => none
  | fuel + 1,q =>
    let page := query json clock rows q
    match page.nextCursor with
    | none => some page.events
    | some cursor => (follow rows fuel {q with cursor := some cursor}).map (fun rest => page.events ++ rest)

theorem followStep (unique : Rows.Unique Row.id rows) (readable : ∀ row ∈ rows, ∃ ts, Plain ts ∧ row.ts = Calendar.text ts) (q) :
    ((q.selected rows).length ≤ q.clamped ∧ (query json clock rows q).nextCursor = none) ∨
      q.clamped < (q.selected rows).length ∧ ∃ cursor, (query json clock rows q).nextCursor = some cursor ∧
        ({q with cursor := some cursor} : AuditQuery).selected rows = (q.selected rows).drop (q.clamped + 1) := by
  rw [queryPage]
  by_cases fits : (q.selected rows).length ≤ q.clamped
  · exact .inl ⟨fits,by rw [List.getElem?_eq_none fits]; rfl⟩
  · have more : q.clamped < (q.selected rows).length := by omega
    have found := List.getElem?_eq_getElem more
    have inside : (q.selected rows)[q.clamped] ∈ rows :=
      List.mem_of_mem_filter ((List.mem_insertionSort _).mp (List.getElem_mem more))
    obtain ⟨ts,plain,written⟩ := readable _ inside
    refine .inr ⟨more,⟨ts,(q.selected rows)[q.clamped].id⟩,?_,selectedBehind unique found ⟨written.symm,rfl⟩⟩
    rw [found,Option.bind_some,written,Calendar.readText plain]
    rfl

variable {json clock}

theorem followKept (unique : Rows.Unique Row.id rows) (readable : ∀ row ∈ rows, ∃ ts, Plain ts ∧ row.ts = Calendar.text ts)
    (done : follow json clock rows fuel q = some views) :
    views = (kept q.clamped q.clamped (q.selected rows)).filterMap (viewRow json clock) := by
  induction fuel generalizing q views with
  | zero => cases done
  | succ fuel ih =>
    have shown : (query json clock rows q).events = ((q.selected rows).take q.clamped).filterMap (viewRow json clock) := by
      rw [queryPage]
    rcases followStep json clock unique readable q with ⟨fits,last⟩ | ⟨_,cursor,next,behind⟩
    · simp only [follow,last,Option.some.injEq] at done
      rw [← done,shown,keptWhole fits,List.take_of_length_le fits]
    · simp only [follow,next,Option.map_eq_some_iff] at done
      obtain ⟨rest,later,rfl⟩ := done
      have tail := ih later
      rw [behind] at tail
      rw [keptPage _ _ (q.selected rows),List.filterMap_append,shown,tail]
      rfl

theorem followEnds (unique : Rows.Unique Row.id rows) (readable : ∀ row ∈ rows, ∃ ts, Plain ts ∧ row.ts = Calendar.text ts)
    (enough : (q.selected rows).length < fuel) : ∃ views, follow json clock rows fuel q = some views := by
  induction fuel generalizing q with
  | zero => omega
  | succ fuel ih =>
    rcases followStep json clock unique readable q with ⟨fits,last⟩ | ⟨more,cursor,next,behind⟩
    · refine ⟨(query json clock rows q).events,?_⟩
      simp only [follow,last]
    · obtain ⟨rest,later⟩ := @ih {q with cursor := some cursor} (by rw [behind,List.length_drop]; omega)
      refine ⟨(query json clock rows q).events ++ rest,?_⟩
      simp only [follow,next,later,Option.map_some]

end Following

section Listing

variable {Value : Type} (json : Json Value)

def AuditQuery.wants (q : AuditQuery) (entry : Int × AuditEvent Value) : Bool :=
  q.actor.all (fun v => entry.2.actor == v) && q.action.all (fun v => entry.2.action.asStr == v) &&
    q.target.all (fun v => likeTarget v entry.2.target) && q.outcome.all (fun v => entry.2.outcome.asStr == v) &&
    q.fromTs.all (fun t => decide (t ≤ entry.2.ts)) && q.toTs.all (fun t => decide (entry.2.ts ≤ t))

abbrev later (a b : Int × AuditEvent Value) : Prop := b.2.ts < a.2.ts ∨ b.2.ts = a.2.ts ∧ b.1 ≤ a.1

def shownAs (event : AuditEvent Value) : AuditView Value :=
  AuditView.fromEvent json {event with metadata := (json.parse (json.text event.metadata)).getD json.null}

def listing (q : AuditQuery) (entries : List (Int × AuditEvent Value)) : List (AuditView Value) :=
  ((entries.filter q.wants).insertionSort later).map (fun entry => shownAs json entry.2)

variable {json} {q : AuditQuery}

structure Dated (q : AuditQuery) (entries : List (Int × AuditEvent Value)) : Prop where
  events : ∀ entry ∈ entries, Plain entry.2.ts
  fromTs : ∀ t ∈ q.fromTs, Plain t
  toTs : ∀ t ∈ q.toTs, Plain t

theorem notBefore (first : Plain a) (second : Plain b) : (!decide (Calendar.text a < Calendar.text b)) = decide (b ≤ a) := by
  rw [Bool.eq_iff_iff,Bool.not_eq_true',decide_eq_false_iff_not,decide_eq_true_iff,Calendar.textLessIff first second,not_lt]

theorem matchesStored (dated : Dated q entries) (first : q.cursor = none) (mem : entry ∈ entries) : q.matches
    (stored json entry) = q.wants entry := by
  have lower : q.fromTs.all (fun t => !decide ((stored json entry).ts < Calendar.text t)) =
      q.fromTs.all (fun t => decide (t ≤ entry.2.ts)) := by
    cases given : q.fromTs with
    | none => rfl
    | some t => exact notBefore (dated.events entry mem) (dated.fromTs t given)
  have upper : q.toTs.all (fun t => !decide (Calendar.text t < (stored json entry).ts)) =
      q.toTs.all (fun t => decide (entry.2.ts ≤ t)) := by
    cases given : q.toTs with
    | none => rfl
    | some t => exact notBefore (dated.toTs t given) (dated.events entry mem)
  rw [AuditQuery.matches,lower,upper,first,Option.all_none,Bool.and_true]
  rfl

theorem textInj (first : Plain a) (second : Plain b) : Calendar.text a = Calendar.text b ↔ a = b := by
  refine ⟨fun same => ?_,fun same => same ▸ rfl⟩
  have read := Calendar.readText first
  rw [same,Calendar.readText second] at read
  exact (Option.some.inj read).symm

theorem selectedStored (dated : Dated q entries) (first : q.cursor = none) :
    q.selected (entries.map (stored json)) = ((entries.filter q.wants).insertionSort later).map (stored json) := by
  have matched : (entries.map (stored json)).filter q.matches = (entries.filter q.wants).map (stored json) := by
    rw [List.filter_map]
    exact congrArg _ (List.filter_congr (fun entry mem => matchesStored dated first mem))
  rw [AuditQuery.selected,matched]
  refine (List.map_insertionSort later tsIdDesc (stored json) _ ?_).symm
  intro a left b right
  have plainA := dated.events a (List.mem_of_mem_filter left)
  have plainB := dated.events b (List.mem_of_mem_filter right)
  simp only [later,tsIdDesc,stored,Calendar.textLessIff plainB plainA,textInj plainB plainA]

theorem viewStored (clock) (plain : Plain entry.2.ts) :
    viewRow json clock (stored json entry) = if Recognised entry.2.action then some (shownAs json entry.2) else none := by
  rw [viewRow,parseStored]
  split <;> simp [readBack,shownAs,plain]

theorem rowsUnique (log : AuditLog Value) : Rows.Unique Row.id (log.rows json) := by
  have same : (log.rows json).map Row.id = log.entries.map Prod.fst := by
    rw [AuditLog.rows,List.map_map]
    rfl
  rw [Rows.Unique,same]
  exact log.ids

theorem rowsReadable {log : AuditLog Value} (dated : Dated q log.entries) :
    ∀ row ∈ log.rows json, ∃ ts, Plain ts ∧ row.ts = Calendar.text ts := by
  intro row mem
  obtain ⟨entry,inside,rfl⟩ := List.mem_map.mp mem
  exact ⟨entry.2.ts,dated.events entry inside,rfl⟩

theorem viewsStored (clock) {entries : List (Int × AuditEvent Value)} (plain : ∀ entry ∈ entries, Plain entry.2.ts)
    (known : ∀ entry ∈ entries, Recognised entry.2.action) :
    (entries.map (stored json)).filterMap (viewRow json clock) = entries.map (fun entry => shownAs json entry.2) := by
  rw [List.filterMap_map,← List.filterMap_eq_map]
  refine List.filterMap_congr (fun entry mem => ?_)
  rw [Function.comp_apply,viewStored clock (plain entry mem),if_pos (known entry mem)]
  rfl

theorem completeOnly (clock) {entries : List (Int × AuditEvent Value)} (plain : ∀ entry ∈ entries, Plain entry.2.ts)
    (same : ((kept n n (entries.map (stored json))).filterMap (viewRow json clock)).length = entries.length) :
    entries.length ≤ n ∧ ∀ entry ∈ entries, Recognised entry.2.action := by
  have read := List.length_filterMap_le (viewRow json clock) (kept n n (entries.map (stored json)))
  have fits : entries.length ≤ n := by
    by_contra more
    have short : (kept n n (entries.map (stored json))).length < (entries.map (stored json)).length :=
      keptShort (by rw [List.length_map]; omega)
    rw [List.length_map] at short
    omega
  refine ⟨fits,fun entry mem => ?_⟩
  rw [keptWhole (by rw [List.length_map]; exact fits),← List.length_map (stored json),List.filterMap_length_eq_length] at same
  have shown := same _ (List.mem_map_of_mem mem)
  rw [viewStored clock (plain entry mem)] at shown
  by_contra unknown
  simp [unknown] at shown

theorem pagesListEverything (json : Json Value) (clock : Int → DateTime) (log : AuditLog Value) (q : AuditQuery)
    (first : q.cursor = none) (dated : Dated q log.entries) :
    (∃ fuel, follow json clock (log.rows json) fuel q = some (listing json q log.entries)) ↔
      (log.entries.filter q.wants).length ≤ q.clamped ∧ ∀ entry ∈ log.entries, q.wants entry = true → Recognised entry.2.action := by
  have chosen : q.selected (log.rows json) = ((log.entries.filter q.wants).insertionSort later).map (stored json) :=
    selectedStored dated first
  have wanted : ∀ {entry}, entry ∈ (log.entries.filter q.wants).insertionSort later ↔ entry ∈ log.entries ∧ q.wants entry = true := by
    intro entry
    rw [List.mem_insertionSort,List.mem_filter]
  have plain : ∀ entry ∈ (log.entries.filter q.wants).insertionSort later, Plain entry.2.ts := fun entry mem =>
    dated.events entry (wanted.mp mem).1
  have count : (log.entries.filter q.wants).length = ((log.entries.filter q.wants).insertionSort later).length :=
    (List.length_insertionSort ..).symm
  rw [count]
  constructor
  · rintro ⟨fuel,done⟩
    have all := followKept (rowsUnique log) (rowsReadable dated) done
    rw [chosen] at all
    have whole := completeOnly clock plain (by rw [← all,listing,List.length_map])
    exact ⟨whole.1,fun entry mem hit => whole.2 entry (wanted.mpr ⟨mem,hit⟩)⟩
  · rintro ⟨fits,known⟩
    obtain ⟨views,done⟩ : ∃ views, follow json clock (log.rows json) _ q = some views :=
      followEnds (rowsUnique log) (rowsReadable dated) (Nat.lt_succ_self _)
    have all := followKept (rowsUnique log) (rowsReadable dated) done
    refine ⟨_,done.trans ?_⟩
    rw [all,chosen,keptWhole (by rw [List.length_map]; exact fits),
      viewsStored clock plain (fun entry mem => known entry (wanted.mp mem).1 (wanted.mp mem).2)]
    rfl

def logins : AuditLog String where
  entries := [(1,⟨86400000000000,"root",.login,none,some "198.51.100.7",.denied,"null"⟩),
    (2,⟨86400000000000,"root",.login,none,some "198.51.100.7",.success,"null"⟩)]
  sequence := 2
  ids := by decide
  below := by decide

theorem loginsDated (limit) : Dated (.unfiltered limit) logins.entries where
  events := by decide
  fromTs := by intro t given; cases given
  toTs := by intro t given; cases given

theorem bothLoginsListed :
    Dated (.unfiltered 2) logins.entries ∧
      ∃ fuel, follow textJson (fun _ => 0) (logins.rows textJson) fuel (.unfiltered 2) =
        some (listing textJson (.unfiltered 2) logins.entries) :=
  ⟨loginsDated 2,(pagesListEverything textJson (fun _ => 0) logins (.unfiltered 2) rfl (loginsDated 2)).mpr ⟨by decide,by decide⟩⟩

theorem firstLoginSkipped :
    Dated (.unfiltered 1) logins.entries ∧
      (follow textJson (fun _ => 0) (logins.rows textJson) 2 (.unfiltered 1)).map (fun views => views.map AuditView.outcome) =
        some ["success"] ∧
      (listing textJson (.unfiltered 1) logins.entries).map AuditView.outcome = ["success","denied"] :=
  ⟨loginsDated 1,by decide +kernel,by decide +kernel⟩

end Listing
end OpenPanel.Audit
