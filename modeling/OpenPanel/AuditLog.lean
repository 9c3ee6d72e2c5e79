import OpenPanel.AuditActions
import OpenPanel.Calendar
import OpenPanel.LikePatterns
import OpenPanel.Values

/-! The audit log in SQLite: recording an event, the most recent events, and pages
of a filtered query. A row holds the texts bound on insert and is read back through
the action names, the timestamp's text and the metadata's JSON. `recent` orders equal
timestamps by id, which the statement leaves open. -/
namespace OpenPanel.Audit
open LikePatterns (holding like plain)

inductive AuditOutcome where | success | failure | denied deriving DecidableEq

def AuditOutcome.asStr : AuditOutcome → String
  | .success => "success"
  | .failure => "failure"
  | .denied => "denied"

def parseOutcome (text : String) : AuditOutcome :=
  if text = "success" then .success else if text = "failure" then .failure else if text = "denied" then .denied else .failure

theorem parseOutcomeAsStr (outcome) : parseOutcome outcome.asStr = outcome := by
  cases outcome <;> decide

/-- JSON values as the log uses them: `to_string`, `from_str`, `Value::Null` and the redaction. -/
structure Json (Value : Type) where
  text : Value → String
  parse : String → Option Value
  null : Value
  redactMetadata : Value → Value

structure AuditEvent (Value : Type) where
  ts : DateTime
  actor : String
  action : AuditAction
  target : Option String
  sourceIp : Option String
  outcome : AuditOutcome
  metadata : Value

structure AuditView (Value : Type) where
  ts : DateTime
  actor : String
  action : String
  target : Option String
  sourceIp : Option String
  outcome : String
  metadata : Value

def AuditView.fromEvent (json : Json Value) (event : AuditEvent Value) : AuditView Value :=
  ⟨event.ts,event.actor,event.action.asStr,event.target,event.sourceIp,event.outcome.asStr,json.redactMetadata event.metadata⟩

structure Row where
  id : Int
  ts : List Char
  actor : String
  action : String
  target : Option String
  sourceIp : Option String
  outcome : String
  metadata : Option String

def stored (json : Json Value) (entry : Int × AuditEvent Value) : Row :=
  ⟨entry.1,Calendar.text entry.2.ts,entry.2.actor,entry.2.action.asStr,entry.2.target,entry.2.sourceIp,entry.2.outcome.asStr,
    some (json.text entry.2.metadata)⟩

-- `AUTOINCREMENT`: an id is larger than every id the table has held.
structure AuditLog (Value : Type) where
  entries : List (Int × AuditEvent Value)
  sequence : Int
  ids : Rows.Unique Prod.fst entries
  below : ∀ entry ∈ entries, entry.1 ≤ sequence

def AuditLog.rows (json : Json Value) (log : AuditLog Value) : List Row := log.entries.map (stored json)

theorem AuditLog.fresh (log : AuditLog Value) (mem : entry ∈ log.entries) : entry.1 ≠ log.sequence + 1 := by
  have := log.below entry mem
  omega

theorem AuditLog.belowNext (log : AuditLog Value) (event) :
    ∀ entry ∈ log.entries ++ [(log.sequence + 1,event)], entry.1 ≤ log.sequence + 1 := by
  intro entry mem
  rcases List.mem_append.mp mem with old | new
  · have := log.below entry old
    omega
  · rw [List.mem_singleton.mp new]

def AuditLog.record (log : AuditLog Value) (event : AuditEvent Value) : AuditLog Value where
  entries := log.entries ++ [(log.sequence + 1,event)]
  sequence := log.sequence + 1
  ids := Rows.insertUnique log.ids (fun _ mem => log.fresh mem)
  below := log.belowNext event

section Reading

variable (json : Json Value)

-- `clock` is what `Utc::now()` gives when a row's timestamp cannot be read.
def parseAuditRow (clock : Int → DateTime) (row : Row) : Option (AuditEvent Value × Option Int) := do
  let action ← parseAction row.action
  let md := (row.metadata.bind json.parse).getD json.null
  let ts := (Calendar.read row.ts).getD (clock row.id)
  some (⟨ts,row.actor,action,row.target,row.sourceIp,parseOutcome row.outcome,md⟩,some row.id)

-- A negative `LIMIT` is none.
def limited (limit : Int) (rows : List Row) : List Row := if limit < 0 then rows else rows.take limit.toNat

abbrev tsDesc (a b : Row) : Prop := ¬ a.ts < b.ts

def recent (clock : Int → DateTime) (rows : List Row) (limit : Int) : List (AuditEvent Value) :=
  (limited limit (rows.insertionSort tsDesc)).filterMap (fun row => (parseAuditRow json clock row).map Prod.fst)

structure AuditCursor where
  ts : DateTime
  id : Int

structure AuditQuery where
  actor : Option String := none
  action : Option String := none
  target : Option String := none
  outcome : Option String := none
  fromTs : Option DateTime := none
  toTs : Option DateTime := none
  cursor : Option AuditCursor := none
  limit : Nat := 50

def AuditQuery.clamped (q : AuditQuery) : Nat := max 1 (min q.limit 200)

def AuditQuery.effectiveLimit (q : AuditQuery) : Nat := q.clamped + 1

-- `target LIKE ? ESCAPE '\'`, bound to the value with its backslashes doubled between percent signs.
def likeTarget (v : String) (target : Option String) : Bool :=
  target.any (fun text => like '\\' (holding '\\' v.toList) text.toList)

def behind (cursor : AuditCursor) (row : Row) : Bool :=
  decide (row.ts < Calendar.text cursor.ts) || (row.ts == Calendar.text cursor.ts && decide (row.id < cursor.id))

def AuditQuery.matches (q : AuditQuery) (row : Row) : Bool :=
  q.actor.all (fun v => row.actor == v) && q.action.all (fun v => row.action == v) && q.target.all (fun v => likeTarget v row.target) &&
    q.outcome.all (fun v => row.outcome == v) && q.fromTs.all (fun t => !decide (row.ts < Calendar.text t)) &&
    q.toTs.all (fun t => !decide (Calendar.text t < row.ts)) && q.cursor.all (fun c => behind c row)

abbrev tsIdDesc (a b : Row) : Prop := b.ts < a.ts ∨ b.ts = a.ts ∧ b.id ≤ a.id

def AuditQuery.selected (q : AuditQuery) (rows : List Row) : List Row := (rows.filter q.matches).insertionSort tsIdDesc

structure AuditPage (Value : Type) where
  events : List (AuditView Value)
  nextCursor : Option AuditCursor

def viewRow (clock : Int → DateTime) (row : Row) : Option (AuditView Value) :=
  (parseAuditRow json clock row).map (fun read => AuditView.fromEvent json read.1)

def query (clock : Int → DateTime) (table : List Row) (q : AuditQuery) : AuditPage Value :=
  let fetch := q.effectiveLimit
  let rows := (q.selected table).take fetch
  let hasMore := rows.length == fetch
  let shown := if hasMore then rows.dropLast else rows
  ⟨shown.filterMap (viewRow json clock),
    if hasMore then rows.getLast?.bind (fun row => (Calendar.read row.ts).map (fun ts => ⟨ts,row.id⟩)) else none⟩

end Reading

instance : Std.Total tsDesc := ⟨fun a b => by
  by_cases less : a.ts < b.ts
  · exact .inr (List.lt_asymm less)
  · exact .inl less⟩

theorem notLessTrans {a b c : List Char} (first : ¬ a < b) (second : ¬ b < c) : ¬ a < c :=
  fun less => List.not_lt.mpr (List.le_trans (List.not_lt.mp second) (List.not_lt.mp first)) less

instance : IsTrans Row tsDesc := ⟨fun _ _ _ first second => notLessTrans first second⟩

instance : Std.Total tsIdDesc := ⟨fun a b => by
  by_cases less : b.ts < a.ts
  · exact .inl (.inl less)
  by_cases more : a.ts < b.ts
  · exact .inr (.inl more)
  have same : b.ts = a.ts := List.le_antisymm (List.not_lt.mp more) (List.not_lt.mp less)
  rcases le_total b.id a.id with le | le
  · exact .inl (.inr ⟨same,le⟩)
  · exact .inr (.inr ⟨same.symm,le⟩)⟩

instance : IsTrans Row tsIdDesc := ⟨by
  rintro a b c (first | ⟨same,le⟩) (second | ⟨equal,further⟩)
  · exact .inl (List.lt_trans second first)
  · exact .inl (equal ▸ first)
  · exact .inl (same ▸ second)
  · exact .inr ⟨equal.trans same,further.trans le⟩⟩

theorem tsDescOf (before : tsIdDesc a b) : tsDesc a b := by
  rcases before with less | ⟨same,_⟩
  · exact List.lt_asymm less
  · rw [tsDesc,same]
    exact List.lt_irrefl _

section Visibility

variable {json : Json Value}

def readBack (json : Json Value) (clock : Int → DateTime) (entry : Int × AuditEvent Value) : AuditEvent Value :=
  {entry.2 with
    ts := if Calendar.Plain entry.2.ts then entry.2.ts else clock entry.1
    metadata := (json.parse (json.text entry.2.metadata)).getD json.null}

theorem parseStored (entry) : parseAuditRow json clock (stored json entry) =
      if Recognised entry.2.action then some (readBack json clock entry,some entry.1) else none := by
  have instant : (Calendar.read (Calendar.text entry.2.ts)).getD (clock entry.1) = (readBack json clock entry).ts := by
    rw [Calendar.readTextIff]
    simp only [readBack]
    split <;> rfl
  simp only [parseAuditRow,stored,parseIff,parseOutcomeAsStr,instant,Option.bind_some]
  split <;> rfl

theorem memRecent (mem : event ∈ recent json clock rows limit) :
    ∃ row ∈ rows, ∃ id, parseAuditRow json clock row = some (event,id) := by
  obtain ⟨row,inside,read⟩ := List.mem_filterMap.mp mem
  have known : row ∈ rows := by
    rw [limited] at inside
    split at inside
    · exact (List.mem_insertionSort _).mp inside
    · exact (List.mem_insertionSort _).mp (List.mem_of_mem_take inside)
  obtain ⟨⟨found,id⟩,parsed,rfl⟩ := Option.map_eq_some_iff.mp read
  exact ⟨row,known,id,parsed⟩

theorem queryPage (rows) (q) : query json clock rows q = ⟨((q.selected rows).take q.clamped).filterMap (viewRow json clock),
      (q.selected rows)[q.clamped]?.bind (fun row => (Calendar.read row.ts).map (fun ts => ⟨ts,row.id⟩))⟩ := by
  simp only [query,AuditQuery.effectiveLimit,beq_iff_eq,List.length_take]
  by_cases more : q.clamped < (q.selected rows).length
  · rw [if_pos (by omega),if_pos (by omega),List.take_succ_eq_append_getElem more,List.dropLast_concat,List.getLast?_concat,
      List.getElem?_eq_getElem more]
  · have whole : (q.selected rows).length ≤ q.clamped := by omega
    rw [if_neg (by omega),if_neg (by omega),List.take_of_length_le whole,List.take_of_length_le (by omega),
      List.getElem?_eq_none whole]
    rfl

theorem memQuery (mem : view ∈ (query json clock rows q).events) :
    ∃ row ∈ rows, ∃ event id, parseAuditRow json clock row = some (event,id) ∧ view = AuditView.fromEvent json event := by
  rw [queryPage] at mem
  obtain ⟨row,inside,read⟩ := List.mem_filterMap.mp mem
  have known : row ∈ rows := List.mem_of_mem_filter ((List.mem_insertionSort _).mp (List.mem_of_mem_take inside))
  obtain ⟨⟨event,id⟩,parsed,rfl⟩ := Option.map_eq_some_iff.mp read
  exact ⟨row,known,event,id,parsed,rfl⟩

theorem readStored {log : AuditLog Value} {id : Option Int} (mem : row ∈ log.rows json)
    (parsed : parseAuditRow json clock row = some (event,id)) :
    Recognised event.action ∧ (Calendar.Plain event.ts ∨ ∃ id, clock id = event.ts) := by
  obtain ⟨entry,_,rfl⟩ := List.mem_map.mp mem
  rw [parseStored] at parsed
  split at parsed
  case isFalse => cases parsed
  case isTrue known =>
    cases Option.some.inj parsed
    refine ⟨known,?_⟩
    simp only [readBack]
    split
    case isTrue plain => exact .inl plain
    case isFalse => exact .inr ⟨entry.1,rfl⟩

def asLate (ts : DateTime) (rows : List Row) : Nat := (rows.filter (fun row => !decide (row.ts < Calendar.text ts))).length

theorem lateInTake [DecidableRel r] [Std.Total r] [IsTrans Row r]
    (finer : ∀ {a b}, r a b → tsDesc a b) (mem : stored json entry ∈ rows)
    (reach : asLate entry.2.ts rows ≤ n) : stored json entry ∈ (rows.insertionSort r).take n := by
  refine Rows.memTake (fun row => !decide (row.ts < Calendar.text entry.2.ts)) (List.pairwise_insertionSort r rows)
    ((List.mem_insertionSort r).mpr mem) ?_ ?_ ?_
  · rw [Bool.not_eq_true',decide_eq_false_iff_not]
    exact List.lt_irrefl (Calendar.text entry.2.ts)
  · intro b before
    simpa [stored,tsDesc] using finer before
  · rw [((List.perm_insertionSort r rows).filter _).length_eq]
    exact reach

def Alike (seen event : AuditEvent Value) : Prop :=
  seen.ts = event.ts ∧ seen.actor = event.actor ∧ seen.action = event.action ∧ seen.target = event.target ∧
    seen.sourceIp = event.sourceIp ∧ seen.outcome = event.outcome

def Shows (view : AuditView Value) (event : AuditEvent Value) : Prop :=
  view.ts = event.ts ∧ view.actor = event.actor ∧ view.action = event.action.asStr ∧ view.target = event.target ∧
    view.sourceIp = event.sourceIp ∧ view.outcome = event.outcome.asStr

theorem readAlike (json) (clock) (known : Recognised entry.2.action) (plain : Calendar.Plain entry.2.ts) :
    ∃ seen id, parseAuditRow json clock (stored json entry) = some (seen,id) ∧ Alike seen entry.2 := by
  refine ⟨_,_,(parseStored entry).trans (if_pos known),?_⟩
  simp [Alike,readBack,plain]

theorem recentShows (mem : stored json entry ∈ rows) (known : Recognised entry.2.action)
    (plain : Calendar.Plain entry.2.ts) (reach : limit < 0 ∨ asLate entry.2.ts rows ≤ limit.toNat) :
    ∃ seen ∈ recent json clock rows limit, Alike seen entry.2 := by
  obtain ⟨seen,id,parsed,alike⟩ := readAlike json clock known plain
  refine ⟨seen,List.mem_filterMap.mpr ⟨stored json entry,?_,by rw [parsed]; rfl⟩,alike⟩
  rw [limited]
  split
  · exact (List.mem_insertionSort _).mpr mem
  · exact lateInTake (fun before => before) mem (reach.resolve_left (by assumption))

def AuditQuery.unfiltered (limit : Nat) : AuditQuery := {limit := limit}

theorem queryShows (mem : stored json entry ∈ rows) (known : Recognised entry.2.action)
    (plain : Calendar.Plain entry.2.ts) (reach : asLate entry.2.ts rows ≤ (AuditQuery.unfiltered limit).clamped) :
    ∃ view ∈ (query json clock rows (.unfiltered limit)).events, Shows view entry.2 := by
  obtain ⟨seen,id,parsed,alike⟩ := readAlike json clock known plain
  have all : (AuditQuery.unfiltered limit).selected rows = rows.insertionSort tsIdDesc := by
    have whole : rows.filter (AuditQuery.unfiltered limit).matches = rows := List.filter_eq_self.mpr (fun _ _ => rfl)
    rw [AuditQuery.selected,whole]
  rw [queryPage,all]
  refine ⟨AuditView.fromEvent json seen,List.mem_filterMap.mpr ⟨stored json entry,lateInTake tsDescOf mem reach,?_⟩,?_⟩
  · rw [viewRow,parsed]
    rfl
  · obtain ⟨ts,actor,action,target,sourceIp,outcome⟩ := alike
    exact ⟨ts,actor,congrArg AuditAction.asStr action,target,sourceIp,congrArg AuditOutcome.asStr outcome⟩

end Visibility

section Filter

variable {json : Json Value}

def holdsTarget (v : String) (target : Option String) : Bool := target.any (fun text => decide (v.toList <:+: text.toList))

def NulFree (rows : List Row) : Prop := ∀ row ∈ rows, ∀ text ∈ row.target, ∀ c ∈ text.toList, c ≠ Char.ofNat 0

theorem likeIsHolding (itself : ∀ c ∈ v.toList, plain c = true) (free : NulFree rows)
    (mem : row ∈ rows) : likeTarget v row.target = holdsTarget v row.target := by
  cases known : row.target with
  | none => rfl
  | some text =>
    have literal : like '\\' (holding '\\' v.toList) text.toList = true ↔ v.toList <:+: text.toList :=
      LikePatterns.likeHolding (by decide) (by decide) itself (free row mem text known)
    simp only [likeTarget,holdsTarget,Option.any_some]
    rw [Bool.eq_iff_iff,literal,decide_eq_true_iff]

theorem filterExact (same : ∀ row ∈ rows, likeTarget v row.target = holdsTarget v row.target) (free : q.target = none) :
    query json clock rows {q with target := some v} = query json clock (rows.filter (fun row => holdsTarget v row.target)) q := by
  have matched : rows.filter ({q with target := some v} : AuditQuery).matches =
      (rows.filter (fun row => holdsTarget v row.target)).filter q.matches := by
    rw [List.filter_filter]
    refine List.filter_congr (fun row mem => ?_)
    simp only [AuditQuery.matches,free,Option.all_some,Option.all_none,same row mem,Bool.and_true]
    generalize holdsTarget v row.target = held
    cases held <;> simp
  have chosen : ({q with target := some v} : AuditQuery).selected rows =
      q.selected (rows.filter (fun row => holdsTarget v row.target)) := by
    rw [AuditQuery.selected,matched]
    rfl
  rw [queryPage,queryPage,chosen]
  rfl

def loginOn (json : Json Value) (target : String) : AuditLog Value where
  entries := [(1,⟨0,"admin",.login,some target,none,.success,json.null⟩)]
  sequence := 1
  ids := List.nodup_singleton _
  below := by simp

theorem loginShown (json : Json Value) (clock) (target)
    (matched : ∀ row ∈ (loginOn json target).rows json, q.matches row = true) :
    (query json clock ((loginOn json target).rows json) q).events ≠ [] := by
  have all : q.selected ((loginOn json target).rows json) = (loginOn json target).rows json := by
    rw [AuditQuery.selected,List.filter_eq_self.mpr matched]
    rfl
  have some : 1 ≤ q.clamped := le_max_left ..
  have taken : ((loginOn json target).rows json).take q.clamped = (loginOn json target).rows json :=
    List.take_of_length_le some
  have known : Recognised .login := by decide
  rw [queryPage,all,taken]
  simp [loginOn,AuditLog.rows,viewRow,parseStored,known]

theorem filterWide (mem : c ∈ v.toList) (wide : plain c = false) (json) (clock) :
    ∃ log : AuditLog Value, NulFree (log.rows json) ∧ query json clock (log.rows json) {target := some v} ≠
        query json clock ((log.rows json).filter (fun row => holdsTarget v row.target)) {} := by
  obtain ⟨text,free,matched,absent⟩ :
      ∃ text : List Char, (∀ d ∈ text, d ≠ Char.ofNat 0) ∧ like '\\' (holding '\\' v.toList) text = true ∧ ¬ v.toList <:+: text :=
    LikePatterns.likeWider (by decide) (by decide) (by decide) mem wide
  have only : (loginOn json (String.ofList text)).rows json =
      [stored json (1,⟨0,"admin",.login,some (String.ofList text),none,.success,json.null⟩)] := rfl
  refine ⟨loginOn json (String.ofList text),?_,?_⟩
  · intro row inside target known
    rw [only,List.mem_singleton] at inside
    subst inside
    cases Option.some.inj known
    simpa using free
  · have none : ((loginOn json (String.ofList text)).rows json).filter (fun row => holdsTarget v row.target) = [] := by
      rw [only]
      simp [holdsTarget,stored,absent]
    have shown := loginShown json clock (String.ofList text) (q := {target := some v}) (by
      intro row inside
      rw [only,List.mem_singleton] at inside
      simp [inside,AuditQuery.matches,likeTarget,stored,matched])
    rw [none]
    exact fun same => shown (congrArg AuditPage.events same)

end Filter

section Recorded

variable {Value : Type}

theorem recordMem (json) (log : AuditLog Value) (event) : stored json (log.sequence + 1,event) ∈ (log.record event).rows json :=
  List.mem_map_of_mem (List.mem_append_right _ (List.mem_singleton_self _))

/-- A recorded event is found again when its action has a row in the table of names
and its year is written with four digits; other events are not found, a reading of
the clock aside. The target filter is exact for values without `%`, `_`, letters and NUL. -/
theorem recordedStaysVisible (json : Json Value) (clock : Int → DateTime) (log : AuditLog Value) (event : AuditEvent Value) (v : String) :
    (Recognised event.action ∧ Calendar.Plain event.ts →
      (∀ limit : Int, limit < 0 ∨ asLate event.ts ((log.record event).rows json) ≤ limit.toNat →
        ∃ seen ∈ recent json clock ((log.record event).rows json) limit, Alike seen event) ∧
      ∀ limit, asLate event.ts ((log.record event).rows json) ≤ (AuditQuery.unfiltered limit).clamped →
        ∃ view ∈ (query json clock ((log.record event).rows json) (.unfiltered limit)).events, Shows view event) ∧
    ((∃ limit, ∃ seen ∈ recent json clock ((log.record event).rows json) limit, Alike seen event) ∨
        (∃ q, ∃ view ∈ (query json clock ((log.record event).rows json) q).events, Shows view event) →
      Recognised event.action ∧ (Calendar.Plain event.ts ∨ ∃ id, clock id = event.ts)) ∧
    ((∀ log : AuditLog Value, NulFree (log.rows json) → ∀ q : AuditQuery, q.target = none →
        query json clock (log.rows json) {q with target := some v} =
          query json clock ((log.rows json).filter (fun row => holdsTarget v row.target)) q) ↔
      ∀ c ∈ v.toList, plain c = true) := by
  refine ⟨fun ⟨known,plain⟩ => ⟨fun limit reach => ?_,fun limit reach => ?_⟩,?_,fun literal c mem => ?_,fun itself log free q none => ?_⟩
  · exact recentShows (recordMem json log event) known plain reach
  · exact queryShows (recordMem json log event) known plain reach
  · rintro (⟨limit,seen,mem,ts,_,action,_⟩ | ⟨q,view,mem,ts,_,action,_⟩)
    · obtain ⟨row,inside,id,parsed⟩ := memRecent mem
      rw [← ts,← action]
      exact readStored inside parsed
    · obtain ⟨row,inside,seen,id,parsed,rfl⟩ := memQuery mem
      rw [← asStrInj action,← ts]
      exact readStored inside parsed
  · cases taken : plain c with
    | true => rfl
    | false =>
      obtain ⟨log,free,differ⟩ := filterWide mem taken json clock
      exact absurd (literal log free {} rfl) differ
  · exact filterExact (fun row mem => likeIsHolding itself free mem) none

def textJson : Json String := ⟨id,some,"null",id⟩

def emptyLog : AuditLog String := ⟨[],0,List.nodup_nil,by simp⟩

def siteCreated : AuditEvent String :=
  ⟨1700000000000000000,"admin",.siteCreated,some "example.org",some "203.0.113.9",.success,"null"⟩

def pluginInstalled : AuditEvent String := {siteCreated with action := .pluginInstalled, target := some "backup-s3"}

theorem siteCreationVisible :
    (∃ seen ∈ recent textJson (fun _ => 0) ((emptyLog.record siteCreated).rows textJson) 10, Alike seen siteCreated) ∧
      ∃ view ∈ (query textJson (fun _ => 0) ((emptyLog.record siteCreated).rows textJson) (.unfiltered 10)).events,
        Shows view siteCreated := by
  have shown := (recordedStaysVisible textJson (fun _ => 0) emptyLog siteCreated "").1 ⟨by decide,by decide⟩
  exact ⟨shown.1 10 (.inr (by decide)),shown.2 10 (by decide)⟩

theorem pluginInstallLost :
    recent textJson (fun _ => 0) ((emptyLog.record pluginInstalled).rows textJson) 10 = [] ∧
      (query textJson (fun _ => 0) ((emptyLog.record pluginInstalled).rows textJson) (.unfiltered 10)).events = [] ∧
      (query textJson (fun _ => 0) ((emptyLog.record siteCreated).rows textJson) {target := some "example_org"}).events ≠ [] ∧
      holdsTarget "example_org" siteCreated.target = false := by
  decide +kernel

end Recorded
end OpenPanel.Audit
