import OpenPanel.SiteService
import Mathlib.Data.List.Lattice
import Mathlib.Data.List.Pairwise

/-! Which hostnames the stored sites answer to. The lookup before a site is
created compares primary domains only, and aliases are compared within their own
site: that no two sites share a name is up to the names the calls ask for. -/
namespace OpenPanel.Sites
open Fallible GuardedRun
open Nginx (chars)

section Exclusive

def Exclusive (rows : List Site) : Prop := (rows.flatMap Site.hostnames).Nodup

instance (rows) : Decidable (Exclusive rows) := by unfold Exclusive; infer_instance

def Apart (a b : Site) : Prop := List.Disjoint a.hostnames b.hostnames

instance : Std.Symm Apart := ⟨fun _ _ apart => List.Disjoint.symm apart⟩

theorem exclusiveIff : Exclusive rows ↔ rows.Pairwise Apart := by
  rw [Exclusive,List.nodup_flatMap]
  exact ⟨fun both => both.2,fun apart => ⟨fun site _ => site.hostnamesDistinct,apart⟩⟩

theorem addedExclusive : Exclusive (rows ++ [site]) ↔ Exclusive rows ∧ ∀ other ∈ rows, Apart site other := by
  rw [exclusiveIff,exclusiveIff,List.pairwise_append]
  constructor
  · exact fun ⟨old,_,cross⟩ => ⟨old,fun other mem => symm (cross other mem site List.mem_cons_self)⟩
  · refine fun ⟨old,cross⟩ => ⟨old,List.pairwise_singleton _ _,fun other mem new last => ?_⟩
    rw [List.mem_singleton.mp last]
    exact symm (cross other mem)

theorem restatedExclusive (id) (status) : Exclusive (rows.map (SiteTable.writeStatus id status)) ↔ Exclusive rows := by
  have same : (fun r => (SiteTable.writeStatus id status r).hostnames) = Site.hostnames :=
    funext (fun r => (SiteTable.statusKeys id status r).2.2)
  rw [Exclusive,Exclusive,List.flatMap_map,same]

theorem deletedExclusive (id) (exclusive : Exclusive rows) : Exclusive (Rows.delete Site.id id rows) := by
  rw [exclusiveIff] at exclusive ⊢
  exact exclusive.sublist List.filter_sublist

section Realiased

variable {t : SiteTable} {id : Uuid}

theorem foundRow (found : t.findById id = some site) : site ∈ t.rows ∧ site.id = id := Rows.found found

theorem writtenHit (keys : changed.id = site.id ∧ changed.primaryDomain = site.primaryDomain) :
    (SiteTable.writeAliases changed site).hostnames = changed.hostnames := by
  rw [SiteTable.writeAliases,dif_pos ⟨keys.1.symm,keys.2.symm⟩]
  simp [Site.hostnames,keys.2]

theorem writtenMiss (other : r.id ≠ changed.id) : SiteTable.writeAliases changed r = r := by
  rw [SiteTable.writeAliases,dif_neg (fun same => other same.1)]

theorem onlyRow (found : t.findById id = some site) (mem : r ∈ t.rows) (same : r.id = id) : r = site :=
  Rows.equalOfKey t.ids mem (foundRow found).1 (same.trans (foundRow found).2.symm)

theorem realiasedExclusive (exclusive : Exclusive t.rows) (found : t.findById id = some site)
    (keys : changed.id = site.id ∧ changed.primaryDomain = site.primaryDomain) :
    Exclusive (t.rows.map (SiteTable.writeAliases changed)) ↔
      ∀ other ∈ t.rows, other.id ≠ id → List.Disjoint changed.aliases other.hostnames := by
  obtain ⟨there,ident⟩ := foundRow found
  have target : changed.id = id := keys.1.trans ident
  have apart : ∀ a ∈ t.rows, ∀ b ∈ t.rows, a ≠ b → Apart a b := fun a left b right =>
    (exclusiveIff.mp exclusive).forall left right
  have written : (SiteTable.writeAliases changed site).hostnames = changed.hostnames := writtenHit keys
  rw [exclusiveIff,List.pairwise_map]
  constructor
  · intro pairwise other mem different name asked answered
    have same : SiteTable.writeAliases changed other = other := writtenMiss (target ▸ different)
    have pair : Apart (SiteTable.writeAliases changed site) (SiteTable.writeAliases changed other) := by
      have image := pairwise
      rw [← List.pairwise_map] at image
      refine image.forall (List.mem_map_of_mem there) (List.mem_map_of_mem mem) (fun equal => different ?_)
      have ids := congrArg Site.id equal
      rw [(SiteTable.writtenKeys changed site).1,(SiteTable.writtenKeys changed other).1] at ids
      exact ids.symm.trans ident
    rw [Apart,written,same] at pair
    exact pair (List.mem_cons_of_mem _ asked) answered
  · intro new
    have split : ∀ other ∈ t.rows, other.id ≠ id → Apart (SiteTable.writeAliases changed site) other := by
      intro other mem different
      rw [Apart,written]
      intro name left right
      rcases List.mem_cons.mp left with rfl | asked
      · exact apart site there other mem (fun same => different (same ▸ ident)) (keys.2 ▸ List.mem_cons_self) right
      · exact new other mem different asked right
    have distinct : t.rows.Pairwise (fun a b => a.id ≠ b.id) := List.pairwise_map.mp t.ids
    refine (distinct.and (exclusiveIff.mp exclusive)).imp_of_mem ?_
    intro a b left right both
    by_cases first : a.id = id
    · have second : b.id ≠ id := fun same => both.1 (first.trans same.symm)
      rw [onlyRow found left first,writtenMiss (r := b) (target ▸ second)]
      exact split b right second
    · rw [writtenMiss (r := a) (target ▸ first)]
      by_cases second : b.id = id
      · rw [onlyRow found right second]
        exact symm (split a left first)
      · rw [writtenMiss (target ▸ second)]
        exact both.2

end Realiased

end Exclusive

section Calls

inductive Done (env : Env) (call : Call) (t : SiteTable) : List Site → Prop where
  | created {ownerId primaryDomain aliases phpEnabled phpVersion documentRoot} {site : Site} {stored : SiteTable}
      (op : call.op = .createSite ownerId primaryDomain aliases phpEnabled phpVersion documentRoot)
      (made : Site.new env.lower call.freshId ownerId primaryDomain aliases (documentRoot.getD (defaultRoot primaryDomain))
        phpEnabled phpVersion = .ok site)
      (inserted : t.insert env.accounts site = .ok stored) : Done env call t stored.rows
  | restated {id : Uuid} (status : SiteStatus) (op : call.op = .enableSite id ∨ call.op = .disableSite id) :
      Done env call t (t.rows.map (SiteTable.writeStatus id status))
  | realiased {id aliases} {site changed : Site} (op : call.op = .changeAliases id aliases)
      (found : t.findById id = some site) (checked : site.changeAliases env.lower aliases = .ok changed) :
      Done env call t (t.rows.map (SiteTable.writeAliases changed))
  | deleted {id : Uuid} (op : call.op = .deleteSite id) : Done env call t (Rows.delete Site.id id t.rows)

def NewNames (env : Env) (call : Call) (t : SiteTable) : Prop :=
  match call.op with
  | .createSite ownerId primaryDomain aliases phpEnabled phpVersion documentRoot =>
    ∀ site, Site.new env.lower call.freshId ownerId primaryDomain aliases (documentRoot.getD (defaultRoot primaryDomain))
      phpEnabled phpVersion = .ok site → ∀ other ∈ t.rows, Apart site other
  | .changeAliases id aliases => ∀ site changed, t.findById id = some site →
      site.changeAliases env.lower aliases = .ok changed →
      ∀ other ∈ t.rows, other.id ≠ id → List.Disjoint changed.aliases other.hostnames
  | _ => True

-- The ways in which a call that asks for names ends with the rows as they were.
def Declined (env : Env) (w : World) (call : Call) : Prop :=
  match call.op with
  | .createSite ownerId primaryDomain aliases phpEnabled phpVersion documentRoot =>
    canManageSites call.caller.role = false ∨ call.fault .findByDomain ≠ none ∨
    (w.table.findByDomain env.lower primaryDomain).isSome ∨ call.fault .insert ≠ none ∨
    ∀ site, Site.new env.lower call.freshId ownerId primaryDomain aliases (documentRoot.getD (defaultRoot primaryDomain))
      phpEnabled phpVersion = .ok site → (w.table.insert env.accounts site).isOk = false ∨
      (call.nginx.available = true ∧ Nginx.Rejected call.nginx w.dirs site.primaryDomain) ∧ call.fault .delete = none
  | .changeAliases id aliases => call.fault .findById ≠ none ∨ call.fault .updateAliases ≠ none ∨
    ∀ site, w.table.findById id = some site → mayManage call.caller site = false ∨ (site.changeAliases env.lower aliases).isOk = false
  | _ => False

def Fresh (env : Env) (w : World) (call : Call) : Prop := Declined env w call ∨ NewNames env call w.table

def Wrote (env : Env) (w : World) (call : Call) (next : World) : Prop :=
  Done env call w.table next.table.rows ∧ ¬ Declined env w call

def Ended (env : Env) (w : World) (call : Call) (next : World) : Prop :=
  next.table.rows = w.table.rows ∧ Fresh env w call ∨ Wrote env w call next

variable {env : Env} {call : Call} {w : World}

theorem ended (declined : Declined env w call) : Ended env w call w := .inl ⟨rfl,.inl declined⟩

theorem rejects (site) (done : ∀ dirs, (call.nginx.available = true → ¬ Nginx.Rejected call.nginx w.dirs site.primaryDomain) →
      post () {w with dirs})
    (stopped : ∀ e dirs, call.nginx.available = true ∧ Nginx.Rejected call.nginx w.dirs site.primaryDomain → failed e {w with dirs}) :
    Ends (generate (Nginx.apply call.nginx site)) w post failed :=
  .within ((Nginx.applies site).weaken (fun _ dirs placed => done dirs placed.2) (fun e dirs both => stopped e dirs ⟨both.2,both.1.2⟩))

theorem createServes (op : call.op = .createSite ownerId primaryDomain aliases phpEnabled phpVersion documentRoot) :
    Ends (createSite env call ownerId primaryDomain aliases phpEnabled phpVersion documentRoot) w
      (fun _ => Wrote env w call) (fun _ => Ended env w call) := by
  refine .branch (fun may => ?_) (fun mayNot => .fails (ended (by simp_all [Declined])))
  refine .andThen (queries (fun _ faulted => ended (by simp [Declined,op,faulted])) (fun asked => ?_))
  split
  · rename_i site existing
    exact .fails (ended (by simp [Declined,op,existing]))
  · rename_i existing
    refine .asks (fun site made => ?_) (fun _ error => ended (by simp [Declined,op,error]))
    have later (spared : (w.table.insert env.accounts site).isOk = false ∨ (call.nginx.available = true ∧
        Nginx.Rejected call.nginx w.dirs site.primaryDomain) ∧ call.fault .delete = none) : Declined env w call := by
      simp only [Declined,op]
      refine .inr (.inr (.inr (.inr (fun other again => ?_))))
      rwa [← Except.ok.inj (made.symm.trans again)]
    refine .andThen (executes (fun _ stopped => ended ?_) (fun steady stored inserted => ?_))
    · exact stopped.elim (fun faulted => by simp [Declined,op,faulted]) (fun refused => later (.inl refused))
    · have admitted (left : call.nginx.available = true → Nginx.Rejected call.nginx w.dirs site.primaryDomain →
          call.fault .delete ≠ none) : ¬ Declined env w call := by
        simp only [Declined,op,may,asked,existing,steady]
        simp only [Bool.true_eq_false,ne_eq,not_true,Option.isSome_none,Bool.false_eq_true,false_or,not_forall]
        refine ⟨site,made,?_⟩
        simp only [inserted,Except.isOk,Except.toBool,Bool.true_eq_false,false_or]
        exact fun declined => left declined.1.1 declined.1.2 declined.2
      refine .cleansUp (rejects site (fun dirs kept => ?_) (fun e dirs rejected => ?_))
      · exact ⟨.created op made inserted,admitted (fun available rejected => absurd rejected (kept available))⟩
      · refine executes (fun _ faulted => ?_) (fun spared table removed => ?_)
        · exact .inr ⟨.created op made inserted,admitted (fun _ _ => faulted.resolve_right (by simp [Except.isOk,Except.toBool]))⟩
        · cases Except.ok.inj removed
          exact .inl ⟨rolledBack inserted,.inl (later (.inr ⟨rejected,spared⟩))⟩

theorem aliasesServe {id} (op : call.op = .changeAliases id aliases) : Ends (changeAliases env call id aliases) w
      (fun _ => Wrote env w call) (fun _ => Ended env w call) := by
  refine manages (fun _ mayNot => ended ?_) (fun site found may steady => ?_)
  · simp only [Declined,op]
    by_cases steady : call.fault .findById = none
    · exact .inr (.inr (fun site found => .inl (mayNot steady site found)))
    · exact .inl steady
  · refine .asks (fun changed checked => ?_) (fun _ error => ended ?_)
    · refine .andThen (executes (fun _ faulted => ended ?_) (fun spared table ran => ?_))
      · have faulted := faulted.resolve_right (by simp [Except.isOk,Except.toBool])
        simp [Declined,op,faulted]
      · have admitted : ¬ Declined env w call := by simp [Declined,op,steady,spared,found,may,checked,Except.isOk,Except.toBool]
        cases Except.ok.inj ran
        exact generates (fun dirs => ⟨.realiased op found checked,admitted⟩) (fun _ dirs => .inr ⟨.realiased op found checked,admitted⟩)
    · simp [Declined,op,found,error,Except.isOk,Except.toBool]

theorem rewrites {id} {prog : Site → _} {rest : Site → Service Unit} (names : NewNames env call w.table)
    (then_ : ∀ site dirs, Ended env w call {w with dirs} →
      Ends (rest site) {w with dirs} (fun _ => Wrote env w call) (fun _ => Ended env w call)) :
    Ends (do let site ← getSite call id; assertCanManage call site; generate (prog site); rest site) w
      (fun _ => Wrote env w call) (fun _ => Ended env w call) := by
  have same {dirs} : Ended env w call {w with dirs} := .inl ⟨rfl,.inr names⟩
  exact manages (fun _ _ => same) (fun site _ _ _ => .andThen (generates (fun dirs => then_ site dirs same) (fun _ _ => same)))

theorem serves : Ends (serve env call) w (fun _ => Wrote env w call) (fun _ => Ended env w call) := by
  unfold serve
  split
  · exact createServes (by assumption)
  · rename_i id op
    refine rewrites (by simp [NewNames,op]) (fun _ _ same => executes (fun _ _ => same) (fun _ table ran => ?_))
    cases Except.ok.inj ran
    exact ⟨.restated .active (.inl op),by simp [Declined,op]⟩
  · rename_i id op
    refine rewrites (by simp [NewNames,op]) (fun _ _ same => executes (fun _ _ => same) (fun _ table ran => ?_))
    cases Except.ok.inj ran
    exact ⟨.restated .disabled (.inr op),by simp [Declined,op]⟩
  · exact aliasesServe (by assumption)
  · rename_i id op
    refine rewrites (by simp [NewNames,op]) (fun _ _ same => .andThen (executes (fun _ _ => same) (fun _ table ran => ?_)))
    cases Except.ok.inj ran
    refine .attempts (fun _ _ ok => ?_) nofun
    cases ok
    exact ⟨.deleted op,by simp [Declined,op]⟩

theorem doneExclusive (exclusive : Exclusive t.rows) (done : Done env call t rows) : Exclusive rows ↔ NewNames env call t := by
  cases done with
  | created op made inserted =>
    rw [(insertedRows inserted).1,addedExclusive]
    simp only [NewNames,op]
    constructor
    · intro both site again
      cases Except.ok.inj (made.symm.trans again)
      exact both.2
    · exact fun new => ⟨exclusive,new _ made⟩
  | restated status op =>
    rw [restatedExclusive]
    rcases op with op | op <;> simp [NewNames,op,exclusive]
  | realiased op found checked =>
    have keys := Site.changedFields checked
    rw [realiasedExclusive exclusive found ⟨keys.2.1,keys.2.2.2.1⟩]
    simp only [NewNames,op]
    constructor
    · intro new site changed again check
      cases Option.some.inj (found.symm.trans again)
      cases Except.ok.inj (checked.symm.trans check)
      exact new
    · exact fun new => new _ _ found checked
  | deleted op => simp [NewNames,op,deletedExclusive _ exclusive]

theorem afterExclusive (exclusive : Exclusive w.table.rows) : Exclusive (after env call w).table.rows ↔ Fresh env w call := by
  rcases (serves.gives (fun _ _ done => .inr done)).always with ⟨same,fresh⟩ | ⟨done,admitted⟩
  · exact iff_of_true (by rwa [after,same]) fresh
  · rw [after,doneExclusive exclusive done,Fresh,or_iff_right admitted]

theorem hostnamesExclusive {w last : World} {calls : List Call} (start : Exclusive w.table.rows)
    (run : Run (fire env) (Fresh env) w calls last) : Exclusive last.table.rows ∧
      (∀ call, Exclusive (after env call last).table.rows ↔ Fresh env last call) ∧
      ∀ call next, exec (serve env call) last = (.ok (),next) →
        (Exclusive next.table.rows ↔ NewNames env call last.table) := by
  have step : ∀ c call next, Exclusive c.table.rows → Fresh env c call → fire env c call = some next →
      Exclusive next.table.rows := by
    intro c call next exclusive fresh fired
    cases Option.some.inj fired
    exact (afterExclusive exclusive).mpr fresh
  have exclusive : Exclusive last.table.rows := run.keeps step start
  exact ⟨exclusive,fun call => afterExclusive exclusive,fun call next ran => doneExclusive exclusive (serves.reached ran).1⟩

end Calls

instance (a b) : Decidable (Apart a b) :=
  inferInstanceAs (Decidable (∀ name ∈ a.hostnames, name ∉ b.hostnames))

instance decidableOk {ε α : Type} {x : Except ε α} {p : α → Prop} [∀ a, Decidable (p a)] : Decidable (∀ a, x = .ok a → p a) :=
  match x with
  | .error _ => isTrue nofun
  | .ok a => decidable_of_iff (p a) ⟨fun holds _ same => Except.ok.inj same ▸ holds,fun all => all a rfl⟩

instance decidableSome {α : Type} {x : Option α} {p : α → Prop} [∀ a, Decidable (p a)] : Decidable (∀ a, x = some a → p a) :=
  match x with
  | none => isTrue nofun
  | some a => decidable_of_iff (p a) ⟨fun holds _ same => Option.some.inj same ▸ holds,fun all => all a rfl⟩

instance (env : Env) (call : Call) (t : SiteTable) : Decidable (NewNames env call t) :=
  match call with
  | ⟨_,_,_,_,.createSite ..⟩ => inferInstanceAs (Decidable (∀ site, _ → ∀ other ∈ t.rows, Apart site other))
  | ⟨_,_,_,_,.changeAliases id aliases⟩ =>
    decidable_of_iff (∀ site, t.findById id = some site → ∀ changed, site.changeAliases env.lower aliases = .ok changed →
        ∀ other ∈ t.rows, other.id ≠ id → ∀ name ∈ changed.aliases, name ∉ other.hostnames)
      ⟨fun all site changed found checked => all site found changed checked,
        fun all site found changed checked => all site changed found checked⟩
  | ⟨_,_,_,_,.enableSite _⟩ | ⟨_,_,_,_,.disableSite _⟩ | ⟨_,_,_,_,.deleteSite _⟩ => isTrue trivial

instance (d : Nginx.ConfDirs) (name) : Decidable (Nginx.Unreadable d name) :=
  match content : d.active name with
  | some (.raw bytes) => isTrue ⟨bytes,content⟩
  | some (.utf8 _) | none => isFalse (fun ⟨_,raw⟩ => by cases content.symm.trans raw)

instance (nginx d stem) : Decidable (Nginx.Rejected nginx d stem) := by unfold Nginx.Rejected; infer_instance

instance (env : Env) (w : World) (call : Call) : Decidable (Declined env w call) :=
  match call with
  | ⟨_,_,_,_,.createSite ..⟩ | ⟨_,_,_,_,.changeAliases ..⟩ => by unfold Declined; infer_instance
  | ⟨_,_,_,_,.enableSite _⟩ | ⟨_,_,_,_,.disableSite _⟩ | ⟨_,_,_,_,.deleteSite _⟩ => isFalse id

instance (env : Env) (w : World) (call : Call) : Decidable (Fresh env w call) := by unfold Fresh; infer_instance

def takeNames : Call :=
  ⟨⟨0x0b,.user⟩,.accepting,fun _ => none,0,.changeAliases 0x5b [chars "example.com",chars "www.example.com"]⟩

theorem twoSitesApart : ∃ last, Run (fire panel) (Fresh panel) emptyWorld [createExample,createShop] last ∧
    last.table.rows.length = 2 ∧ Exclusive last.table.rows := by
  obtain ⟨last,run,two⟩ := replayShows (fire panel) (Fresh panel) emptyWorld [createExample,createShop]
    (fun last => last.table.rows.length = 2) (by decide +kernel)
  exact ⟨last,run,two,(hostnamesExclusive (by decide) run).1⟩

theorem namesTaken : ∃ last, Run (fire panel) free emptyWorld [createExample,createShop,takeNames] last ∧
    ¬ Exclusive last.table.rows := replayShows _ _ _ _ _ (by decide +kernel)

end OpenPanel.Sites
