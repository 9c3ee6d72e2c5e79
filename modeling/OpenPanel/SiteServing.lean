import OpenPanel.SiteService

/-! The stored status of a site against the directory its configuration file is
in, along calls during which nginx is there and accepts everything and every
statement goes through. Moving a file away fails, and new aliases are applied
whatever the status: those are the calls after which the two part. -/
namespace OpenPanel.Sites
open Fallible GuardedRun
open Nginx (ConfDirs Binary chars activeName disabledName logFormatName Content put)

structure Matches (dirs : ConfDirs) (site : Site) : Prop where
  served : (dirs.active (activeName site.primaryDomain)).isSome = true ↔ site.status = .active
  readable : ¬ Nginx.Unreadable dirs (activeName site.primaryDomain)

structure Consistent (w : World) : Prop where
  rows : ∀ site ∈ w.table.rows, Matches w.dirs site
  named : ∀ domain ∈ w.deleted, activeName domain ≠ logFormatName
  gone : ∀ domain ∈ w.deleted, (∃ site ∈ w.table.rows, site.primaryDomain = domain) ∨
    w.dirs.active (activeName domain) = none ∧ w.dirs.disabled (disabledName domain) = none

theorem matchesApart (apart : Nginx.Apart stem dirs next)
    (different : site.primaryDomain ≠ stem) (old : Matches dirs site) : Matches next site := by
  have same := (apart site.primaryDomain different (Nginx.siteApart site)).1
  exact ⟨by rw [same]; exact old.served,by rw [Nginx.Unreadable,same]; exact old.readable⟩

theorem goneApart (apart : Nginx.Apart stem dirs next) (different : domain ≠ stem) (named : activeName domain ≠ logFormatName)
    (old : dirs.active (activeName domain) = none ∧ dirs.disabled (disabledName domain) = none) :
    next.active (activeName domain) = none ∧ next.disabled (disabledName domain) = none := by
  obtain ⟨active,disabled⟩ := apart domain different named
  exact ⟨active.trans old.1,disabled.trans old.2⟩

theorem otherDomain {t : SiteTable} (left : r ∈ t.rows) (right : site ∈ t.rows) (other : r.id ≠ site.id) :
    r.primaryDomain ≠ site.primaryDomain :=
  fun same => other (congrArg Site.id (Rows.equalOfKey t.domains left right same))

theorem rowChanged (consistent : Consistent w) (mem : site ∈ w.table.rows) (rows : table.rows = w.table.rows.map f)
    (keys : ∀ r, (f r).primaryDomain = r.primaryDomain) (others : ∀ r, r.id ≠ site.id → f r = r)
    (apart : Nginx.Apart site.primaryDomain w.dirs dirs) : Consistent {w with table, dirs} ↔ Matches dirs (f site) := by
  constructor
  · exact fun next => next.rows _ (rows ▸ List.mem_map_of_mem mem)
  · refine fun here => ⟨fun r inside => ?_,consistent.named,fun domain deleted => ?_⟩
    · obtain ⟨old,there,rfl⟩ := List.mem_map.mp (rows ▸ inside)
      by_cases same : old.id = site.id
      · rw [Rows.equalOfKey w.table.ids there mem same]
        exact here
      · rw [others old same]
        exact matchesApart apart (otherDomain there mem same) (consistent.rows old there)
    · rcases consistent.gone domain deleted with ⟨r,there,same⟩ | gone
      · exact .inl ⟨f r,rows ▸ List.mem_map_of_mem there,(keys r).trans same⟩
      · by_cases same : domain = site.primaryDomain
        · exact .inl ⟨f site,rows ▸ List.mem_map_of_mem mem,(keys site).trans same.symm⟩
        · exact .inr (goneApart apart same (consistent.named domain deleted) gone)

theorem rowAdded (consistent : Consistent w)
    (rows : table.rows = w.table.rows ++ [site]) (unused : ∀ r ∈ w.table.rows, r.primaryDomain ≠ site.primaryDomain)
    (apart : Nginx.Apart site.primaryDomain w.dirs dirs) (here : Matches dirs site) : Consistent {w with table, dirs} := by
  refine ⟨fun r inside => ?_,consistent.named,fun domain deleted => ?_⟩
  · rcases List.mem_append.mp (rows ▸ inside) with old | new
    · exact matchesApart apart (unused r old) (consistent.rows r old)
    · exact List.mem_singleton.mp new ▸ here
  · rcases consistent.gone domain deleted with ⟨r,there,same⟩ | gone
    · exact .inl ⟨r,rows ▸ List.mem_append_left _ there,same⟩
    · by_cases same : domain = site.primaryDomain
      · exact .inl ⟨site,rows ▸ List.mem_append_right _ List.mem_cons_self,same.symm⟩
      · exact .inr (goneApart apart same (consistent.named domain deleted) gone)

theorem rowDeleted (consistent : Consistent w) (mem : site ∈ w.table.rows) :
    Consistent ⟨w.table.delete site.id,Nginx.cleared site.primaryDomain w.dirs,site.primaryDomain::w.deleted⟩ := by
  have apart : Nginx.Apart site.primaryDomain w.dirs (Nginx.cleared site.primaryDomain w.dirs) := Nginx.disabledApart _
  have left : ∀ r, r ∈ (w.table.delete site.id).rows ↔ r ∈ w.table.rows ∧ r.id ≠ site.id := fun r => Rows.memDelete
  refine ⟨fun r inside => ?_,fun domain deleted => ?_,fun domain deleted => ?_⟩
  · obtain ⟨there,other⟩ := (left r).mp inside
    exact matchesApart apart (otherDomain there mem other) (consistent.rows r there)
  · rcases List.mem_cons.mp deleted with rfl | old
    · exact Nginx.siteApart site
    · exact consistent.named domain old
  · by_cases same : domain = site.primaryDomain
    · exact .inr ⟨by simp [Nginx.cleared,same,Nginx.putSame],by simp [Nginx.cleared,same,Nginx.putSame]⟩
    · have old := (List.mem_cons.mp deleted).resolve_left same
      rcases consistent.gone domain old with ⟨r,there,domained⟩ | gone
      · refine .inl ⟨r,(left r).mpr ⟨there,fun equal => same ?_⟩,domained⟩
        rw [← domained,Rows.equalOfKey w.table.ids there mem equal]
      · exact .inr (goneApart apart same (consistent.named domain old) gone)

section Calls

structure Steady (call : Call) : Prop where
  accepting : call.nginx = .accepting
  stored : ∀ statement, call.fault statement = none

def Proper (env : Env) (w : World) (call : Call) : Prop :=
  match call.op with
  | .createSite .. => False
  | .enableSite id | .disableSite id | .deleteSite id =>
    ∃ site, w.table.findById id = some site ∧ mayManage call.caller site = true
  | .changeAliases id aliases => ∃ site, w.table.findById id = some site ∧ mayManage call.caller site = true ∧
      ∃ changed, site.changeAliases env.lower aliases = .ok changed

def Spared (w : World) (call : Call) : Prop :=
  match call.op with
  | .disableSite id => ∀ site, w.table.findById id = some site → site.status = .disabled
  | .changeAliases id _ => ∀ site, w.table.findById id = some site → site.status = .active
  | _ => True

def Allowed (env : Env) (w : World) (call : Call) : Prop := Steady call ∧ (Proper env w call → Spared w call)

variable {env : Env} {call : Call} {w : World}

theorem Steady.executes (steady : Steady call) (ok : f w.table = .ok table) (done : post () {w with table}) :
    Ends (execute call statement f) w post failed := by
  refine .attempts (fun _ next ran => ?_) (fun e error => ?_)
  · simp only [steady.stored,ok,Except.ok.injEq,Prod.mk.injEq] at ran
    exact ran.2 ▸ done
  · simp [steady.stored,ok] at error

theorem Steady.applies (steady : Steady call) (done : ∀ dirs, Nginx.Apart site.primaryDomain w.dirs dirs →
      (dirs.active (activeName site.primaryDomain) = some (.utf8 (Nginx.render site))) → post () {w with dirs})
    (unread : ∀ e dirs, Nginx.Apart site.primaryDomain w.dirs dirs →
      Nginx.Unreadable w.dirs (activeName site.primaryDomain) → failed e {w with dirs}) :
    Ends (generate (Nginx.apply call.nginx site)) w post failed := by
  refine .within (((Nginx.applies site).both (Nginx.appliesConfined site _ _)).weaken ?_ ?_)
  · exact fun _ dirs both => done dirs both.2 both.1.1.1
  · exact fun e dirs both => unread e dirs both.2 (both.1.1.2.resolve_right (by simp [steady.accepting,Nginx.Binary.accepting]))

theorem placedMatches (placed : dirs.active (activeName site.primaryDomain) = some (.utf8 text)) :
    Matches dirs site ↔ site.status = .active := by
  constructor
  · exact fun here => here.served.mp (by simp [placed])
  · refine fun active => ⟨by simp [placed,active],?_⟩
    rintro ⟨bytes,raw⟩
    cases placed.symm.trans raw

theorem statusOther (id) (status) (r) (other : r.id ≠ id) : SiteTable.writeStatus id status r = r := if_neg other

-- How a call can end: `Consistent` afterwards is what being spared is about, and a failure has a reason.
def Went (env : Env) (w : World) (call : Call) (next : World) : Prop :=
  Consistent next ↔ (Proper env w call → Spared w call)

def Refused (env : Env) (w : World) (call : Call) (next : World) : Prop :=
  (Proper env w call → ¬ Spared w call) ∧ (¬ Proper env w call → Consistent next)

theorem notProper (consistent : Consistent w) (proper : ¬ Proper env w call) : Refused env w call w :=
  ⟨fun impossible => absurd impossible proper,fun _ => consistent⟩

theorem managesSteady (steady : Steady call) (consistent : Consistent w) {id} {next : Site → Service Unit}
    (asks : Proper env w call → ∃ site, w.table.findById id = some site ∧ mayManage call.caller site = true)
    (found : ∀ site, w.table.findById id = some site → mayManage call.caller site = true → site ∈ w.table.rows → site.id = id →
      Ends (next site) w post (fun _ => Refused env w call)) :
    Ends (do let site ← getSite call id; assertCanManage call site; next site) w post (fun _ => Refused env w call) := by
  refine manages (fun _ mayNot => notProper consistent (fun proper => ?_)) (fun site there may _ => ?_)
  · obtain ⟨site,there,may⟩ := asks proper
    cases (mayNot (steady.stored _) site there).symm.trans may
  · obtain ⟨mem,ident⟩ := Rows.found there
    exact found site there may mem ident

theorem createSteady (steady : Steady call) (consistent : Consistent w)
    (op : call.op = .createSite ownerId primaryDomain aliases phpEnabled phpVersion documentRoot) :
    Ends (createSite env call ownerId primaryDomain aliases phpEnabled phpVersion documentRoot) w
      (fun _ => Went env w call) (fun _ => Refused env w call) := by
  have proper : ¬ Proper env w call := by simp [Proper,op]
  have refused := notProper consistent proper
  refine .branch (fun _ => ?_) (fun _ => .fails refused)
  refine .andThen (queries (fun _ _ => refused) (fun _ => ?_))
  split
  · exact .fails refused
  · refine .asks (fun site made => ?_) (fun _ _ => refused)
    refine .andThen (executes (fun _ _ => refused) (fun _ stored inserted => ?_))
    obtain ⟨rows,fresh,unused⟩ := insertedRows inserted
    refine .cleansUp (steady.applies (fun dirs apart placed => ?_) (fun _ dirs apart unread => ?_))
    · have here : Matches dirs site := (placedMatches placed).mpr (Site.newFields made).2.2.2.1
      have added : Consistent {w with table := stored, dirs} := rowAdded consistent rows unused apart here
      exact iff_of_true added (fun impossible => absurd impossible proper)
    · -- The row is taken back; a file nobody can read was nobody's.
      refine steady.executes rfl ⟨fun impossible => absurd impossible proper,fun _ => ?_⟩
      have back := rolledBack inserted
      refine ⟨fun r inside => ?_,consistent.named,fun domain deleted => ?_⟩
      · rw [back] at inside
        exact matchesApart apart (unused r inside) (consistent.rows r inside)
      · rcases consistent.gone domain deleted with ⟨r,there,same⟩ | gone
        · exact .inl ⟨r,back ▸ there,same⟩
        · refine .inr (goneApart apart (fun same => ?_) (consistent.named domain deleted) gone)
          obtain ⟨bytes,raw⟩ := unread
          rw [← same,gone.1] at raw
          cases raw

theorem enableSteady (steady : Steady call) (consistent : Consistent w) {id} (op : call.op = .enableSite id) :
    Ends (enableSite call id) w (fun _ => Went env w call) (fun _ => Refused env w call) := by
  refine managesSteady steady consistent (by simp only [Proper,op]; exact fun asks => asks) (fun site found may mem ident => ?_)
  refine .andThen (steady.applies (fun dirs apart placed => ?_) (fun _ _ _ unread => ?_))
  · refine steady.executes rfl (iff_of_true ?_ (fun _ => by simp [Spared,op]))
    refine (rowChanged consistent mem rfl (fun r => (SiteTable.statusKeys id .active r).2.1)
      (fun r other => statusOther id .active r (ident ▸ other)) apart).mpr ?_
    rw [SiteTable.writeStatus,if_pos ident]
    exact (placedMatches placed).mpr rfl
  · exact absurd unread (consistent.rows site mem).readable

theorem disableSteady (steady : Steady call) (consistent : Consistent w) {id} (op : call.op = .disableSite id) :
    Ends (disableSite call id) w (fun _ => Went env w call) (fun _ => Refused env w call) := by
  refine managesSteady steady consistent (by simp only [Proper,op]; exact fun asks => asks) (fun site found may mem ident => ?_)
  have proper : Proper env w call := by
    simp only [Proper,op]
    exact ⟨site,found,may⟩
  have spared : Spared w call ↔ site.status = .disabled := by
    simp only [Spared,op]
    exact ⟨fun all => all site found,fun off other again => Option.some.inj (found.symm.trans again) ▸ off⟩
  have served := (consistent.rows site mem).served
  rw [steady.accepting]
  refine .andThen (.within (((Nginx.disablesAccepted site.disable).both
    (Nginx.disablesConfined site.disable _)).weaken ?_ ?_))
  · rintro _ dirs ⟨⟨absent,gone,_⟩,apart⟩
    have off : site.status = .disabled := by
      cases status : site.status with
      | disabled => rfl
      | active =>
        have there := served.mpr status
        rw [show w.dirs.active (activeName site.primaryDomain) = none from absent] at there
        cases there
    refine steady.executes rfl (iff_of_true ?_ (fun _ => spared.mpr off))
    refine (rowChanged consistent mem rfl (fun r => (SiteTable.statusKeys id .disabled r).2.1)
      (fun r other => statusOther id .disabled r (ident ▸ other)) apart).mpr ?_
    rw [SiteTable.writeStatus,if_pos ident]
    refine ⟨?_,?_⟩
    · rw [show dirs.active (activeName site.primaryDomain) = none from gone]
      exact ⟨nofun,nofun⟩
    · rintro ⟨bytes,raw⟩
      cases (show dirs.active (activeName site.primaryDomain) = none from gone).symm.trans raw
  · rintro _ dirs ⟨there,apart⟩
    refine ⟨fun _ off => ?_,fun impossible => absurd proper impossible⟩
    have active := served.mp (Option.isSome_iff_ne_none.mpr there)
    rw [spared.mp off] at active
    cases active

theorem aliasesSteady (steady : Steady call) (consistent : Consistent w) {id aliases} (op : call.op = .changeAliases id aliases) :
    Ends (changeAliases env call id aliases) w (fun _ => Went env w call) (fun _ => Refused env w call) := by
  refine managesSteady steady consistent ?_ (fun site found may mem ident => ?_)
  · simp only [Proper,op]
    exact fun ⟨site,found,may,_⟩ => ⟨site,found,may⟩
  · refine .asks (fun changed checked => ?_) (fun e rejected => notProper consistent ?_)
    · obtain ⟨_,same,_,domain,status⟩ := Site.changedFields checked
      have proper : Proper env w call := by
        simp only [Proper,op]
        exact ⟨site,found,may,changed,checked⟩
      have spared : Spared w call ↔ site.status = .active := by
        simp only [Spared,op]
        exact ⟨fun all => all site found,fun on other again => Option.some.inj (found.symm.trans again) ▸ on⟩
      refine .andThen (steady.executes rfl (steady.applies (fun dirs apart placed => ?_) (fun _ _ _ unread => ?_)))
      · rw [domain] at apart
        rw [Went,rowChanged consistent mem rfl (fun r => (SiteTable.writtenKeys changed r).2.1)
          (fun r other => dif_neg (fun both => other (both.1.trans same))) apart]
        have kept := SiteTable.writtenKeys changed site
        rw [placedMatches (by rw [kept.2.1,← domain]; exact placed),kept.2.2,← spared]
        exact ⟨fun on _ => on,fun all => all proper⟩
      · rw [domain] at unread
        exact absurd unread (consistent.rows site mem).readable
    · simp only [Proper,op]
      rintro ⟨other,again,_,changed,checked⟩
      cases Option.some.inj (found.symm.trans again)
      cases checked.symm.trans rejected

theorem deleteSteady (steady : Steady call) (consistent : Consistent w) {id} (op : call.op = .deleteSite id) :
    Ends (deleteSite call id) w (fun _ => Went env w call) (fun _ => Refused env w call) := by
  refine managesSteady steady consistent (by simp only [Proper,op]; exact fun asks => asks) (fun site found may mem ident => ?_)
  subst ident
  refine .andThen (.within ((Nginx.removesBoth site).weaken ?_ ?_))
  · rintro _ _ rfl
    refine .andThen (steady.executes rfl (.attempts (fun _ next ok => ?_) nofun))
    cases ok
    exact iff_of_true (rowDeleted consistent mem) (fun _ => by simp [Spared,op])
  · exact fun _ _ both => absurd steady.accepting both.2

theorem servesSteady (steady : Steady call) (consistent : Consistent w) :
    Ends (serve env call) w (fun _ => Went env w call) (fun _ => Refused env w call) := by
  unfold serve
  split
  · exact createSteady steady consistent (by assumption)
  · exact enableSteady steady consistent (by assumption)
  · exact disableSteady steady consistent (by assumption)
  · exact aliasesSteady steady consistent (by assumption)
  · exact deleteSteady steady consistent (by assumption)

theorem allowedConsistent (consistent : Consistent w) (allowed : Allowed env w call) : Consistent (after env call w) := by
  refine ((servesSteady allowed.1 consistent).weaken ?_ ?_).always
  · exact fun _ next went => went.mpr allowed.2
  · exact fun _ next refused => refused.2 (fun proper => refused.1 proper (allowed.2 proper))

theorem servedIffActive {last : World} {calls : List Call} (start : Consistent w)
    (run : Run (fire env) (Allowed env) w calls last) : Consistent last ∧
      ∀ call, Steady call → Proper env last call →
        ((exec (serve env call) last).1 = .ok () ∧ Consistent (after env call last) ↔ Spared last call) := by
  have step : ∀ c call next, Consistent c → Allowed env c call → fire env c call = some next → Consistent next := by
    intro c call next consistent allowed fired
    cases Option.some.inj fired
    exact allowedConsistent consistent allowed
  have consistent : Consistent last := run.keeps step start
  refine ⟨consistent,fun call steady proper => ?_⟩
  have ends : Ends (serve env call) last _ _ := servesSteady steady consistent
  rcases ran : exec (serve env call) last with ⟨e | ⟨⟩,next⟩
  · have refused := (ends.stopped ran).1 proper
    simp [refused]
  · have went := ends.reached ran
    have reached : after env call last = next := congrArg Prod.snd ran
    rw [Went] at went
    simp only [reached,went,true_and]
    exact ⟨fun spared => spared proper,fun spared _ => spared⟩

end Calls

theorem emptyConsistent : Consistent emptyWorld := ⟨by simp [emptyWorld,SiteTable.empty],nofun,nofun⟩

theorem byOwnerSteady (freshId) (op) : Steady (byOwner freshId op) := ⟨rfl,fun _ => rfl⟩

def deleteShop : Call := byOwner 0 (.deleteSite 0x5b)
def disableExample : Call := byOwner 0 (.disableSite 0x5a)

theorem shopOpenedAndClosed : ∃ last, Run (fire panel) (Allowed panel) emptyWorld [createExample,createShop,deleteShop] last ∧
    Consistent last ∧ last.deleted = [chars "shop.test"] := by
  have ran : ∃ last, Run (fire panel) (Allowed panel) emptyWorld [createExample,createShop,deleteShop] last ∧
      last.deleted = [chars "shop.test"] :=
    ⟨_,.cons ⟨byOwnerSteady _ _,fun _ => trivial⟩ rfl (.cons ⟨byOwnerSteady _ _,fun _ => trivial⟩ rfl
      (.cons ⟨byOwnerSteady _ _,fun _ => trivial⟩ rfl (.nil _))),by decide +kernel⟩
  obtain ⟨last,run,closed⟩ := ran
  exact ⟨last,run,(servedIffActive emptyConsistent run).1,closed⟩

theorem disableFails : ∃ w, Run (fire panel) (fun _ call => Steady call) emptyWorld [createExample] w ∧
    (exec (serve panel disableExample) w).1 = .error Nginx.noSuch ∧
    ∃ site ∈ (after panel disableExample w).table.rows, site.status = .active ∧
      (after panel disableExample w).dirs.active (activeName site.primaryDomain) = none := by
  refine ⟨_,.cons (byOwnerSteady _ _) rfl (.nil _),by decide +kernel,?_⟩
  decide +kernel

end OpenPanel.Sites
