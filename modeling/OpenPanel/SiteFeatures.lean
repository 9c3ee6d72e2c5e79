import OpenPanel.HttpControls
import OpenPanel.SiteService

/-! The services that keep a document of their own for a site and write the one
configuration file they share: the firewall's rule set, the HTTP controls, and the site
with its aliases. Each renders the site with its own snippet and with no other. Writing
password files may fail. -/
namespace OpenPanel.Features
open Fallible GuardedRun
open Nginx (chars activeName Content globalLines localLines render renderWithWaf replaceFirst)
open Sites (Site World Caller Call SiteTable)
open Waf (RuleSet WafError)
open HttpControls (SiteHttpControls SiteHttpError AddressReader)

def Holds (text snippet : List Char) : Prop := globalLines snippet <:+: text ∧ localLines snippet <:+: text

def serverNameLine (site : Site) : List Char := chars "    server_name " ++ Nginx.serverNames site ++ chars ";\n"

def mark : List Char := chars "    location "

theorem markChars : mark = [' ',' ',' ',' ','l','o','c','a','t','i','o','n',' '] := by decide

theorem holdsNothing (text) : Holds text [] := ⟨⟨[],text,rfl⟩,⟨[],text,rfl⟩⟩

theorem skipOne (different : mark.isPrefixOf (c::rest) = false) :
    replaceFirst mark other (c::rest) = c::replaceFirst mark other rest := by
  rw [replaceFirst,if_neg (by simp [different])]

theorem skipWord (solid : ∀ c ∈ word, c ≠ ' ') : replaceFirst mark other (word ++ rest) = word ++ replaceFirst mark other rest := by
  induction word with
  | nil => rfl
  | cons c word ih =>
    have first : mark.isPrefixOf (c::(word ++ rest)) = false := by
      rw [markChars,List.isPrefixOf_cons_cons,beq_eq_false_iff_ne.mpr (Ne.symm (solid c List.mem_cons_self)),Bool.false_and]
    rw [List.cons_append,skipOne first,ih (fun c mem => solid c (List.mem_cons_of_mem _ mem)),List.cons_append]

theorem skipBlank (solid : c ≠ ' ') : replaceFirst mark other (' '::c::rest) = ' '::replaceFirst mark other (c::rest) := by
  refine skipOne ?_
  rw [markChars,List.isPrefixOf_cons_cons,List.isPrefixOf_cons_cons,beq_eq_false_iff_ne.mpr (Ne.symm solid),Bool.false_and,
    Bool.and_false]

theorem namesFirst (present : name ≠ []) (solid : ∀ c ∈ name, c ≠ ' ') :
    ∃ c tail, [' '].intercalate (name::more) = c::tail ∧ c ≠ ' ' := by
  obtain ⟨c,tail,rfl⟩ := List.exists_cons_of_ne_nil present
  cases more with
  | nil => exact ⟨c,tail,by rw [List.intercalate_singleton],solid c List.mem_cons_self⟩
  | cons => exact ⟨c,_,by rw [List.intercalate_cons_cons]; rfl,solid c List.mem_cons_self⟩

theorem skipNames (solid : ∀ name ∈ names, name ≠ [] ∧ ∀ c ∈ name, c ≠ ' ') :
    replaceFirst mark other ([' '].intercalate names ++ rest) = [' '].intercalate names ++ replaceFirst mark other rest := by
  induction names with
  | nil => rfl
  | cons name more ih =>
    have whole := (solid name List.mem_cons_self).2
    have later := ih (fun name mem => solid name (List.mem_cons_of_mem _ mem))
    cases more with
    | nil =>
      rw [List.intercalate_singleton]
      exact skipWord whole
    | cons next more =>
      obtain ⟨present,inside⟩ := solid next (by simp)
      obtain ⟨c,tail,first,start⟩ : ∃ c tail, [' '].intercalate (next::more) = c::tail ∧ c ≠ ' ' := namesFirst present inside
      rw [List.intercalate_cons_cons,List.append_assoc,List.append_assoc,skipWord whole,List.singleton_append]
      rw [first] at later ⊢
      rw [List.cons_append,skipBlank start,← List.cons_append,later]
      simp

def clash : List Char → List Char → Bool
  | a::pattern,b::text => a != b || clash pattern text
  | _,_ => false

def clear : List Char → Bool
  | [] => true
  | c::text => clash mark (c::text) && clear text

theorem clashing (apart : clash pattern text = true) : pattern.isPrefixOf (text ++ rest) = false := by
  induction pattern generalizing text with
  | nil => cases text <;> simp [clash] at apart
  | cons a pattern ih =>
    cases text with
    | nil => simp [clash] at apart
    | cons b text =>
      rw [List.cons_append,List.isPrefixOf_cons_cons]
      simp only [clash,Bool.or_eq_true,bne_iff_ne] at apart
      rcases apart with different | later
      · rw [beq_eq_false_iff_ne.mpr different,Bool.false_and]
      · rw [ih later,Bool.and_false]

theorem skipClear (free : clear text = true) : replaceFirst mark other (text ++ rest) = text ++ replaceFirst mark other rest := by
  induction text with
  | nil => rfl
  | cons c text ih =>
    obtain ⟨here,later⟩ := Bool.and_eq_true_iff.mp free
    rw [List.cons_append,skipOne (by rw [← List.cons_append]; exact clashing here),ih later,List.cons_append]

theorem replacedInfix (there : mark <:+: text) : other <:+: replaceFirst mark other text := by
  induction text with
  | nil =>
    exact absurd there (by decide)
  | cons c text ih =>
    rw [replaceFirst]
    split
    · exact ⟨[],_,rfl⟩
    · rename_i start
      rcases List.infix_cons_iff.mp there with here | later
      · exact absurd (List.isPrefixOf_iff_prefix.mpr here) start
      · exact List.infix_cons (ih later)

theorem hostSolid (site : Site) : ∀ name ∈ site.hostnames, name ≠ [] ∧ ∀ c ∈ name, c ≠ ' ' := by
  refine fun name mem => ⟨(site.hostnameChars mem).1,fun c inside same => ?_⟩
  exact absurd ((site.hostnameChars mem).2 c inside) (same ▸ by decide)

def lead : List Char := chars "# Managed by OpenPanel. Do not edit by hand.\nserver \x7b\n    listen 80;\n    listen [::]:80;\n"

def body (site : Site) : List Char :=
  '\n'::(Nginx.rootLines site ++ (Nginx.logLines site ++ (chars "\n    client_max_body_size 100M;\n" ++ Nginx.routeLines site)))

theorem renderedParts (site) : render site = lead ++ (serverNameLine site ++ body site) := by
  have head : chars "# Managed by OpenPanel. Do not edit by hand.\nserver \x7b\n    listen 80;\n    listen [::]:80;\n    server_name " =
      lead ++ chars "    server_name " := by decide
  have close : chars ";\n\n" = chars ";\n" ++ ['\n'] := by decide
  simp only [render,Nginx.renderFull,Nginx.httpVhost,Nginx.httpHead,Nginx.acmeBlock,body,serverNameLine,head,close,
    List.append_assoc,List.append_nil,List.nil_append,List.cons_append]

theorem replacedParts (site) : replaceFirst mark other (render site) =
    lead ++ (serverNameLine site ++ replaceFirst mark other (body site)) := by
  have names := hostSolid site
  obtain ⟨c,tail,first,start⟩ : ∃ c tail, Nginx.serverNames site = c::tail ∧ c ≠ ' ' :=
    namesFirst (names _ List.mem_cons_self).1 (names _ List.mem_cons_self).2
  have keyword : chars "    server_name " = chars "    server_name" ++ [' '] := by decide
  have free : clear (lead ++ chars "    server_name") = true := by decide
  have solid : ∀ c ∈ chars ";\n", c ≠ ' ' := by simp [chars]
  calc replaceFirst mark other (render site)
      = replaceFirst mark other ((lead ++ chars "    server_name") ++ (' '::(Nginx.serverNames site ++ (chars ";\n" ++ body site)))) := by
        rw [renderedParts,serverNameLine,keyword]
        simp only [List.append_assoc,List.nil_append,List.cons_append]
    _ = (lead ++ chars "    server_name") ++ (' '::replaceFirst mark other (Nginx.serverNames site ++ (chars ";\n" ++ body site))) := by
        rw [skipClear free,first,List.cons_append,skipBlank start]
    _ = lead ++ (serverNameLine site ++ replaceFirst mark other (body site)) := by
        rw [Nginx.serverNames,skipNames names,skipWord solid,serverNameLine,keyword]
        simp only [Nginx.serverNames,List.append_assoc,List.nil_append,List.cons_append]

theorem bodyMarked (site) : mark <:+: body site := by
  have route : mark <:+: Nginx.routeLines site := by
    have start : chars "\n    location / \x7b\n        " = ['\n'] ++ (mark ++ chars "/ \x7b\n        ") := by decide
    rw [Nginx.routeLines,start]
    exact List.infix_append' ['\n'] mark _
  refine List.infix_cons (List.IsInfix.trans route ?_)
  exact ((List.suffix_append _ _).trans ((List.suffix_append _ _).trans (List.suffix_append _ _))).isInfix

theorem renderedHolds (site) (snippet) :
    Holds (renderWithWaf site snippet) snippet ∧ serverNameLine site <:+: renderWithWaf site snippet := by
  unfold renderWithWaf
  split
  · rename_i empty
    refine ⟨empty ▸ holdsNothing _,?_⟩
    rw [renderedParts]
    exact ⟨lead,body site,by simp⟩
  · rw [show chars "    location " = mark from rfl,replacedParts]
    refine ⟨⟨(List.prefix_append _ _).isInfix,?_⟩,⟨globalLines snippet ++ lead,_,by simp only [List.append_assoc]; rfl⟩⟩
    have placed : localLines snippet ++ chars "\n    location " <:+:
        replaceFirst mark (localLines snippet ++ chars "\n    location ") (body site) := replacedInfix (bodyMarked site)
    refine List.IsInfix.trans (List.prefix_append _ _).isInfix (placed.trans ?_)
    exact ((List.suffix_append _ _).trans ((List.suffix_append _ _).trans (List.suffix_append _ _))).isInfix

section Services

structure Stored where
  world : World
  waf : Uuid → Option RuleSet
  http : Uuid → Option SiteHttpControls

structure Panel where
  sites : Sites.Env
  reader : AddressReader
  authDir : List Char

inductive PutStep where | findSite | get | passwordFiles | put

structure Put where
  caller : Caller
  nginx : Nginx.Binary
  fault : PutStep → Option String

def bounded (message : String) : String := String.ofList (message.toList.take 512)

def assign {α : Type} (table : Uuid → Option α) (id : Uuid) (a : α) : Uuid → Option α :=
  fun other => if other = id then some a else table other

structure DocumentService (δ ε : Type) where
  forbidden : ε
  siteNotFound : Uuid → ε
  persistence : String → ε
  rejected : String → ε
  validated : δ → Except ε δ
  siteId : δ → Uuid
  compile : δ → Except ε (List Char)
  passwords : δ → Bool
  get : Stored → Uuid → Option δ
  store : Stored → (Uuid → Option δ) → Stored

namespace DocumentService

variable (service : DocumentService δ ε) (request : Put)

def query {α : Type} (step : PutStep) (f : Stored → α) : Prog Stored ε α := reads (fun s =>
  match request.fault step with
  | some message => .error (service.persistence (bounded message))
  | none => .ok (f s))

def requireSite (id : Uuid) : Prog Stored ε Site := do
  let row ← service.query request .findSite (fun s => s.world.table.findById id)
  match row with
  | none => throw (service.siteNotFound id)
  | some site => pure site

def apply (site : Site) (snippet : List Char) : Prog Stored ε Unit :=
  zoom (fun s : Stored => s.world.dirs) (fun dirs s => {s with world := {s.world with dirs}})
    (fun e => service.rejected (bounded e.message)) (Nginx.applyWithWaf request.nginx site snippet)

def save (desired : δ) : Prog Stored ε Unit := attempt (fun s =>
  match request.fault .put with
  | some message => .error (service.persistence (bounded message))
  | none => .ok ((),service.store s (assign (service.get s) (service.siteId desired) desired)))

def put [DecidableEq δ] (asked : δ) : Prog Stored ε δ :=
  if request.caller.role = .owner then do
    let desired ← reads (fun _ => service.validated asked)
    let site ← service.requireSite request (service.siteId desired)
    let current ← service.query request .get (fun s => service.get s (service.siteId desired))
    if current = some desired then pure desired
    else do
      let snippet ← reads (fun _ => service.compile desired)
      (if service.passwords desired then service.query request .passwordFiles (fun _ => ()) else pure ())
      service.apply request site snippet
      service.save request desired
      pure desired
  else throw service.forbidden

end DocumentService

def wafService : DocumentService RuleSet WafError where
  forbidden := .forbidden
  siteNotFound := .siteNotFound
  persistence := .persistence
  rejected := .compile
  validated := RuleSet.validated
  siteId := RuleSet.siteId
  compile := Waf.compile
  passwords _ := false
  get := Stored.waf
  store s waf := {s with waf}

def join (dir name : List Char) : List Char :=
  if dir = [] ∨ dir.getLast? = some '/' then dir ++ name else dir ++ '/'::name

def htpasswdPrefix (panel : Panel) (siteId : Uuid) : List Char := join panel.authDir (chars siteId.hyphenated)

def httpService (panel : Panel) : DocumentService SiteHttpControls SiteHttpError where
  forbidden := .forbidden
  siteNotFound := .siteNotFound
  persistence := .persistence
  rejected := .persistence
  validated := SiteHttpControls.validated panel.reader
  siteId := SiteHttpControls.siteId
  compile c := .ok (HttpControls.compile (htpasswdPrefix panel c.siteId) c)
  passwords c := !c.protectedDirs.isEmpty
  get := Stored.http
  store s http := {s with http}

inductive Request where
  | waf (request : Put) (desired : RuleSet)
  | http (request : Put) (desired : SiteHttpControls)
  | site (call : Call)

def succeeded {ε α : Type} : Except ε α × Stored → Option Stored
  | (.ok _,next) => some next
  | (.error _,_) => none

def onSite (prog : Sites.Service Unit) : Prog Stored Sites.SiteError Unit :=
  zoom Stored.world (fun world s => {s with world}) id prog

def fire (panel : Panel) (s : Stored) : Request → Option Stored
  | .waf request desired => succeeded (exec (wafService.put request desired) s)
  | .http request desired => succeeded (exec ((httpService panel).put request desired) s)
  | .site call => succeeded (exec (onSite (Sites.serve panel.sites call)) s)

end Services

section Composition

namespace DocumentService

def Held (service : DocumentService δ ε) (s : Stored) (id : Uuid) (text : List Char) : Prop :=
  ∀ doc snippet, service.get s id = some doc → service.compile doc = .ok snippet → Holds text snippet

def Silent (service : DocumentService δ ε) (s : Stored) (id : Uuid) : Prop :=
  ∀ doc, service.get s id = some doc → service.compile doc = .ok []

def Repeats (service : DocumentService δ ε) (s : Stored) (asked : δ) : Prop :=
  ∃ desired, service.validated asked = .ok desired ∧ service.get s (service.siteId desired) = some desired

variable {service : DocumentService δ ε} {request : Put}

theorem silentHeld {id} (silent : service.Silent s id) (text) : service.Held s id text := by
  intro doc snippet stored compiled
  cases (silent doc stored).symm.trans compiled
  exact holdsNothing text

theorem queries (read : post (f s) s) : Ends (service.query request step f) s post (fun _ _ => True) := by
  refine .checks (fun a ok => ?_) (fun _ _ => trivial)
  split at ok <;> try contradiction
  exact Except.ok.inj ok ▸ read

theorem passwordFiles (desired) :
    Ends (if service.passwords desired then service.query request .passwordFiles (fun _ => ()) else pure ()) s
      (fun _ next => next = s) (fun _ _ => True) :=
  Ends.branch (fun _ => queries rfl) (fun _ => .returns rfl)

theorem puts [DecidableEq δ] (asked) : Ends (service.put request asked) s (fun desired next =>
    service.validated asked = .ok desired ∧ ∃ site, s.world.table.findById (service.siteId desired) = some site ∧
      (service.get s (service.siteId desired) = some desired ∧ next = s ∨
        service.get s (service.siteId desired) ≠ some desired ∧ ∃ snippet dirs, service.compile desired = .ok snippet ∧
          dirs.active (activeName site.primaryDomain) = some (.utf8 (renderWithWaf site snippet)) ∧
          next = service.store {s with world := {s.world with dirs}}
            (assign (service.get {s with world := {s.world with dirs}}) (service.siteId desired) desired))) (fun _ _ => True) := by
  refine .branch (fun _ => ?_) (fun _ => .fails trivial)
  refine .asks (fun desired valid => ?_) (fun _ _ => trivial)
  refine .andThen (.andThen (queries ?_))
  split
  · exact .fails trivial
  · rename_i site found
    refine .returns (.andThen (queries (.branch (fun same => ?_) (fun new => ?_))))
    · exact .returns ⟨valid,site,found,.inl ⟨same,rfl⟩⟩
    · refine .asks (fun snippet compiled => ?_) (fun _ _ => trivial)
      refine .after (passwordFiles desired) ?_ (fun _ _ _ => trivial)
      rintro _ _ rfl
      refine .andThen (.within ((Nginx.applies site).weaken (fun _ dirs placed => ?_) (fun _ _ _ => trivial)))
      refine .andThen (.attempts (fun _ next ok => ?_) (fun _ _ => trivial))
      split at ok <;> try contradiction
      cases ok
      exact .returns ⟨valid,site,found,.inr ⟨new,snippet,dirs,compiled,placed.1.1,rfl⟩⟩

end DocumentService

def Carries (panel : Panel) (id : Uuid) (s : Stored) : Prop :=
  ∃ site text, s.world.table.findById id = some site ∧
    s.world.dirs.active (activeName site.primaryDomain) = some (.utf8 text) ∧ serverNameLine site <:+: text ∧
    wafService.Held s id text ∧ (httpService panel).Held s id text

def Alone (panel : Panel) (id : Uuid) (s : Stored) : Request → Prop
  | .waf _ asked => asked.siteId = id ∧ (wafService.Repeats s asked ∨ (httpService panel).Silent s id)
  | .http _ asked => asked.siteId = id ∧ ((httpService panel).Repeats s asked ∨ wafService.Silent s id)
  | .site call => (call.op = .enableSite id ∨ ∃ aliases, call.op = .changeAliases id aliases) ∧
      wafService.Silent s id ∧ (httpService panel).Silent s id

variable {panel : Panel} {id : Uuid} {s next : Stored}

theorem goneThrough (went : succeeded result = some next) : ∃ a, result = (.ok a,next) := by
  unfold succeeded at went
  split at went <;> try contradiction
  cases went
  exact ⟨_,rfl⟩

theorem putCarries [DecidableEq δ] {own : DocumentService δ ε} {other : DocumentService δ' ε'}
    (written : ∀ s table, own.get (own.store s table) = table ∧ other.get (own.store s table) = other.get s ∧
      (own.store s table).world = s.world) (framed : ∀ (s) world, other.get {s with world} = other.get s) {asked desired : δ}
    (ran : exec (own.put request asked) s = (.ok desired,next))
    (named : own.siteId desired = id) (alone : own.Repeats s asked ∨ other.Silent s id) :
    next = s ∨ ∃ site text, next.world.table.findById id = some site ∧
      next.world.dirs.active (activeName site.primaryDomain) = some (.utf8 text) ∧ serverNameLine site <:+: text ∧
      own.Held next id text ∧ other.Held next id text := by
  obtain ⟨valid,site,found,same | ⟨new,snippet,dirs,compiled,placed,rfl⟩⟩ := (DocumentService.puts asked).reached ran
  · exact .inl same.2
  · have silent : other.Silent s id := by
      rcases alone with ⟨again,checked,stored⟩ | silent
      · cases valid.symm.trans checked
        exact absurd stored new
      · exact silent
    subst named
    obtain ⟨holds,names⟩ := renderedHolds site snippet
    obtain ⟨mine,others,world⟩ := written {s with world := {s.world with dirs}}
      (assign (own.get {s with world := {s.world with dirs}}) (own.siteId desired) desired)
    refine .inr ⟨site,_,by rw [world]; exact found,by rw [world]; exact placed,names,?_,?_⟩
    · intro doc again stored compiledAgain
      rw [mine,assign,if_pos rfl] at stored
      cases stored
      cases compiled.symm.trans compiledAgain
      exact holds
    · refine DocumentService.silentHeld ?_ _
      unfold DocumentService.Silent
      rw [others,framed]
      exact silent

theorem plainCarries (found : next.world.table.findById id = some row)
    (names : row.hostnames = site.hostnames) (domain : row.primaryDomain = site.primaryDomain)
    (placed : next.world.dirs.active (activeName site.primaryDomain) = some (.utf8 (render site)))
    (waf : wafService.Silent next id) (http : (httpService panel).Silent next id) : Carries panel id next := by
  refine ⟨row,render site,found,domain ▸ placed,?_,DocumentService.silentHeld waf _,DocumentService.silentHeld http _⟩
  have line : serverNameLine row = serverNameLine site := by
    unfold serverNameLine Nginx.serverNames
    rw [names]
  rw [line,renderedParts]
  exact ⟨lead,body site,by simp⟩

theorem foundMapped {t : SiteTable} {f : Site → Site} (keys : ∀ r, (f r).id = r.id)
    (found : t.findById id = some site) : (t.rows.map f).find? (fun r => r.id == id) = some (f site) := by
  rw [List.find?_map]
  have same : (fun r : Site => r.id == id) ∘ f = fun r => r.id == id := funext (fun r => by simp [keys])
  rw [same,show t.rows.find? (fun r => r.id == id) = some site from found]
  rfl

theorem rewrites (op : call.op = .enableSite id ∨ ∃ aliases, call.op = .changeAliases id aliases) :
    Ends (Sites.serve env call) w (fun _ next => ∃ row site, next.table.findById id = some row ∧
      row.hostnames = site.hostnames ∧ row.primaryDomain = site.primaryDomain ∧
      next.dirs.active (activeName site.primaryDomain) = some (.utf8 (render site))) (fun _ _ => True) := by
  rcases op with op | ⟨aliases,op⟩
  · simp only [Sites.serve,op]
    refine Sites.manages (fun _ _ => trivial) (fun site found _ _ => ?_)
    refine .andThen (.within ((Nginx.applies site.enable).weaken (fun _ dirs placed => ?_) (fun _ _ _ => trivial)))
    refine Sites.executes (fun _ _ => trivial) (fun _ table ran => ?_)
    cases Except.ok.inj ran
    have keys := SiteTable.statusKeys id .active
    exact ⟨_,site.enable,foundMapped (fun r => (keys r).1) found,(keys site).2.2,(keys site).2.1,placed.1.1⟩
  · simp only [Sites.serve,op]
    refine Sites.manages (fun _ _ => trivial) (fun site found _ _ => ?_)
    refine .asks (fun changed checked => ?_) (fun _ _ => trivial)
    refine .andThen (Sites.executes (fun _ _ => trivial) (fun _ table ran => ?_))
    cases Except.ok.inj ran
    refine .within ((Nginx.applies changed).weaken (fun _ dirs placed => ?_) (fun _ _ _ => trivial))
    obtain ⟨_,same,_,domain,_⟩ := Site.changedFields checked
    have keys := SiteTable.writtenKeys changed
    refine ⟨_,changed,foundMapped (fun r => (keys r).1) found,?_,(keys site).2.1.trans domain.symm,placed.1.1⟩
    have written : (SiteTable.writeAliases changed site).aliases = changed.aliases := by
      rw [SiteTable.writeAliases,dif_pos ⟨same.symm,domain.symm⟩]
    rw [Site.hostnames,Site.hostnames,written,(keys site).2.1,domain]

theorem stepCarries {request} (carries : Carries panel id s) (alone : Alone panel id s request)
    (fired : fire panel s request = some next) : Carries panel id next := by
  cases request with
  | waf request asked =>
    obtain ⟨desired,ran⟩ := goneThrough fired
    have valid := ((DocumentService.puts asked).reached ran).1
    have named : desired.siteId = id := (RuleSet.validatedRules valid).1.trans alone.1
    rcases putCarries (fun _ _ => ⟨rfl,rfl,rfl⟩) (fun _ _ => rfl) ran named alone.2 with
      rfl | ⟨site,text,found,placed,names,waf,http⟩
    · exact carries
    · exact ⟨site,text,found,placed,names,waf,http⟩
  | http request asked =>
    obtain ⟨desired,ran⟩ := goneThrough fired
    have valid := ((DocumentService.puts asked).reached ran).1
    have named : desired.siteId = id := (SiteHttpControls.validatedValid valid).1.trans alone.1
    rcases putCarries (fun _ _ => ⟨rfl,rfl,rfl⟩) (fun _ _ => rfl) ran named alone.2 with
      rfl | ⟨site,text,found,placed,names,http,waf⟩
    · exact carries
    · exact ⟨site,text,found,placed,names,waf,http⟩
  | site call =>
    obtain ⟨_,ran⟩ := goneThrough fired
    obtain ⟨op,waf,http⟩ := alone
    have ends : Ends (onSite (Sites.serve panel.sites call)) s (fun _ next => Carries panel id next) (fun _ _ => True) := by
      refine .within ((rewrites op).weaken ?_ (fun _ _ _ => trivial))
      rintro _ world ⟨row,site,found,names,domain,placed⟩
      exact plainCarries found names domain placed waf http
    exact ends.reached ran

theorem featuresCompose {last : Stored} {requests : List Request} (start : Carries panel id s)
    (run : Run (fire panel) (Alone panel id) s requests last) : Carries panel id last :=
  run.keeps (fun _ _ _ carries alone fired => stepCarries carries alone fired) start

end Composition

def samplePanel : Panel := ⟨Sites.panel,HttpControls.noAddresses,chars "/var/lib/openpanel/htpasswd"⟩

def opened : Stored := ⟨Sites.after Sites.panel Sites.createExample Sites.emptyWorld,fun _ => none,fun _ => none⟩

def owner : Put := ⟨⟨0x0a,.owner⟩,.accepting,fun _ => none⟩

def capped : RuleSet := ⟨0x5a,1,.allow,[⟨0x71,true,10,0,none,.bodySizeCap 1024⟩]⟩

def capBodies : Request := .waf owner capped
def dropAlias : Request := .site (Sites.byOwner 0 (.changeAliases 0x5a []))

theorem openedCarries : Carries samplePanel 0x5a opened := plainCarries rfl rfl rfl rfl nofun nofun

theorem rulesKept : ∃ last, Run (fire samplePanel) (Alone samplePanel 0x5a) opened [capBodies,capBodies] last ∧
    last.waf 0x5a = some capped ∧ Carries samplePanel 0x5a last := by
  have ran : ∃ last, Run (fire samplePanel) (Alone samplePanel 0x5a) opened [capBodies,capBodies] last ∧
      last.waf 0x5a = some capped :=
    ⟨_,.cons ⟨rfl,.inr nofun⟩ rfl (.cons ⟨rfl,.inl ⟨capped,rfl,rfl⟩⟩ rfl (.nil _)),rfl⟩
  obtain ⟨last,run,stored⟩ := ran
  exact ⟨last,run,stored,featuresCompose openedCarries run⟩

def fileOf (s : Stored) (id : Uuid) : Option Content :=
  (s.world.table.findById id).bind (fun site => s.world.dirs.active (activeName site.primaryDomain))

def lacks (s : Stored) (id : Uuid) (snippet : List Char) : Bool :=
  match fileOf s id with
  | some (.utf8 text) => !decide (localLines snippet <:+: text)
  | _ => true

theorem lackingLost {s id set snippet} (stored : s.waf id = some set)
    (compiled : Waf.compile set = .ok snippet) (lost : lacks s id snippet = true) : ¬ Carries samplePanel id s := by
  rintro ⟨site,text,found,placed,_,held,_⟩
  have file : fileOf s id = some (.utf8 text) := by rw [fileOf,found]; exact placed
  rw [lacks,file] at lost
  exact of_decide_eq_false (by simpa using lost) (held set snippet stored compiled).2

theorem aliasesDropRules : ∃ mid last, fire samplePanel opened capBodies = some mid ∧ Carries samplePanel 0x5a mid ∧
    fire samplePanel mid dropAlias = some last ∧ last.waf 0x5a = some capped ∧ ¬ Carries samplePanel 0x5a last := by
  have alone : Alone samplePanel 0x5a opened capBodies := ⟨rfl,.inr nofun⟩
  refine ⟨_,_,rfl,stepCarries openedCarries alone rfl,rfl,rfl,?_⟩
  exact lackingLost rfl rfl (by decide +kernel)

end OpenPanel.Features
