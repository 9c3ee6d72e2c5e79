import OpenPanel.FirewallService

/-! What one apply does to the chain and to the stored rules, and what a history of
applies makes of the chain. A load only appends: the chain is the candidate's
only if it was empty before, and a failure after the load leaves the candidate
in it. -/
namespace OpenPanel.Security
open Fallible

theorem createDirEnds (done : env.fault step = false → post () host)
    (stopped : env.fault step = true → failed .firewall host) : Ends (createDir env step) host post failed := by
  refine .checks (fun _ ok => ?_) (fun e ran => ?_)
  · split at ok <;> try contradiction
    rename_i present
    exact done (by simpa using present)
  · split at ran <;> try contradiction
    rename_i fault
    cases ran
    exact stopped fault

theorem writeFileEnds (done : env.fault step = false → post () (put (some text) host))
    (stopped : env.fault step = true → failed .firewall (put env.torn host)) : Ends (writeFile env step put text) host post failed := by
  refine .observed (fun _ next ran => ?_) (fun e next ran => ?_)
  all_goals
    unfold writeFile at ran
    split at ran
    all_goals
      rename_i fault
      cases ran
  · exact done (by simpa using fault)
  · exact stopped fault

def FirewallEnv.passes (env : FirewallEnv) (step : FirewallStep) : Bool := !env.fault step && !env.refuses step

theorem runFileEnds (text) (present : file host = some text) (done : env.passes step = true →
      post true (if checkOnly then host else {host with live := host.live ++ nft.lists text}))
    (refused : env.passes step = false → post false host) (stopped : env.passes step = false → failed .firewall host) :
    Ends (runFile nft env step checkOnly file) host post failed := by
  refine .attempts (fun ok next ran => ?_) (fun e ran => ?_)
  all_goals
    simp only [present] at ran
    split at ran
    · rename_i fault
      cases ran
      try exact stopped (by simp [FirewallEnv.passes,fault])
    · rename_i fault
      split at ran
      all_goals
        rename_i refuses
        cases ran
      try exact refused (by simp [FirewallEnv.passes,refuses])
      try exact done (by simp [FirewallEnv.passes,fault,refuses])

structure Staged (host after : FirewallHost) : Prop where
  active : after.active = host.active
  lastGood : after.lastGood = host.lastGood
  live : after.live = host.live
  rules : after.rules = host.rules

def FirewallEnv.checks (env : FirewallEnv) : Bool :=
  !env.fault .checkDir && !env.fault .checkWrite && env.passes .check

theorem checkEnds : Ends (check nft env candidate) host (fun ok after => ok = env.checks ∧ Staged host after)
    (fun _ after => env.checks = false ∧ Staged host after) := by
  refine .andThen (createDirEnds (fun dir => ?_) (fun fault => ?_))
  · refine .andThen (writeFileEnds (fun write => ?_) (fun fault => ?_))
    · have staged : Staged host (putCandidate (some candidate) host) := ⟨rfl,rfl,rfl,rfl⟩
      refine runFileEnds candidate rfl (fun passes => ?_) (fun refused => ?_) (fun refused => ?_)
      · exact ⟨by simp [FirewallEnv.checks,dir,write,passes],staged⟩
      · exact ⟨by simp [FirewallEnv.checks,refused],staged⟩
      · exact ⟨by simp [FirewallEnv.checks,refused],staged⟩
    · exact ⟨by simp [FirewallEnv.checks,fault],⟨rfl,rfl,rfl,rfl⟩⟩
  · exact ⟨by simp [FirewallEnv.checks,fault],⟨rfl,rfl,rfl,rfl⟩⟩

def FirewallHost.fallback (host : FirewallHost) : Option (List Char) := host.active <|> host.lastGood

def FirewallEnv.loads (env : FirewallEnv) (host : FirewallHost) : Bool :=
  !env.fault .applyDir && (host.active.isNone || !env.fault .copyActive) && !env.fault .applyWrite && env.passes .load

theorem keepLastGoodEnds : Ends (keepLastGood env) host (fun _ after => (host.active.isNone || !env.fault .copyActive) = true ∧
      after = {host with lastGood := host.fallback})
    (fun _ after => (host.active.isNone || !env.fault .copyActive) = false ∧ after.live = host.live ∧ after.rules = host.rules) := by
  refine .andThen (.knows rfl ?_)
  cases active : host.active with
  | none =>
    have older : host.fallback = host.lastGood := by simp [FirewallHost.fallback,active]
    exact .returns ⟨rfl,by rw [older,← active]⟩
  | some text =>
    refine writeFileEnds (fun copied => ?_) (fun fault => ?_)
    · exact ⟨by simp [copied],by simp [putLastGood,FirewallHost.fallback,active]⟩
    · exact ⟨by simp [fault],rfl,rfl⟩

theorem applyEnds : Ends (apply nft env candidate) host
    (fun _ after => env.loads host = true ∧ env.fault .rename = false ∧ after.live = host.live ++ nft.lists candidate ∧
      after.rules = host.rules ∧ after.lastGood = host.fallback)
    (fun _ after => after.rules = host.rules ∧ (env.loads host = true → env.fault .rename = true) ∧
      after.live = host.live ++ if env.loads host then nft.lists candidate else []) := by
  refine .andThen (createDirEnds (fun dir => ?_) (fun fault => ?_))
  · refine .after keepLastGoodEnds (fun _ kept copied => ?_) (fun _ after torn => ?_)
    · obtain ⟨copied,rfl⟩ := copied
      refine .andThen (writeFileEnds (fun write => ?_) (fun fault => ?_))
      · refine .andThen (runFileEnds candidate rfl (fun passes => ?_) (fun refused => ?_) (fun refused => ?_))
        · have loads : env.loads host = true := by simp [FirewallEnv.loads,dir,copied,write,passes]
          refine .attempts (fun _ after ran => ?_) (fun e ran => ?_)
          · split at ran <;> try contradiction
            rename_i renamed
            cases ran
            exact ⟨loads,by simpa using renamed,rfl,rfl,rfl⟩
          · split at ran <;> try contradiction
            rename_i fault
            exact ⟨rfl,fun _ => fault,by simp [loads,putCandidate]⟩
        · have stays : env.loads host = false := by simp [FirewallEnv.loads,refused]
          exact .branch (fun yes => by contradiction) (fun _ => .fails ⟨rfl,by simp [stays],by simp [stays,putCandidate]⟩)
        · have stays : env.loads host = false := by simp [FirewallEnv.loads,refused]
          exact ⟨rfl,by simp [stays],by simp [stays,putCandidate]⟩
      · have stays : env.loads host = false := by simp [FirewallEnv.loads,fault]
        exact ⟨rfl,by simp [stays],by simp [stays,putCandidate]⟩
    · have stays : env.loads host = false := by simp [FirewallEnv.loads,torn.1]
      exact ⟨torn.2.2,by simp [stays],by simp [stays,torn.2.1]⟩
  · have stays : env.loads host = false := by simp [FirewallEnv.loads,fault]
    exact ⟨rfl,by simp [stays],by simp [stays]⟩

def restored (nft : Nft) (env : FirewallEnv) (last : Option (List Char)) : List Statement :=
  if env.passes .restore then last.elim [] nft.lists else []

theorem rollbackEnds
    (ends : ∀ e after, after.live = host.live ++ restored nft env host.lastGood → after.rules = host.rules → left e after)
    (e) : Ends (rollback nft env) host (fun _ => left e) left := by
  refine .andThen (.knows rfl ?_)
  cases last : host.lastGood with
  | none => exact .returns (ends _ _ (by simp [restored,last]) rfl)
  | some text =>
    refine .andThen (runFileEnds _ last (fun passes => ?_) (fun refused => ?_) (fun refused => ?_))
    · exact .branch (fun _ => .returns (ends _ _ (by simp [restored,passes,last]) rfl)) (fun no => absurd rfl no)
    · exact .branch (fun yes => by contradiction) (fun _ => .fails (ends _ _ (by simp [restored,refused]) rfl))
    · exact ends _ _ (by simp [restored,refused]) rfl

theorem insertRulesOk (ok : insertRules env index table rules = .ok stored) : stored = table ++ rules := by
  induction rules generalizing index table with
  | nil =>
    cases ok
    simp
  | cons rule rest ih =>
    simp only [insertRules] at ok
    split at ok <;> try contradiction
    simpa using ih ok

theorem replaceRulesEnds : Ends (replaceRules env rules) host
    (fun _ after => after = {host with rules}) (fun _ after => after = host) := by
  refine .attempts (fun _ after ran => ?_) (fun _ _ => rfl)
  split at ran <;> try contradiction
  obtain ⟨table,inserted,ran⟩ := bindOk ran
  split at ran <;> try contradiction
  cases ran
  rw [insertRulesOk inserted,List.nil_append]

def ApplyCall.loads (policy : FirewallPolicy) (call : ApplyCall) (host : FirewallHost) : Bool :=
  decide (policy.validateCandidate call.rules call.confirmation call.env.now = .ok ()) && call.env.checks &&
    call.env.loads host

def ApplyCall.rollsBack (call : ApplyCall) : Bool :=
  !call.env.fault .rename && !decide (call.env.verification = .answered true)

def ApplyCall.appends (nft : Nft) (policy : FirewallPolicy) (call : ApplyCall) (host : FirewallHost) : List Statement :=
  if call.loads policy host then
    enabledStatements call.rules ++ if call.rollsBack then restored nft call.env host.fallback else []
  else []

theorem stagedLoads (env : FirewallEnv) (staged : Staged host mid) : env.loads mid = env.loads host ∧ mid.fallback = host.fallback := by
  simp only [FirewallEnv.loads,FirewallHost.fallback,staged.active,staged.lastGood,and_self]

theorem applyCandidateEnds : Ends (applyCandidate nft policy call) host
    (fun _ after => after.live = host.live ++ enabledStatements call.rules ∧
      call.appends nft policy host = enabledStatements call.rules)
    (fun _ after => after.rules = host.rules ∧ after.live = host.live ++ call.appends nft policy host) := by
  refine .asks (fun candidate previewed => ?_) (fun e refused => ?_)
  · obtain ⟨_,accepted,rendered⟩ := bindOk previewed
    have accepted := mapErrorOk accepted
    cases rendered
    refine .after checkEnds (fun ok mid checked => ?_) (fun e after checked => ?_)
    · obtain ⟨rfl,staged⟩ := checked
      refine .branch (fun checks => ?_) (fun rejected => ?_)
      · have loads : call.loads policy host = call.env.loads mid := by
          simp only [ApplyCall.loads,accepted,checks,(stagedLoads call.env staged).1,decide_true,Bool.true_and]
        refine .after applyEnds (fun _ loaded applied => ?_) (fun e after stopped => ?_)
        · obtain ⟨reached,renamed,live,rules,last⟩ := applied
          rw [listsRuleset,staged.live] at live
          rw [(stagedLoads call.env staged).2] at last
          rw [reached] at loads
          refine .branch (fun verified => ?_) (fun unverified => ?_)
          · have appends : call.appends nft policy host = enabledStatements call.rules := by
              simp [ApplyCall.appends,ApplyCall.rollsBack,loads,verified]
            refine .after replaceRulesEnds (fun _ stored stores => ?_) (fun e after kept => ?_)
            · subst stores
              refine .attempts (fun _ after ran => ?_) (fun e ran => by contradiction)
              cases ran
              exact ⟨by split <;> exact live,appends⟩
            · subst kept
              exact ⟨rules.trans staged.rules,by rw [appends,live]⟩
          · have appends : call.appends nft policy host =
                enabledStatements call.rules ++ restored nft call.env host.fallback := by
              simp [ApplyCall.appends,ApplyCall.rollsBack,loads,renamed,unverified]
            refine .andThen ((rollbackEnds (fun e after grown kept => ?_) .verificationFailed).weaken
              (fun _ _ left => .fails left) (fun _ _ left => left))
            exact ⟨kept.trans (rules.trans staged.rules),by rw [grown,live,last,appends,List.append_assoc]⟩
        · obtain ⟨rules,renamed,live⟩ := stopped
          refine ⟨rules.trans staged.rules,?_⟩
          rw [live,staged.live,listsRuleset,ApplyCall.appends,loads]
          cases reached : call.env.loads mid with
          | false => rfl
          | true => simp [ApplyCall.rollsBack,renamed reached]
      · have stays : call.loads policy host = false := by simp [ApplyCall.loads,rejected]
        exact .fails ⟨staged.rules,by simp [ApplyCall.appends,stays,staged.live]⟩
    · obtain ⟨rejected,staged⟩ := checked
      have stays : call.loads policy host = false := by simp [ApplyCall.loads,rejected]
      exact ⟨staged.rules,by simp [ApplyCall.appends,stays,staged.live]⟩
  · have stays : call.loads policy host = false := by
      have invalid : policy.validateCandidate call.rules call.confirmation call.env.now ≠ .ok () := by
        intro accepted
        simp [preview,accepted,Except.mapError] at refused
      simp [ApplyCall.loads,invalid]
    exact ⟨rfl,by simp [ApplyCall.appends,stays]⟩

-- An nft that reads the lines of the chain by their indentation.
def listedLines (text : List Char) : List Statement :=
  ((text.splitOn '\n').takeWhile (fun line => line.take 2 == [' ',' '])).map (List.drop 2)

theorem listedLinesBack (each : ∀ statement ∈ statements, OneStatement statement) :
    listedLines (statements.flatMap statementLine ++ tableFoot) = statements := by
  induction statements with
  | nil => decide
  | cons statement rest ih =>
    have whole : ∀ c ∈ ' ' :: ' ' :: statement, (c == '\n') = false := by
      obtain ⟨clause,comment,rfl,plain,quoted⟩ := each statement (by simp)
      intro c mem
      have kept : unsafeChar c = false ∨ c = '"' := by
        simp only [List.mem_cons,List.mem_append,List.not_mem_nil,or_false] at mem
        rcases mem with rfl | rfl | (inside | rfl | inside) | rfl
        · exact .inl (by decide)
        · exact .inl (by decide)
        · exact .inl (plain c inside)
        · exact .inr rfl
        · exact .inl (quoted c inside)
        · exact .inr rfl
      rcases kept with plain | rfl
      · exact beq_eq_false_iff_ne.mpr (fun same => by simp [same,unsafeChar,isControl] at plain)
      · decide
    have first : (((statement::rest).flatMap statementLine ++ tableFoot).splitOn '\n') =
        (' ' :: ' ' :: statement)::(rest.flatMap statementLine ++ tableFoot).splitOn '\n' := by
      simp only [List.flatMap_cons,statementLine,List.append_assoc,List.singleton_append]
      exact List.splitOnP_append_cons_of_forall_mem whole '\n' (by decide) _
    have others := ih (fun statement mem => each statement (List.mem_cons_of_mem _ mem))
    simp only [listedLines] at others ⊢
    rw [first,List.takeWhile_cons_of_pos (by simp),List.map_cons,others]
    rfl

def lineNft : Nft where
  lists text := listedLines (text.drop tableHead.length)
  documented := by
    intro statements each
    rw [tableText,List.append_assoc,List.drop_left]
    exact listedLinesBack each

def httpsAllowed : FirewallRule :=
  ⟨1,.tcp,⟨443,443,by decide⟩,⟨.v4 0#32,0,by decide⟩,.allow,"https".toList,true,by decide⟩

def panelAllowed : FirewallRule :=
  ⟨1,.tcp,⟨8443,8443,by decide⟩,⟨.v6 0#128,0,by decide⟩,.allow,"panel".toList,true,by decide⟩

def panelPolicy : FirewallPolicy := ⟨[22,8443],by decide⟩

def calmFirewall : FirewallEnv := ⟨0,fun _ => false,fun _ => false,none,.answered true⟩

def emptyHost : FirewallHost := ⟨none,none,none,[],[],[]⟩

def applied (rules : List FirewallRule) : ApplyCall := ⟨7,rules,none,calmFirewall⟩

def twice : ApplyCall := applied [httpsAllowed,panelAllowed]

section Chain
variable (nft : Nft) (policy : FirewallPolicy)

def serve (host : FirewallHost) (call : ApplyCall) : Except SecurityServiceError Unit × FirewallHost :=
  exec (applyCandidate nft policy call) host

def hostAfter (start : FirewallHost) (history : List ApplyCall) : FirewallHost :=
  history.foldl (fun host call => (serve nft policy host call).2) start

def appended : FirewallHost → List ApplyCall → List Statement
  | _,[] => []
  | host,call::rest => call.appends nft policy host ++ appended (serve nft policy host call).2 rest

theorem serveGrows (host) (call) : (serve nft policy host call).2.live = host.live ++ call.appends nft policy host :=
  Ends.always (applyCandidateEnds.weaken (fun _ after grown => by rw [grown.1,grown.2]) (fun _ after grown => grown.2))

theorem chainGrows (start) (history) : (hostAfter nft policy start history).live = start.live ++ appended nft policy start history := by
  induction history generalizing start with
  | nil => simp [hostAfter,appended]
  | cons call rest ih =>
    have later := ih (serve nft policy start call).2
    rw [serveGrows,List.append_assoc] at later
    exact later

theorem chainIsCandidate (start : FirewallHost) (history : List ApplyCall) (call : ApplyCall)
    (ok : (serve nft policy (hostAfter nft policy start history) call).1 = .ok ()) :
    (hostAfter nft policy start history).live = start.live ++ appended nft policy start history ∧
      ((serve nft policy (hostAfter nft policy start history) call).2.live = enabledStatements call.rules ↔
        (hostAfter nft policy start history).live = []) := by
  have ran : exec (applyCandidate nft policy call) (hostAfter nft policy start history) =
      (.ok (),(serve nft policy (hostAfter nft policy start history) call).2) := Prod.ext ok rfl
  have grown := (applyCandidateEnds.reached ran).1
  refine ⟨chainGrows nft policy start history,?_⟩
  rw [grown,List.append_left_eq_self]

theorem firstChain : (serve lineNft panelPolicy (hostAfter lineNft panelPolicy emptyHost []) (applied [httpsAllowed])).2.live =
    enabledStatements [httpsAllowed] :=
  (chainIsCandidate lineNft panelPolicy emptyHost [] (applied [httpsAllowed]) rfl).2.mpr rfl

theorem secondChain :
    (serve lineNft panelPolicy (hostAfter lineNft panelPolicy emptyHost [applied [httpsAllowed]]) (applied [httpsAllowed])).1 =
        .ok () ∧
      (serve lineNft panelPolicy (hostAfter lineNft panelPolicy emptyHost [applied [httpsAllowed]]) (applied [httpsAllowed])).2.live
        ≠ enabledStatements [httpsAllowed] :=
  ⟨rfl,by decide⟩

/-- A failed call leaves the host alone only if it did not get to loading, or what
it loaded, and what a rollback loaded on top, lists no rules. -/
def ApplyCall.Harmless (call : ApplyCall) (host : FirewallHost) : Prop :=
  call.loads policy host = true → enabledStatements call.rules = [] ∧
    (call.rollsBack = true → restored nft call.env host.fallback = [])

instance (call : ApplyCall) (host : FirewallHost) : Decidable (call.Harmless nft policy host) := by
  unfold ApplyCall.Harmless
  infer_instance

theorem failedApply (host : FirewallHost) (call : ApplyCall) (e : SecurityServiceError)
    (failed : (serve nft policy host call).1 = .error e) :
    ((serve nft policy host call).2.live = host.live ∧ (serve nft policy host call).2.rules = host.rules) ↔
      call.Harmless nft policy host := by
  have ran : exec (applyCandidate nft policy call) host = (.error e,(serve nft policy host call).2) := Prod.ext failed rfl
  obtain ⟨rules,live⟩ := applyCandidateEnds.stopped ran
  rw [live,rules,List.append_right_eq_self]
  cases loads : call.loads policy host <;> cases back : call.rollsBack <;>
    simp [ApplyCall.Harmless,ApplyCall.appends,loads,back]

theorem refusedApply : (serve lineNft panelPolicy emptyHost {twice with env.refuses := fun step => step == .load}).2.live = [] :=
  ((failedApply lineNft panelPolicy emptyHost {twice with env.refuses := fun step => step == .load} .firewall
    rfl).mpr (by decide)).1

theorem unstoredLoaded : (serve lineNft panelPolicy emptyHost twice).1 = .error .persistence ∧
    ¬((serve lineNft panelPolicy emptyHost twice).2.live = emptyHost.live ∧
      (serve lineNft panelPolicy emptyHost twice).2.rules = emptyHost.rules) :=
  ⟨rfl,by decide⟩

end Chain

end OpenPanel.Security
