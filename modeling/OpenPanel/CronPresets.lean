import OpenPanel.CronChains

/-! Cron presets and the two guards of a working directory. A preset compares the directory
with the owned roots component by component; the directory of a job must also be free of
`..`. Names, cycles and backup bindings of presets are left out. -/
namespace OpenPanel.Cron

inductive CronPresetType where
  | shell | backupSite | backupDb | cutLog | backupDir | syncTime | freeRam | accessUrl
  deriving DecidableEq

def CronPresetType.executable : CronPresetType → String
  | .shell => "/bin/sh"
  | .backupSite => "/usr/sbin/openpanel-backup-site"
  | .backupDb => "/usr/sbin/openpanel-backup-db"
  | .cutLog => "/usr/sbin/openpanel-cut-log"
  | .backupDir => "/usr/sbin/openpanel-backup-dir"
  | .syncTime => "/usr/sbin/chronyd-sync"
  | .freeRam => "/usr/sbin/openpanel-free-ram"
  | .accessUrl => ""

def CronPresetType.defaultTimeoutSecs : CronPresetType → Nat
  | .backupSite | .backupDb | .backupDir => 3600
  | .accessUrl => 60
  | _ => 300

def CronPresetType.isHttp (preset : CronPresetType) : Bool := preset == .accessUrl

-- `Path::components`: the root is `none`, and a `.` counts where a relative path starts with it.
def pathComponents (path : String) : List (Option (List Char)) :=
  if isAbsolute path then none::(components path).map some
  else if (path.toList.splitOn '/').head? = some ['.'] then some ['.']::(components path).map some
  else (components path).map some

def startsWith (path base : String) : Bool := (pathComponents base).isPrefixOf (pathComponents path)

def isUnderOwnedSite (workdir : String) (ownedRoots : List String) : Bool := ownedRoots.any (startsWith workdir)

def isExecutableAllowed (executable : String) (allowList : List String) : Bool :=
  allowList.any (fun allowed => allowed == executable)

structure CompiledPreset where
  preset : CronPresetType
  executable : String
  workdir : String
  timeoutSecs : Nat
  deriving DecidableEq

def presetCompile (preset : CronPresetType) (workdir : String) (ownedRoots allowList : List String) :
    Except PresetError CompiledPreset :=
  if preset.isHttp then .ok ⟨preset,"","/",preset.defaultTimeoutSecs⟩
  else if isUnderOwnedSite workdir ownedRoots = false then .error (.cron .invalidWorkingDirectory)
  else if isExecutableAllowed preset.executable allowList = false then .error (.cron .invalidExecutable)
  else .ok ⟨preset,preset.executable,workdir,preset.defaultTimeoutSecs⟩

def dotDot : List Char := ['.','.']

def resolved (path : String) : List (List Char) :=
  (components path).foldl (fun names part => if part = dotDot then names.dropLast else names ++ [part]) []

theorem foldPlain (plain : dotDot ∉ parts) (names : List (List Char)) :
    parts.foldl (fun names part => if part = dotDot then names.dropLast else names ++ [part]) names = names ++ parts := by
  induction parts generalizing names with
  | nil => simp
  | cons part rest ih =>
    obtain ⟨first,later⟩ := not_or.mp (List.mem_cons.not.mp plain)
    rw [List.foldl_cons,if_neg (fun same => first same.symm),ih later,List.append_assoc]
    rfl

theorem resolvedPlain (plain : dotDot ∉ components path) : resolved path = components path :=
  foldPlain plain []

theorem startsAbsolute (absolute : isAbsolute root = true) (starts : startsWith path root = true) :
    isAbsolute path = true ∧ components root <+: components path := by
  have inside := List.isPrefixOf_iff_prefix.mp starts
  rw [pathComponents,if_pos absolute] at inside
  cases found : isAbsolute path with
  | true =>
    rw [pathComponents,if_pos found,List.cons_prefix_cons] at inside
    have names := inside.2.filterMap id
    simp only [List.filterMap_map,Function.id_comp,List.filterMap_some] at names
    exact ⟨rfl,names⟩
  | false =>
    -- A relative path has no root component to match.
    rw [pathComponents,if_neg (by simp [found])] at inside
    split at inside
    · cases (List.cons_prefix_cons.mp inside).1
    · cases parts : components path with
      | nil => simp [parts] at inside
      | cons part rest =>
        rw [parts,List.map_cons] at inside
        cases (List.cons_prefix_cons.mp inside).1

theorem presetContained {preset : CronPresetType} {workdir : String} {ownedRoots allowList : List String} {compiled : CompiledPreset}
    (absolute : ∀ root ∈ ownedRoots, isAbsolute root = true) (command : preset.isHttp = false)
    (ok : presetCompile preset workdir ownedRoots allowList = .ok compiled) :
    ((∃ root ∈ ownedRoots, resolved root <+: resolved workdir) ∧ OwnedWorkingDirectory.new workdir ownedRoots = .ok workdir) ↔
      dotDot ∉ components workdir := by
  rw [presetCompile,if_neg (by simp [command])] at ok
  split at ok <;> try contradiction
  rename_i owned
  obtain ⟨root,mem,starts⟩ := List.any_eq_true.mp (Bool.not_eq_false _ ▸ owned)
  obtain ⟨rooted,inside⟩ := startsAbsolute (absolute root mem) starts
  constructor
  · rintro ⟨_,accepted⟩ climbs
    rw [OwnedWorkingDirectory.new,if_pos (.inr climbs)] at accepted
    cases accepted
  · intro plain
    refine ⟨⟨root,mem,?_⟩,?_⟩
    · rw [resolvedPlain plain,resolvedPlain (fun climbs => plain (inside.subset climbs))]
      exact inside
    · have held : ownedRoots.any (fun root => isAbsolute root && (components root).isPrefixOf (components workdir)) = true :=
        List.any_eq_true.mpr ⟨root,mem,by simp [absolute root mem,inside]⟩
      rw [OwnedWorkingDirectory.new,if_neg (by simpa [rooted,dotDot] using plain),if_pos held]

theorem siteContained : (∃ root ∈ ["/var/www"], resolved root <+: resolved "/var/www/example.com") ∧
    OwnedWorkingDirectory.new "/var/www/example.com" ["/var/www"] = .ok "/var/www/example.com" :=
  (presetContained (by decide) rfl (show presetCompile .shell "/var/www/example.com" ["/var/www"] ["/bin/sh"] =
    .ok ⟨.shell,"/bin/sh","/var/www/example.com",300⟩ by decide)).mpr (by decide)

theorem presetEscapes : presetCompile .shell "/var/www/../../etc" ["/var/www"] ["/bin/sh"] =
      .ok ⟨.shell,"/bin/sh","/var/www/../../etc",300⟩ ∧
    resolved "/var/www/../../etc" = ["etc".toList] ∧ ¬resolved "/var/www" <+: resolved "/var/www/../../etc" ∧
    OwnedWorkingDirectory.new "/var/www/../../etc" ["/var/www"] = .error .invalidWorkingDirectory := by
  decide

end OpenPanel.Cron
