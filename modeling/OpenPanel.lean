import OpenPanel.PoolCommitment
import OpenPanel.EffectiveCache
import OpenPanel.DeploymentOnce
import OpenPanel.DeliveryOutcomes
import OpenPanel.PointInTime
import OpenPanel.RestoreDrills
import OpenPanel.ServerSnapshots
import OpenPanel.PlanAgreement
import OpenPanel.DnsAdmission
import OpenPanel.DnsLeases
import OpenPanel.FirewallApplies
import OpenPanel.FirewallLockout
import OpenPanel.LoginBlocks
import OpenPanel.SshKeysService
import OpenPanel.FactorRevocation
import OpenPanel.LoginEvidence
import OpenPanel.AccountService
import OpenPanel.SessionExpiry
import OpenPanel.AuditPages
import OpenPanel.JobSupervisor
import OpenPanel.TokenRevocation
import OpenPanel.RegistryAccounting
import OpenPanel.SiteFeatures
import OpenPanel.SiteHostnames
import OpenPanel.SiteServing
import OpenPanel.FileManager
import OpenPanel.CronTick
import OpenPanel.AgentRevocation
import OpenPanel.CatalogRevocation
import OpenPanel.CronPresets
import OpenPanel.AccountTree
import OpenPanel.DiagnosticText
import OpenPanel.DockerEvidence
import OpenPanel.SsoSecrets
import OpenPanel.MigrationScripts
import OpenPanel.ControlEffects
import OpenPanel.ManifestImports
import OpenPanel.NotificationDispatch
