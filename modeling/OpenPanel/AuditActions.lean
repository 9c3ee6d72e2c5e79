import OpenPanel.Rows

/-! The audited actions and their two stored encodings: the name an action is
written under, and the table by which a name is read back. The table was not
extended with every action, and a row whose name it does not have is skipped. -/
namespace OpenPanel.Audit

inductive AuditAction where
  | login | logout | userCreated | userUpdated | userDisabled | userEnabled | userDeleted | roleChanged
  | passwordChanged | permissionDenied | siteCreated | siteDeleted | siteEnabled | siteDisabled | siteOwnerChanged
  | sslIssued | sslManualUploaded | sslSelfSignedGenerated | sslRevoked | sslDeleted | sslForceHttpsChanged
  | databaseCreated | databaseDeleted | databasePasswordChanged | fileUploaded | fileUpdated | fileRenamed
  | fileModeChanged | fileDeleted | alertFired | settingsChanged | cronChanged | cronRun | backupChanged | backupRun
  | backupRestore | logDownloaded | dbPrivilegeGranted | dbPrivilegeRevoked | dbRemoteAccessChanged
  | dbAdminToolLaunched | ipPoolChanged | ipAllocated | ipReleased | ipVhostRebound | billingChargebackComputed
  | billingWebhookAccepted | billingWebhookRejected | lbMemberChanged | wpScanned | wpUpdated | wpUpdateRolledBack
  | wpCacheChanged | wildcardCertIssued | wildcardCertFailed | runtimeChanged | isolationApplied
  | isolationEnforceFailed | dnsSecEnabled | dnsSecDisabled | dnsSecDsPublished | antispamChanged | sieveApplied
  | gitDeployed | forgeProviderRequestAccepted | forgeProviderMutationSucceeded | forgeProviderMutationDenied
  | forgeProviderMutationFailed | forgeProviderIdempotencyReplay | maintenanceWindowCreated | firewallChanged
  | securityBlockChanged | serviceChanged | dnsChanged | mailChanged | softwareChanged | softwareArtifactInstalled
  | twoFactorEnrolled | twoFactorVerified | twoFactorFailed | twoFactorRevoked | recoveryCodeConsumed
  | deviceRemembered | wafChanged | siteHttpControlsChanged | siteTransportChanged | logsPolicyChanged | sshKeyChanged
  | deliverabilityChecked | terminalOpened | terminalClosed | ssoLogin | snapshotCreated | snapshotRestored
  | snapshotPruned | sessionRevoked | dockerImagePulled | dockerSpecRejected | dockerCapabilityDenied
  | dockerOomKilled | dockerChanged | dockerEgressDenied | ftpChanged | ftpLogin | ftpLoginDenied | ftpChrootEscape
  | ftpTlsRequired | ftpConcurrentLimit | ftpTransferLimit | ftpBindFailed | ftpListenerRestart | webDavChanged
  | mailCaptureStored | mailCapturePurged | mailCaptureToggled | webDavLogin | webDavLoginDenied | tokenCreated
  | tokenRotated | tokenRevoked | tokenRequest | tokenExpired | tokenScopeRejected | tokenCidrRejected
  | tokenRateLimited | notificationChanged | deliveryRejected | deliverySucceeded | deliveryFailed | pitrStreamEnabled
  | pitrStreamPaused | pitrStreamResumed | pitrStreamBroken | pitrRestoreRequested | pitrRestorePromoted
  | pitrRestoreFailed | pitrIncrementalCaptured | stagingSlotCreated | stagingSlotDeleted | stagingSnapshotTaken
  | stagingPromoted | stagingPromotionRolledBack | previewCreated | previewReady | previewDestroyed
  | statusPagePolicyChanged | pluginInstalled | pluginEnabled | pluginDisabled | pluginUninstalled
  | pluginManifestRejected | pluginInstalledFromMarketplace | collaboratorInvited | collaboratorUpdated
  | collaboratorRevoked | registryImagePushed | registryImagePruned | aiAsked | aiToolCalled | aiActionExecuted
  | aiActionDenied | hardeningApplied | hardeningReverted | auditRetentionChanged | auditPurged | gdprExportRequested
  | osUpdateApplied | containerStartQuotaBlocked | containerQuotaPlanOverride | containerImagePulled
  | containerEgressLimitRaised | bandwidthThresholdCrossed | planCreated | planUpdated | planDisabled | planEnabled
  | planCloned | planDeleted | planDeleteBlocked | planAssigned | planReassigned | planUnassigned
  | accountHierarchyChildCreated | accountHierarchyAttached | accountHierarchyDetached | accountHierarchyPoolSet
  | accountHierarchyPoolClaimed | accountHierarchyPoolReleased | quotaPolicyChanged | quotaPolicyDeleted
  | quotaSoftLimitReached | quotaHardLimitReached | agentRegistered | agentRevoked | fleetTokenIssued
  | fleetTokenRevoked | recipeManifestStored | clusterNodeDeclared | clusterNodeRoleChanged | clusterStorageDeclared
  | clusterReplicatedDatabaseDeclared | migrationPreviewed | migrationRunCommitted | migrationRunRolledBack
  | migrationRollbackCompleted | migrationAlreadyImportedRejected | backupCredentialCreated | backupCredentialDeleted
  | backupCredentialInUseRejected | backupRemoteTargetAttached | backupRemoteTested | siteCachePolicyUpdated
  | siteCachePolicyApplied | siteCachePolicyRolledBack | cdnIntegrationCreated | cdnIntegrationDeleted | cdnPurged
  | cdnPurgePartial | cdnCredentialDecryptFailed | siteCloned | siteClonedFromTemplate | clonePiiAnonymised
  | cloneKeptPii | siteTemplateExported | templateSignatureFailed | themeOverrideUpdated | themeOverrideCleared
  | webAppInstallPlanned | webAppInstalled | installArtifactRejected | webAppUninstalled | webAppUninstalledDroppedDb
  | scanProfileCreated | scanCompleted | quarantineRecordCreated | quarantineRecordRestored | siteBlockedQuarantined
  | siteBlockExpired | webmailSessionCreated | webmailCsrfRejected
  deriving DecidableEq

def AuditAction.asStr : AuditAction → String
  | .login => "login"
  | .logout => "logout"
  | .userCreated => "user_created"
  | .userUpdated => "user_updated"
  | .userDisabled => "user_disabled"
  | .userEnabled => "user_enabled"
  | .userDeleted => "user_deleted"
  | .roleChanged => "role_changed"
  | .passwordChanged => "password_changed"
  | .permissionDenied => "permission_denied"
  | .siteCreated => "site_created"
  | .siteDeleted => "site_deleted"
  | .siteEnabled => "site_enabled"
  | .siteDisabled => "site_disabled"
  | .siteOwnerChanged => "site_owner_changed"
  | .sslIssued => "ssl_issued"
  | .sslManualUploaded => "ssl_manual_uploaded"
  | .sslSelfSignedGenerated => "ssl_self_signed_generated"
  | .sslRevoked => "ssl_revoked"
  | .sslDeleted => "ssl_deleted"
  | .sslForceHttpsChanged => "ssl_force_https_changed"
  | .databaseCreated => "database_created"
  | .databaseDeleted => "database_deleted"
  | .databasePasswordChanged => "database_password_changed"
  | .fileUploaded => "file_uploaded"
  | .fileUpdated => "file_updated"
  | .fileRenamed => "file_renamed"
  | .fileModeChanged => "file_mode_changed"
  | .fileDeleted => "file_deleted"
  | .alertFired => "alert_fired"
  | .settingsChanged => "settings_changed"
  | .cronChanged => "cron_changed"
  | .cronRun => "cron_run"
  | .backupChanged => "backup_changed"
  | .backupRun => "backup_run"
  | .backupRestore => "backup_restore"
  | .logDownloaded => "log_downloaded"
  | .firewallChanged => "firewall_changed"
  | .securityBlockChanged => "security_block_changed"
  | .serviceChanged => "service_changed"
  | .dnsChanged => "dns_changed"
  | .mailChanged => "mail_changed"
  | .softwareChanged => "software_changed"
  | .softwareArtifactInstalled => "software_artifact_installed"
  | .twoFactorEnrolled => "two_factor_enrolled"
  | .twoFactorVerified => "two_factor_verified"
  | .twoFactorFailed => "two_factor_failed"
  | .twoFactorRevoked => "two_factor_revoked"
  | .recoveryCodeConsumed => "recovery_code_consumed"
  | .deviceRemembered => "device_remembered"
  | .wafChanged => "waf_changed"
  | .dockerImagePulled => "docker_image_pulled"
  | .dockerSpecRejected => "docker_spec_rejected"
  | .dockerCapabilityDenied => "docker_capability_denied"
  | .dockerOomKilled => "docker_oom_killed"
  | .dockerChanged => "docker_changed"
  | .dockerEgressDenied => "docker_egress_denied"
  | .ftpChanged => "ftp_changed"
  | .ftpLogin => "ftp_login"
  | .ftpLoginDenied => "ftp_login_denied"
  | .ftpChrootEscape => "ftp_chroot_escape"
  | .ftpTlsRequired => "ftp_tls_required"
  | .ftpConcurrentLimit => "ftp_concurrent_limit"
  | .ftpTransferLimit => "ftp_transfer_limit"
  | .ftpBindFailed => "ftp_bind_failed"
  | .ftpListenerRestart => "ftp_listener_restart"
  | .webDavChanged => "webdav_changed"
  | .mailCaptureStored => "mail_capture_stored"
  | .mailCapturePurged => "mail_capture_purged"
  | .mailCaptureToggled => "mail_capture_toggled"
  | .webDavLogin => "webdav_login"
  | .webDavLoginDenied => "webdav_login_denied"
  | .tokenCreated => "token_created"
  | .tokenRotated => "token_rotated"
  | .tokenRevoked => "token_revoked"
  | .tokenRequest => "token_request"
  | .tokenExpired => "token_expired"
  | .tokenScopeRejected => "token_scope_rejected"
  | .tokenCidrRejected => "token_cidr_rejected"
  | .tokenRateLimited => "token_rate_limited"
  | .notificationChanged => "notification_changed"
  | .deliveryRejected => "delivery_rejected"
  | .deliverySucceeded => "delivery_succeeded"
  | .deliveryFailed => "delivery_failed"
  | .pitrStreamEnabled => "pitr_stream_enabled"
  | .pitrStreamPaused => "pitr_stream_paused"
  | .pitrStreamResumed => "pitr_stream_resumed"
  | .pitrStreamBroken => "pitr_stream_broken"
  | .pitrRestoreRequested => "pitr_restore_requested"
  | .pitrRestorePromoted => "pitr_restore_promoted"
  | .pitrRestoreFailed => "pitr_restore_failed"
  | .pitrIncrementalCaptured => "pitr_incremental_captured"
  | .stagingSlotCreated => "staging_slot_created"
  | .stagingSlotDeleted => "staging_slot_deleted"
  | .stagingSnapshotTaken => "staging_snapshot_taken"
  | .stagingPromoted => "staging_promoted"
  | .stagingPromotionRolledBack => "staging_promotion_rolled_back"
  | .previewCreated => "preview_created"
  | .previewReady => "preview_ready"
  | .previewDestroyed => "preview_destroyed"
  | .statusPagePolicyChanged => "status_page_policy_changed"
  | .pluginInstalled => "plugin_installed"
  | .pluginEnabled => "plugin_enabled"
  | .pluginDisabled => "plugin_disabled"
  | .pluginUninstalled => "plugin_uninstalled"
  | .pluginManifestRejected => "plugin_manifest_rejected"
  | .pluginInstalledFromMarketplace => "plugin_installed_from_marketplace"
  | .collaboratorInvited => "collaborator_invited"
  | .collaboratorUpdated => "collaborator_updated"
  | .collaboratorRevoked => "collaborator_revoked"
  | .registryImagePushed => "registry_image_pushed"
  | .registryImagePruned => "registry_image_pruned"
  | .aiAsked => "ai_asked"
  | .aiToolCalled => "ai_tool_called"
  | .aiActionExecuted => "ai_action_executed"
  | .aiActionDenied => "ai_action_denied"
  | .hardeningApplied => "hardening_applied"
  | .hardeningReverted => "hardening_reverted"
  | .auditRetentionChanged => "audit_retention_changed"
  | .auditPurged => "audit_purged"
  | .gdprExportRequested => "gdpr_export_requested"
  | .dbPrivilegeGranted => "db_privilege_granted"
  | .dbPrivilegeRevoked => "db_privilege_revoked"
  | .dbRemoteAccessChanged => "db_remote_access_changed"
  | .dbAdminToolLaunched => "db_admin_tool_launched"
  | .ipPoolChanged => "ip_pool_changed"
  | .ipAllocated => "ip_allocated"
  | .ipReleased => "ip_released"
  | .ipVhostRebound => "ip_vhost_rebound"
  | .billingChargebackComputed => "billing_chargeback_computed"
  | .billingWebhookAccepted => "billing_webhook_accepted"
  | .billingWebhookRejected => "billing_webhook_rejected"
  | .lbMemberChanged => "lb_member_changed"
  | .wpScanned => "wp_scanned"
  | .wpUpdated => "wp_updated"
  | .wpUpdateRolledBack => "wp_update_rolled_back"
  | .wpCacheChanged => "wp_cache_changed"
  | .wildcardCertIssued => "wildcard_cert_issued"
  | .wildcardCertFailed => "wildcard_cert_failed"
  | .runtimeChanged => "runtime_changed"
  | .isolationApplied => "isolation_applied"
  | .isolationEnforceFailed => "isolation_enforce_failed"
  | .dnsSecEnabled => "dnssec_enabled"
  | .dnsSecDisabled => "dnssec_disabled"
  | .dnsSecDsPublished => "dnssec_ds_published"
  | .antispamChanged => "antispam_changed"
  | .sieveApplied => "sieve_applied"
  | .gitDeployed => "git_deployed"
  | .forgeProviderRequestAccepted => "forge_provider_request_accepted"
  | .forgeProviderMutationSucceeded => "forge_provider_mutation_succeeded"
  | .forgeProviderMutationDenied => "forge_provider_mutation_denied"
  | .forgeProviderMutationFailed => "forge_provider_mutation_failed"
  | .forgeProviderIdempotencyReplay => "forge_provider_idempotency_replay"
  | .maintenanceWindowCreated => "maintenance_window_created"
  | .osUpdateApplied => "os_update_applied"
  | .containerStartQuotaBlocked => "container_start_quota_blocked"
  | .containerQuotaPlanOverride => "container_quota_plan_override"
  | .containerImagePulled => "container_image_pulled"
  | .containerEgressLimitRaised => "container_egress_limit_raised"
  | .bandwidthThresholdCrossed => "bandwidth_threshold_crossed"
  | .planCreated => "plan_created"
  | .planUpdated => "plan_updated"
  | .planDisabled => "plan_disabled"
  | .planEnabled => "plan_enabled"
  | .planCloned => "plan_cloned"
  | .planDeleted => "plan_deleted"
  | .planDeleteBlocked => "plan_delete_blocked"
  | .planAssigned => "plan_assigned"
  | .planReassigned => "plan_reassigned"
  | .planUnassigned => "plan_unassigned"
  | .accountHierarchyChildCreated => "account_hierarchy_child_created"
  | .accountHierarchyAttached => "account_hierarchy_attached"
  | .accountHierarchyDetached => "account_hierarchy_detached"
  | .accountHierarchyPoolSet => "account_hierarchy_pool_set"
  | .accountHierarchyPoolClaimed => "account_hierarchy_pool_claimed"
  | .accountHierarchyPoolReleased => "account_hierarchy_pool_released"
  | .quotaPolicyChanged => "quota_policy_changed"
  | .quotaPolicyDeleted => "quota_policy_deleted"
  | .quotaSoftLimitReached => "quota_soft_limit_reached"
  | .quotaHardLimitReached => "quota_hard_limit_reached"
  | .agentRegistered => "agent_registered"
  | .agentRevoked => "agent_revoked"
  | .fleetTokenIssued => "fleet_token_issued"
  | .fleetTokenRevoked => "fleet_token_revoked"
  | .recipeManifestStored => "recipe_manifest_stored"
  | .clusterNodeDeclared => "cluster_node_declared"
  | .clusterNodeRoleChanged => "cluster_node_role_changed"
  | .clusterStorageDeclared => "cluster_storage_declared"
  | .clusterReplicatedDatabaseDeclared => "cluster_replicated_database_declared"
  | .migrationPreviewed => "migration_previewed"
  | .migrationRunCommitted => "migration_run_committed"
  | .migrationRunRolledBack => "migration_run_rolled_back"
  | .migrationRollbackCompleted => "migration_rollback_completed"
  | .migrationAlreadyImportedRejected => "migration_already_imported_rejected"
  | .backupCredentialCreated => "backup_credential_created"
  | .backupCredentialDeleted => "backup_credential_deleted"
  | .backupCredentialInUseRejected => "backup_credential_in_use_rejected"
  | .backupRemoteTargetAttached => "backup_remote_target_attached"
  | .backupRemoteTested => "backup_remote_tested"
  | .siteCachePolicyUpdated => "site_cache_policy_updated"
  | .siteCachePolicyApplied => "site_cache_policy_applied"
  | .siteCachePolicyRolledBack => "site_cache_policy_rolled_back"
  | .cdnIntegrationCreated => "cdn_integration_created"
  | .cdnIntegrationDeleted => "cdn_integration_deleted"
  | .cdnPurged => "cdn_purged"
  | .cdnPurgePartial => "cdn_purge_partial"
  | .cdnCredentialDecryptFailed => "cdn_credential_decrypt_failed"
  | .siteCloned => "site_cloned"
  | .siteClonedFromTemplate => "site_cloned_from_template"
  | .clonePiiAnonymised => "clone_pii_anonymised"
  | .cloneKeptPii => "clone_kept_pii"
  | .siteTemplateExported => "site_template_exported"
  | .templateSignatureFailed => "template_signature_failed"
  | .themeOverrideUpdated => "theme_override_updated"
  | .themeOverrideCleared => "theme_override_cleared"
  | .webAppInstallPlanned => "web_app_install_planned"
  | .webAppInstalled => "web_app_installed"
  | .installArtifactRejected => "install_artifact_rejected"
  | .webAppUninstalled => "web_app_uninstalled"
  | .webAppUninstalledDroppedDb => "web_app_uninstalled_dropped_db"
  | .scanProfileCreated => "scan_profile_created"
  | .scanCompleted => "scan_completed"
  | .quarantineRecordCreated => "quarantine_record_created"
  | .quarantineRecordRestored => "quarantine_record_restored"
  | .siteBlockedQuarantined => "site_blocked_quarantined"
  | .siteBlockExpired => "site_block_expired"
  | .webmailSessionCreated => "webmail_session_created"
  | .webmailCsrfRejected => "webmail_csrf_rejected"
  | .siteHttpControlsChanged => "site_http_controls_changed"
  | .siteTransportChanged => "site_transport_changed"
  | .logsPolicyChanged => "logs_policy_changed"
  | .sshKeyChanged => "ssh_key_changed"
  | .deliverabilityChecked => "deliverability_checked"
  | .terminalOpened => "terminal_opened"
  | .terminalClosed => "terminal_closed"
  | .ssoLogin => "sso_login"
  | .snapshotCreated => "snapshot_created"
  | .snapshotRestored => "snapshot_restored"
  | .snapshotPruned => "snapshot_pruned"
  | .sessionRevoked => "session_revoked"

-- The arms of `parse_action`, in its order.
def actionNames : List (String × AuditAction) :=
  [("login",.login),("logout",.logout),("user_created",.userCreated),("user_updated",.userUpdated),
   ("user_disabled",.userDisabled),("user_enabled",.userEnabled),("user_deleted",.userDeleted),
   ("role_changed",.roleChanged),("password_changed",.passwordChanged),("permission_denied",.permissionDenied),
   ("site_created",.siteCreated),("site_deleted",.siteDeleted),("site_enabled",.siteEnabled),
   ("site_disabled",.siteDisabled),("site_owner_changed",.siteOwnerChanged),("ssl_issued",.sslIssued),
   ("ssl_manual_uploaded",.sslManualUploaded),("ssl_self_signed_generated",.sslSelfSignedGenerated),
   ("ssl_revoked",.sslRevoked),("ssl_deleted",.sslDeleted),("ssl_force_https_changed",.sslForceHttpsChanged),
   ("database_created",.databaseCreated),("database_deleted",.databaseDeleted),
   ("database_password_changed",.databasePasswordChanged),("file_uploaded",.fileUploaded),
   ("file_updated",.fileUpdated),("file_renamed",.fileRenamed),("file_mode_changed",.fileModeChanged),
   ("file_deleted",.fileDeleted),("alert_fired",.alertFired),("settings_changed",.settingsChanged),
   ("cron_changed",.cronChanged),("cron_run",.cronRun),("backup_changed",.backupChanged),("backup_run",.backupRun),
   ("backup_restore",.backupRestore),("log_downloaded",.logDownloaded),("firewall_changed",.firewallChanged),
   ("security_block_changed",.securityBlockChanged),("service_changed",.serviceChanged),("dns_changed",.dnsChanged),
   ("mail_changed",.mailChanged),("software_changed",.softwareChanged),
   ("software_artifact_installed",.softwareArtifactInstalled),("two_factor_enrolled",.twoFactorEnrolled),
   ("two_factor_verified",.twoFactorVerified),("two_factor_failed",.twoFactorFailed),
   ("two_factor_revoked",.twoFactorRevoked),("recovery_code_consumed",.recoveryCodeConsumed),
   ("device_remembered",.deviceRemembered),("waf_changed",.wafChanged),
   ("site_http_controls_changed",.siteHttpControlsChanged),("site_transport_changed",.siteTransportChanged),
   ("db_remote_access_changed",.dbRemoteAccessChanged),("db_privilege_granted",.dbPrivilegeGranted),
   ("db_privilege_revoked",.dbPrivilegeRevoked),("db_admin_tool_launched",.dbAdminToolLaunched),
   ("runtime_changed",.runtimeChanged),("logs_policy_changed",.logsPolicyChanged),("ssh_key_changed",.sshKeyChanged),
   ("deliverability_checked",.deliverabilityChecked),("terminal_opened",.terminalOpened),
   ("terminal_closed",.terminalClosed),("sso_login",.ssoLogin),("snapshot_created",.snapshotCreated),
   ("snapshot_restored",.snapshotRestored),("snapshot_pruned",.snapshotPruned),("session_revoked",.sessionRevoked),
   ("docker_image_pulled",.dockerImagePulled),("docker_spec_rejected",.dockerSpecRejected),
   ("docker_capability_denied",.dockerCapabilityDenied),("docker_oom_killed",.dockerOomKilled),
   ("docker_changed",.dockerChanged),("docker_egress_denied",.dockerEgressDenied),("ftp_changed",.ftpChanged),
   ("ftp_login",.ftpLogin),("ftp_login_denied",.ftpLoginDenied),("ftp_chroot_escape",.ftpChrootEscape),
   ("ftp_tls_required",.ftpTlsRequired),("ftp_concurrent_limit",.ftpConcurrentLimit),
   ("ftp_transfer_limit",.ftpTransferLimit),("ftp_bind_failed",.ftpBindFailed),
   ("ftp_listener_restart",.ftpListenerRestart),("webdav_changed",.webDavChanged),
   ("mail_capture_stored",.mailCaptureStored),("mail_capture_purged",.mailCapturePurged),
   ("mail_capture_toggled",.mailCaptureToggled),("webdav_login",.webDavLogin),
   ("webdav_login_denied",.webDavLoginDenied),("token_created",.tokenCreated),("token_rotated",.tokenRotated),
   ("token_revoked",.tokenRevoked),("token_request",.tokenRequest),("token_expired",.tokenExpired),
   ("token_scope_rejected",.tokenScopeRejected),("token_cidr_rejected",.tokenCidrRejected),
   ("token_rate_limited",.tokenRateLimited),("notification_changed",.notificationChanged),
   ("delivery_rejected",.deliveryRejected),("delivery_succeeded",.deliverySucceeded),
   ("delivery_failed",.deliveryFailed),("pitr_stream_enabled",.pitrStreamEnabled),
   ("pitr_stream_paused",.pitrStreamPaused),("pitr_stream_resumed",.pitrStreamResumed),
   ("pitr_stream_broken",.pitrStreamBroken),("pitr_restore_requested",.pitrRestoreRequested),
   ("pitr_restore_promoted",.pitrRestorePromoted),("pitr_restore_failed",.pitrRestoreFailed),
   ("pitr_incremental_captured",.pitrIncrementalCaptured),("staging_slot_created",.stagingSlotCreated),
   ("staging_slot_deleted",.stagingSlotDeleted),("staging_snapshot_taken",.stagingSnapshotTaken),
   ("staging_promoted",.stagingPromoted),("staging_promotion_rolled_back",.stagingPromotionRolledBack),
   ("preview_created",.previewCreated),("preview_ready",.previewReady),("preview_destroyed",.previewDestroyed),
   ("container_start_quota_blocked",.containerStartQuotaBlocked),
   ("container_quota_plan_override",.containerQuotaPlanOverride),("container_image_pulled",.containerImagePulled),
   ("container_egress_limit_raised",.containerEgressLimitRaised),
   ("bandwidth_threshold_crossed",.bandwidthThresholdCrossed),("plan_created",.planCreated),
   ("plan_updated",.planUpdated),("plan_disabled",.planDisabled),("plan_enabled",.planEnabled),
   ("plan_cloned",.planCloned),("plan_deleted",.planDeleted),("plan_delete_blocked",.planDeleteBlocked),
   ("plan_assigned",.planAssigned),("plan_reassigned",.planReassigned),("plan_unassigned",.planUnassigned),
   ("account_hierarchy_child_created",.accountHierarchyChildCreated),
   ("account_hierarchy_attached",.accountHierarchyAttached),("account_hierarchy_detached",.accountHierarchyDetached),
   ("account_hierarchy_pool_set",.accountHierarchyPoolSet),
   ("account_hierarchy_pool_claimed",.accountHierarchyPoolClaimed),
   ("account_hierarchy_pool_released",.accountHierarchyPoolReleased),("quota_policy_changed",.quotaPolicyChanged),
   ("quota_policy_deleted",.quotaPolicyDeleted),("quota_soft_limit_reached",.quotaSoftLimitReached),
   ("quota_hard_limit_reached",.quotaHardLimitReached),("agent_registered",.agentRegistered),
   ("agent_revoked",.agentRevoked),("fleet_token_issued",.fleetTokenIssued),
   ("fleet_token_revoked",.fleetTokenRevoked),("recipe_manifest_stored",.recipeManifestStored),
   ("cluster_node_declared",.clusterNodeDeclared),("cluster_node_role_changed",.clusterNodeRoleChanged),
   ("cluster_storage_declared",.clusterStorageDeclared),
   ("cluster_replicated_database_declared",.clusterReplicatedDatabaseDeclared),
   ("migration_previewed",.migrationPreviewed),("migration_run_committed",.migrationRunCommitted),
   ("migration_run_rolled_back",.migrationRunRolledBack),("migration_rollback_completed",.migrationRollbackCompleted),
   ("migration_already_imported_rejected",.migrationAlreadyImportedRejected),
   ("backup_credential_created",.backupCredentialCreated),("backup_credential_deleted",.backupCredentialDeleted),
   ("backup_credential_in_use_rejected",.backupCredentialInUseRejected),
   ("backup_remote_target_attached",.backupRemoteTargetAttached),("backup_remote_tested",.backupRemoteTested),
   ("site_cache_policy_updated",.siteCachePolicyUpdated),("site_cache_policy_applied",.siteCachePolicyApplied),
   ("site_cache_policy_rolled_back",.siteCachePolicyRolledBack),("cdn_integration_created",.cdnIntegrationCreated),
   ("cdn_integration_deleted",.cdnIntegrationDeleted),("cdn_purged",.cdnPurged),
   ("cdn_purge_partial",.cdnPurgePartial),("cdn_credential_decrypt_failed",.cdnCredentialDecryptFailed),
   ("site_cloned",.siteCloned),("site_cloned_from_template",.siteClonedFromTemplate),
   ("clone_pii_anonymised",.clonePiiAnonymised),("clone_kept_pii",.cloneKeptPii),
   ("site_template_exported",.siteTemplateExported),("template_signature_failed",.templateSignatureFailed),
   ("theme_override_updated",.themeOverrideUpdated),("theme_override_cleared",.themeOverrideCleared),
   ("web_app_install_planned",.webAppInstallPlanned),("web_app_installed",.webAppInstalled),
   ("install_artifact_rejected",.installArtifactRejected),("web_app_uninstalled",.webAppUninstalled),
   ("web_app_uninstalled_dropped_db",.webAppUninstalledDroppedDb),("scan_profile_created",.scanProfileCreated),
   ("scan_completed",.scanCompleted),("quarantine_record_created",.quarantineRecordCreated),
   ("quarantine_record_restored",.quarantineRecordRestored),("site_blocked_quarantined",.siteBlockedQuarantined),
   ("site_block_expired",.siteBlockExpired),("webmail_session_created",.webmailSessionCreated),
   ("webmail_csrf_rejected",.webmailCsrfRejected),("forge_provider_request_accepted",.forgeProviderRequestAccepted),
   ("forge_provider_mutation_succeeded",.forgeProviderMutationSucceeded),
   ("forge_provider_mutation_denied",.forgeProviderMutationDenied),
   ("forge_provider_mutation_failed",.forgeProviderMutationFailed),
   ("forge_provider_idempotency_replay",.forgeProviderIdempotencyReplay)]

def parseAction (name : String) : Option AuditAction :=
  (actionNames.find? (fun entry => entry.1 == name)).map Prod.snd

def allActions : List AuditAction := (List.range 240).map AuditAction.ofNat

theorem memAllActions (action) : action ∈ allActions := by
  have bound : action.ctorIdx < 240 := Nat.le_of_ble_eq_true (by cases action <;> rfl)
  exact List.mem_map.mpr ⟨action.ctorIdx,List.mem_range.mpr bound,AuditAction.ofNat_ctorIdx action⟩

-- The bytes of a text as one number, so that texts are compared as numbers.
def code (text : String) : Nat := text.toByteArray.data.toList.foldl (fun n b => n * 256 + b.toNat) 1

-- The remainders seen so far are the bits of one number; 5615 tells all codes apart.
def remaindersDiffer : List Nat → Nat → Bool
  | [],_ => true
  | n::rest,seen => !seen.testBit (n % 5615) && remaindersDiffer rest (seen ||| 1 <<< (n % 5615))

theorem remaindersDistinct (checked : remaindersDiffer values seen = true) :
    values.Nodup ∧ ∀ n ∈ values, seen.testBit (n % 5615) = false := by
  induction values generalizing seen with
  | nil => exact ⟨List.nodup_nil,by simp⟩
  | cons n rest ih =>
    simp only [remaindersDiffer,Bool.and_eq_true,Bool.not_eq_true'] at checked
    obtain ⟨distinct,unseen⟩ := ih checked.2
    have apart : ∀ m ∈ rest, seen.testBit (m % 5615) = false ∧ m % 5615 ≠ n % 5615 := by
      intro m mem
      have clear := unseen m mem
      simp only [Nat.testBit_or,Nat.one_shiftLeft,Nat.testBit_two_pow,Bool.or_eq_false_iff,decide_eq_false_iff_not] at clear
      exact ⟨clear.1,Ne.symm clear.2⟩
    refine ⟨List.nodup_cons.mpr ⟨fun mem => (apart n mem).2 rfl,distinct⟩,?_⟩
    intro m mem
    rcases List.mem_cons.mp mem with rfl | later
    · exact checked.1
    · exact (apart m later).1

theorem codesDistinct : (allActions.map (fun action => code action.asStr)).Nodup := by
  have checked : remaindersDiffer (allActions.map (fun action => code action.asStr)) 0 = true := by decide +kernel
  exact (remaindersDistinct checked).1

theorem asStrInj {a b : AuditAction} (same : a.asStr = b.asStr) : a = b :=
  List.inj_on_of_nodup_map codesDistinct (memAllActions a) (memAllActions b) (congrArg code same)

def Recognised (action : AuditAction) : Prop := action ∈ actionNames.map Prod.snd

instance (action) : Decidable (Recognised action) := inferInstanceAs (Decidable (action ∈ _))

set_option maxRecDepth 4000 in
theorem namesWritten : actionNames = (actionNames.map Prod.snd).map (fun action => (action.asStr,action)) := rfl

theorem parseIff (action) : parseAction action.asStr = if Recognised action then some action else none := by
  have only : ∀ entry ∈ actionNames, (entry.1 == action.asStr) = true → entry = (action.asStr,action) := by
    intro entry mem hit
    rw [namesWritten] at mem
    obtain ⟨other,_,rfl⟩ := List.mem_map.mp mem
    rw [asStrInj (beq_iff_eq.mp hit)]
  unfold parseAction
  split
  case isTrue known =>
    obtain ⟨entry,mem,rfl⟩ := List.mem_map.mp known
    have written : (entry.2.asStr,entry.2) ∈ actionNames := by
      rw [namesWritten]
      exact List.mem_map_of_mem known
    have found := Rows.findOnly (p := fun other => other.1 == entry.2.asStr) written (beq_self_eq_true _) only
    rw [found]
    rfl
  case isFalse unknown =>
    rw [Option.map_eq_none_iff,List.find?_eq_none]
    intro entry mem hit
    rw [only entry mem hit] at mem
    exact unknown (List.mem_map_of_mem mem)

end OpenPanel.Audit
