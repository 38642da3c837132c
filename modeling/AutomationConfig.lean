import AutomationConfig.Schema
import AutomationConfig.Setting
import AutomationConfig.Diagnostics
import AutomationConfig.Violation
import AutomationConfig.CommandLine.Run
import AutomationConfig.Storage.FileTree
import AutomationConfig.Storage.WorkingDirectory
import AutomationConfig.Config.Validation
import AutomationConfig.Monitor
import AutomationConfig.Pattern.Acceptance
import AutomationConfig.Pattern.Escape
import AutomationConfig.Connection.Consul
import AutomationConfig.Connection.Vault
import AutomationConfig.Daemon.Syslog
import AutomationConfig.Daemon.ServerTls
import AutomationConfig.Duration.Reading
import AutomationConfig.Document.Json
import AutomationConfig.Document.Toml
import AutomationConfig.Document.JsonText
import AutomationConfig.Text.Quoted
import AutomationConfig.Text.Letter
import AutomationConfig.Main
import AutomationConfig.Proofs.Advice
import AutomationConfig.Proofs.Buffering
import AutomationConfig.Proofs.Completeness
import AutomationConfig.Proofs.Deprecations
import AutomationConfig.Proofs.Directories
import AutomationConfig.Proofs.DistinctNames
import AutomationConfig.Proofs.Gathering
import AutomationConfig.Proofs.GivenPatterns
import AutomationConfig.Proofs.Keeping
import AutomationConfig.Proofs.Kinds
import AutomationConfig.Proofs.Loading
import AutomationConfig.Proofs.Modernizing
import AutomationConfig.Proofs.NamePatterns
import AutomationConfig.Proofs.Overriding
import AutomationConfig.Proofs.Reordering
import AutomationConfig.Proofs.Secrecy
import AutomationConfig.Proofs.Stability
import AutomationConfig.Proofs.SpelledFields
import AutomationConfig.Proofs.TypedBlocks
import AutomationConfig.Proofs.Trimming
import AutomationConfig.Proofs.CronGrammar
import AutomationConfig.Proofs.MonitorRules
import AutomationConfig.Proofs.StateBackend
import AutomationConfig.Proofs.OwnArguments
import AutomationConfig.Proofs.ProviderNames
import AutomationConfig.Proofs.VaultTemplates
import AutomationConfig.Proofs.DerivedDirectories
import AutomationConfig.Proofs.Collecting
import AutomationConfig.Proofs.TerraformRules
import AutomationConfig.Proofs.FileTrees
import AutomationConfig.Proofs.Rendering
import AutomationConfig.Proofs.Inspection
