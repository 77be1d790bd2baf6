import CarlAgent.Storage.Reconciliation
import CarlAgent.Storage.ProviderMetadata
import CarlAgent.Storage.Abandoned
import CarlAgent.Engine.Steering
import CarlAgent.Engine.Live
import CarlAgent.Access.Receipts
import CarlAgent.Access.Owners
import CarlAgent.Access.Approvals
import CarlAgent.Task.CheckpointSecrets
import CarlAgent.Memory.Limits
import CarlAgent.Verification.Agreement
import CarlAgent.Sidecar.Runner
import CarlAgent.Artifacts.Runs
import CarlAgent.Codex.Approvals
import CarlAgent.Native.Tools
import CarlAgent.Server.Maintenance
import CarlAgent.Acp.Prompts
import CarlAgent.Acp.Buzz
import CarlAgent.Acp.Delivery
import CarlAgent.Cloud.Commands
import CarlAgent.Cloud.Promotion
