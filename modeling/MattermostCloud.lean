import MattermostCloud.Model.ClusterInstallation
import MattermostCloud.Model.Store
import MattermostCloud.Supervisor.Transition
import MattermostCloud.Supervisor.Metrics
import MattermostCloud.Supervisor.Supervise
import MattermostCloud.Supervisor.Serialize
import MattermostCloud.Supervisor.StaleGuard
import MattermostCloud.Supervisor.AbsentRecord
import MattermostCloud.Supervisor.Outcome
import MattermostCloud.Supervisor.DoLoop
import MattermostCloud.Cloudflare.DNS
import MattermostCloud.Kops.Cluster
import MattermostCloud.Aws.PGBouncer
