import Tobiko.Foundation.Interleaving
import Tobiko.Common.Lockutils
import Tobiko.Common.Shelves.Footprint
import Tobiko.Common.Shelves.Registration
import Tobiko.Common.Shelves.Exclusion
import Tobiko.Common.Shelves.Initialization
import Tobiko.Common.Retry
import Tobiko.Common.RetryTiming
import Tobiko.Common.Fixture.SharedFixture
import Tobiko.Openstack.Heat.StackSharing
import Tobiko.Shell.Ssh.Client
import Tobiko.Shell.Ssh.ProxyChain
import Tobiko.Common.TableData
import Tobiko.Common.TableSchema
import Tobiko.Common.TableQuery
import Tobiko.Foundation.ClassHierarchy
import Tobiko.Foundation.Worklist
import Tobiko.Common.Fixture.RequiredFixtures
import Tobiko.Common.Fixture.RequirementClosure
import Tobiko.Shell.Sh.Communicate
import Tobiko.Common.RetryLoop
import Tobiko.Openstack.Heat.StackCreation
import Tobiko.Openstack.Heat.CreationSafety
import Tobiko.Openstack.Topology.IndexConsistency
import Tobiko.Common.Operation.RunsOperations
import Tobiko.Common.Operation.Declarations
import Tobiko.Common.Operation.Discovery
import Tobiko.Common.Operation.Queries
import Tobiko.Common.Operation.DeclarationSteps
import Tobiko.Common.Operation.DeclaredNames
import Tobiko.Common.ExcInfos
import Tobiko.Common.Details
import Tobiko.Common.ObjectLoading.HistoryIndependence
import Tobiko.Common.ObjectLoading.ModuleLoading
import Tobiko.Foundation.Shlex
import Tobiko.Shell.Sh.Command
import Tobiko.Foundation.Registry
import Tobiko.Common.Fixture.FixtureManager
import Tobiko.Common.RetryOnException
import Tobiko.Common.TableUpdates
import Tobiko.Common.Skip.ClassDecorators
import Tobiko.Common.Skip.ClassSkips
import Tobiko.Openstack.Glance.ImageCreation
import Tobiko.Openstack.Glance.ImageSharing
import Tobiko.Shell.Sh.SetupCommand
import Tobiko.Foundation.PartialSum
import Tobiko.Shell.Ping.Statistics
import Tobiko.Shell.Ping.Parameters
import Tobiko.Shell.Ping.Rounds
import Tobiko.Shell.Ping.PacketBudget
import Tobiko.Shell.Ping.Accounting
import Tobiko.Foundation.Text
import Tobiko.Shell.Ping.Output
import Tobiko.Shell.Ss.Processes
import Tobiko.Shell.Ss.SocketLine
import Tobiko.Shell.Ss.Sockets
import Tobiko.Common.IniFile
import Tobiko.Common.IniComments
import Tobiko.Openstack.Topology.SshConnections
import Tobiko.Openstack.Topology.SshConnectionMemory
import Tobiko.Openstack.Topology.SshConnectionAnswers
import Tobiko.Openstack.Topology.GroupSelection
import Tobiko.Openstack.Nova.CloudInit
import Tobiko.Openstack.Nova.CombinedConfigs
import Tobiko.Openstack.Nova.CloudConfigLaws
import Tobiko.Foundation.Histogram
import Tobiko.Openstack.Octavia.TrafficBalance
import Tobiko.Openstack.Octavia.TrafficVerdict
import Tobiko.Openstack.Quotas.Increase
import Tobiko.Openstack.Quotas.Limits
import Tobiko.Openstack.Quotas.Assurance
import Tobiko.Shell.Sh.SystemdUnits
import Tobiko.Shell.Sh.SystemdWait
import Tobiko.Common.TableComparison
import Tobiko.Tripleo.Processes
import Tobiko.Tripleo.ProcessVerdict
import Tobiko.Tripleo.ProcessSoundness
import Tobiko.Common.TableWords
import Tobiko.Tripleo.ContainersRunning
import Tobiko.Tripleo.ContainersVerdict
import Tobiko.Foundation.KeyOrder
import Tobiko.Shell.Files.LogFileDigger
import Tobiko.Shell.Files.ReportedLines
import Tobiko.Shell.Files.MultihostLogFileDigger
import Tobiko.Openstack.Neutron.NovaResponseReader
import Tobiko.Openstack.Neutron.NovaResponseRuns
import Tobiko.Openstack.Neutron.NovaResponseVerdict
import Tobiko.Openstack.Octavia.Deployers
import Tobiko.Openstack.Octavia.DeployedResources
import Tobiko.Openstack.Octavia.ResumedDeployment
import Tobiko.Foundation.DictHeap
import Tobiko.Openstack.Keystone.DeepMerge
import Tobiko.Shell.Find.Command
import Tobiko.Shell.Find.Grammar
import Tobiko.Shell.Find.Verdict
import Tobiko.Openstack.Nova.CloudConfigFrame
import Tobiko.Foundation.Json
import Tobiko.Foundation.JsonLines
import Tobiko.Foundation.MaximalRuns
import Tobiko.Shell.Iperf3.ClientResults
import Tobiko.Shell.Iperf3.TrafficBreaks
import Tobiko.Shell.CustomScript.Results
import Tobiko.Openstack.Neutron.OvnDbShow
import Tobiko.Openstack.Neutron.OvnDumpComparison
import Tobiko.Openstack.Neutron.OvnConnections
import Tobiko.Foundation.PosixPath
import Tobiko.Shell.Ansible.Playbook
import Tobiko.Shell.Ansible.PlaybookPlaces
import Tobiko.Shell.Ansible.RunRequests
import Tobiko.Shell.Ansible.WorkFilesFaithful
import Tobiko.Shell.Ssh.ConnectParameters
import Tobiko.Shell.Ssh.ConnectPrecedence
import Tobiko.Foundation.Csv
import Tobiko.Foundation.Url
import Tobiko.Openstack.Keystone.Credentials
import Tobiko.Shell.Ssh.Forward
import Tobiko.Shell.Ssh.HostLookup
import Tobiko.Shell.Curl.HeaderBlocks
import Tobiko.Shell.Sh.SystemdTable
import Tobiko.Openstack.Glance.ImageDownload
import Tobiko.Shell.Sh.PutFiles
import Tobiko.Common.TableCsv
import Tobiko.Rhosp.TableDifference
import Tobiko.Rhosp.TableDifferenceVerdict
import Tobiko.Common.RetryDuration
import Tobiko.Common.StatusWait
import Tobiko.Openstack.Nova.ServerProtocol
import Tobiko.Common.RetryRecovery
import Tobiko.Openstack.Stacks.ServerRecovery
import Tobiko.Shell.Sh.Reboot
import Tobiko.Shell.Sh.RebootSafety
import Tobiko.Shell.Sh.ProcessDisposal
import Tobiko.Shell.Sh.ExecuteProcess
import Tobiko.Shell.Sh.ProcessVerdict
import Tobiko.Openstack.Neutron.RaftStatus
import Tobiko.Openstack.Neutron.RaftCluster
import Tobiko.Openstack.Neutron.RaftVerdict
import Tobiko.Shell.Sh.SshProcess
import Tobiko.Shell.Sh.SshProcessRuns
import Tobiko.Shell.Ping.PingHosts
import Tobiko.Common.TestCases
import Tobiko.Shell.Sh.ExternalProcess
import Tobiko.Shell.Ssh.SshConnect
import Tobiko.Shell.Ssh.SshConnectRuns
import Tobiko.Openstack.Base.ResourceFixture
import Tobiko.Openstack.Base.ResourceSharing
import Tobiko.Shell.Sh.ProcessTable
import Tobiko.Shell.Sh.ListProcesses
