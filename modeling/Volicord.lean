import Volicord.Types.CanonicalJson
import Volicord.Store.ArtifactBodyRuns
import Volicord.Store.EventChain
import Volicord.Store.LaunchLeaseRuns
import Volicord.Store.ObservedChanges
import Volicord.Store.ReplayLaw
import Volicord.Guard.HostCallables
import Volicord.Guard.ReadOnly
import Volicord.Guard.WriteGate
import Volicord.Core.AuthorityHistory
import Volicord.Core.EventPreimage
import Volicord.Core.HandedTickets
import Volicord.Core.OperationResultPages
import Volicord.Core.Reconciliation
import Volicord.Core.TerminalTasks
import Volicord.Core.WriteAuthority
import Volicord.Core.WriteContainment
import Volicord.Cli.ManagedBlockLaws
