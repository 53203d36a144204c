import Virtrigaud.Clone.Binding
import Virtrigaud.Diskutil.QemuImg
import Virtrigaud.Migration.Attested
import Virtrigaud.Migration.Backoff
import Virtrigaud.Migration.Exclusion
import Virtrigaud.Migration.MountLiveness
import Virtrigaud.Migration.Records
import Virtrigaud.Migration.Retries
import Virtrigaud.Migration.Sweeping
import Virtrigaud.Migration.Target
import Virtrigaud.Providers.Confinement
import Virtrigaud.Providers.Deletion
import Virtrigaud.Providers.Libvirt.Commands
import Virtrigaud.Providers.Libvirt.Deletion
import Virtrigaud.Providers.Libvirt.Hardware
import Virtrigaud.Providers.Libvirt.Primary
import Virtrigaud.Providers.Libvirt.Staging
import Virtrigaud.Providers.Proxmox.Form
import Virtrigaud.Providers.Proxmox.Nodes
import Virtrigaud.Providers.Tasks
import Virtrigaud.Providers.Vsphere.Devices
import Virtrigaud.Providers.Vsphere.Shutdown
import Virtrigaud.Providers.Vsphere.SnapshotTree
import Virtrigaud.Providers.Vsphere.Snapshots
import Virtrigaud.Providers.Vsphere.Uploads
import Virtrigaud.Resilience.Episodes
import Virtrigaud.Resilience.Registry
import Virtrigaud.Resilience.Retry
import Virtrigaud.Resolution
import Virtrigaud.Runtime.Ownership
import Virtrigaud.Runtime.Resolver
import Virtrigaud.Sdk.Server
import Virtrigaud.Silence
import Virtrigaud.Snapshot.Retention
import Virtrigaud.Storage.HostPolicy
import Virtrigaud.Storage.S3
import Virtrigaud.Transport.Inflight
import Virtrigaud.VM.Images
import Virtrigaud.VM.Isolation
import Virtrigaud.VM.Orphans
import Virtrigaud.VM.Power
import Virtrigaud.VM.Recreation
import Virtrigaud.VM.Sizing
