import Kboot.Lib.Bytes
import Kboot.Lib.Store
import Kboot.Lib.Loops
import Kboot.Lib.Stdio
import Kboot.Lib.CString
import Kboot.Lib.Dd
import Kboot.Lib.Res
import Kboot.Lib.EventLog
import Kboot.Lib.Frame
import Kboot.Osip.Layout
import Kboot.Osip.Proc
import Kboot.Osip.ManageDevice
import Kboot.Osip.OsipUtils
import Kboot.Osip.UpdateOsip
import Kboot.Osip.Lemmas.Proc
import Kboot.Osip.Lemmas.ManageDevice
import Kboot.Osip.Lemmas.OsipUtils
import Kboot.Osip.Lemmas.Stitched
import Kboot.Osip.Lemmas.UpdateOsip
import Kboot.Osip.Lemmas.Scripts
import Kboot.Osip.Theorems.Checksum
import Kboot.Osip.Theorems.Maintenance
import Kboot.Osip.Theorems.Placement
import Kboot.Osip.Theorems.Faults
import Kboot.Osip.Theorems.Format
import Kboot.Osip.Lemmas.Payload
import Kboot.Osip.Theorems.PayloadPaths
import Kboot.Osip.Lemmas.Invalidate
import Kboot.Osip.Lemmas.Fields
import Kboot.Osip.Theorems.Descriptors
import Kboot.Osip.Theorems.Libosip
import Kboot.Osip.Theorems.PayloadRecord
import Kboot.Osip.Theorems.ReadOnly
import Kboot.Osip.Theorems.HeaderSlots
import Kboot.Osip.Lemmas.Cycle
import Kboot.Osip.Theorems.Cycle
import Kboot.Fw.IfwiUpdate
import Kboot.Fw.IfwiVersionCheck
import Kboot.Fw.Loadfw
import Kboot.Fw.Theorems.Fuph
import Kboot.Fw.Theorems.DeviceId
import Kboot.Fw.Theorems.Fip
import Kboot.Fw.Theorems.FwRev
import Kboot.Fw.Theorems.IfwiMain
import Kboot.Fw.Theorems.IfwiNode
import Kboot.Fw.Theorems.Loadfw
import Kboot.Fw.Theorems.BinNames
import Kboot.Stitch.Script
import Kboot.Stitch.Layout
import Kboot.Stitch.RoundTrip
import Kboot.Stitch.Nand
