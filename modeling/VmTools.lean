import VmTools.Python
import VmTools.Re
import VmTools.Iso.VolumeDescriptor
import VmTools.Iso.DirectoryRecord
import VmTools.Iso.Resolve
import VmTools.Iso.Main
import VmTools.Todo.Cleanup
import VmTools.Todo.Batch
import VmTools.Todo.Main
import VmTools.Todo.Classify
import VmTools.Todo.Scan
import VmTools.Fix.IfSameThenElse
import VmTools.Fix.BitMask
import VmTools.Rvc.Encodings
import VmTools.TestReport
