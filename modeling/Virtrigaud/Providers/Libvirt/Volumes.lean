import Virtrigaud.Go.Ints
import Virtrigaud.Go.Strings

/-!
# Names of volumes and of staging files

How the libvirt provider names the files that it writes on the host: a volume after the
name that it is given, and the staging files of a transfer after the volume and the time.
-/

namespace Virtrigaud.Libvirt

/-- `sanitizeVolumeName`; the time is that of a name that comes out empty. -/
def sanitizeVolumeName (name : String) (time : Int) : String :=
  let cleaned := Go.trimSuffix
    (String.ofList (Go.replaceDots '-' (Go.replaceChar '/' '-' (Go.trimSpace name.toList))))
    ".qcow2"
  if cleaned = "" then "imported-disk-" ++ Go.formatInt time else cleaned

/-- The path of an imported volume: `fmt.Sprintf("%s/%s.qcow2", directory, volume)`. -/
def volumePath (directory : List Char) (volume : String) : List Char :=
  directory ++ '/' :: (volume.toList ++ ".qcow2".toList)

/-- `hostExportStagePath`, for the volume name of the VM's id. -/
def hostExportStagePath (srcPath : List Char) (volumeName : String) (time : Int) : List Char :=
  (Go.beforeLast '/' srcPath).rdropWhile (· = '/') ++ "/.virtrigaud-export-".toList ++
    volumeName.toList ++ '-' :: (Go.formatInt time).toList ++ ".qcow2".toList

/-- `hostStagePath`. -/
def hostStagePath (poolPath : List Char) (volumeName format : String) (time : Int) : List Char :=
  poolPath.rdropWhile (· = '/') ++ "/.virtrigaud-import-".toList ++ volumeName.toList ++
    '-' :: (Go.formatInt time).toList ++ '.' :: (if format = "" then "vmdk" else format).toList

end Virtrigaud.Libvirt
